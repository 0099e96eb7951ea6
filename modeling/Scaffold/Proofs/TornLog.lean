import Mathlib.Data.List.DropRight
import Scaffold.Proofs.BalancedReaders
import Scaffold.Proofs.LogReload

/-!
# Logs that break off

An entry is added at the end of the log, also when the last line there has not been ended. The two
then stand on one line, and what could be read of either is lost, unless the line was blank: no text
in front of an entry makes an entry with it, since the brackets of the entry close themselves and
nothing else.

* `Text.openLine`: the last line of a text, when no newline ends it.
* `LogEntry.consumes_reader`: an entry is read up to the bracket that closes it.
* `LogEntry.ofLine?_append_compact_of_blank`, `LogEntry.ofLine?_append_compact_of_torn`: what a line
  gives that an entry has been added to.
* `Log.load_after_add`: what a log loads as after an addition, whatever it held before.
-/

namespace Scaffold

open Json (Reader)
open Json.Reader (isSpace TakesBalanced Consumes takesBalanced_record takesBalanced_choice
  takesBalanced_text takesBalanced_count)

/-! ### Readers of the parts of an entry -/

theorem Property.takesBalanced_reader : TakesBalanced Property.reader := by
  refine takesBalanced_record ?_ _ _
  simp only [jsonFields, List.forall_mem_cons]
  exact ⟨fun _ => takesBalanced_text.bind_pure _, fun _ => takesBalanced_text.bind_pure _, nofun⟩

theorem Entity.takesBalanced_reader : TakesBalanced Entity.reader := by
  refine takesBalanced_record ?_ _ _
  simp only [jsonFields, List.forall_mem_cons]
  exact ⟨fun _ => takesBalanced_text.bind_pure _,
    fun _ => Property.takesBalanced_reader.list.bind_pure _, nofun⟩

theorem Json.takesBalanced_single {α : Type} {read : Reader α} (h : TakesBalanced read)
    (name : String) : TakesBalanced (Reader.single name read) := by
  refine takesBalanced_record ?_ _ _
  simp only [List.forall_mem_cons]
  exact ⟨fun _ => h.map _, nofun⟩

theorem Json.takesBalanced_pair {α β : Type} {readFirst : Reader α} {readSecond : Reader β}
    (h : TakesBalanced readFirst) (h' : TakesBalanced readSecond) (first second : String) :
    TakesBalanced (Reader.pair first readFirst second readSecond) := by
  refine takesBalanced_record ?_ _ _
  simp only [List.forall_mem_cons]
  exact ⟨fun _ => h.bind_pure _, fun _ => h'.bind_pure _, nofun⟩

theorem Operation.takesBalanced_reader : TakesBalanced Operation.reader := by
  have hpath : TakesBalanced Path.reader := takesBalanced_text.map _
  refine takesBalanced_choice ?_
  simp only [List.forall_mem_cons]
  exact ⟨(Json.takesBalanced_single Entity.takesBalanced_reader _).map _,
    (Json.takesBalanced_single takesBalanced_text _).map _,
    (Json.takesBalanced_pair hpath takesBalanced_count _ _).map _,
    (Json.takesBalanced_pair hpath takesBalanced_text _ _).map _,
    (Json.takesBalanced_pair takesBalanced_count Json.Reader.takesBalanced_bool _ _).map _, nofun⟩

theorem Status.takesBalanced_reader : TakesBalanced Status.reader := by
  refine takesBalanced_choice fun alternative hmem => ?_
  obtain ⟨s, -, rfl⟩ := List.mem_map.mp hmem
  exact Json.Reader.takesBalanced_null.bind_pure fun _ => s

theorem Metadata.takesBalanced_reader : TakesBalanced Metadata.reader := by
  refine takesBalanced_record ?_ _ _
  simp only [jsonFields, List.forall_mem_cons]
  exact ⟨fun _ => takesBalanced_text.bind_pure _,
    fun _ => takesBalanced_text.optional.bind_pure _,
    fun _ => takesBalanced_count.optional.bind_pure _,
    fun _ => Status.takesBalanced_reader.bind_pure _, nofun⟩

theorem Instant.takesBalanced_reader : TakesBalanced Instant.reader := by
  intro s
  refine .bind (takesBalanced_text s) fun text t => ?_
  split
  · exact .pure (.nil _)
  · exact .throw _

/-- An entry is read up to the bracket that closes it. -/
theorem LogEntry.consumes_reader (s : List Char) :
    Consumes Json.Bracketed LogEntry.reader s := by
  refine Json.Reader.consumes_record ?_ _ _ s
  simp only [jsonFields, List.forall_mem_cons]
  exact ⟨fun _ => takesBalanced_text.bind_pure _,
    fun _ => Instant.takesBalanced_reader.bind_pure _,
    fun _ => Operation.takesBalanced_reader.bind_pure _,
    fun _ => Metadata.takesBalanced_reader.bind_pure _, nofun⟩

/-! ### The last line of a text -/

namespace Text

/-- What stands behind the last newline of a text: a line that has not been ended. -/
def openLine (s : String) : String := String.ofList (s.toList.rtakeWhile (· ≠ '\n'))

theorem no_newline_openLine (s : String) : '\n' ∉ (openLine s).toList := by
  rw [openLine, String.toList_ofList]
  intro hmem
  have hother := List.mem_rtakeWhile_imp hmem
  exact of_decide_eq_true hother rfl

theorem openLine_of_no_newline {s : String} (h : '\n' ∉ s.toList) : openLine s = s := by
  have hall : s.toList.rtakeWhile (· ≠ '\n') = s.toList :=
    List.rtakeWhile_eq_self_iff.mpr fun c hc => decide_eq_true (ne_of_mem_of_not_mem hc h)
  rw [openLine, hall, String.ofList_toList]

/-- The lines in front of the last one have been ended. -/
theorem exists_append_openLine (s : String) :
    ∃ ended, s = ended ++ openLine s ∧ (ended = "" ∨ ∃ t, ended = t ++ "\n") := by
  refine ⟨String.ofList (s.toList.rdropWhile (· ≠ '\n')), ?_, ?_⟩
  · rw [openLine, ← String.ofList_append, List.rdropWhile_append_rtakeWhile, String.ofList_toList]
  · rcases List.eq_nil_or_concat (s.toList.rdropWhile (· ≠ '\n')) with hnil | ⟨t, c, hconcat⟩
    · rw [hnil]
      exact Or.inl rfl
    · have hne : s.toList.rdropWhile (· ≠ '\n') ≠ [] := by
        rw [hconcat]
        simp
      have hlast : (s.toList.rdropWhile (· ≠ '\n')).getLast hne = c := by
        apply Option.some.inj
        rw [← List.getLast?_eq_some_getLast hne, hconcat]
        simp
      have hc : c = '\n' := by
        have hstop := List.rdropWhile_last_not _ _ hne
        rw [hlast] at hstop
        simpa using hstop
      refine Or.inr ⟨String.ofList t, ?_⟩
      rw [hconcat, hc, List.concat_eq_append, String.ofList_append]

/-- Ended lines are the same whatever stands behind them. -/
theorem splitLines_append_ended {ended : String} (h : ended = "" ∨ ∃ t, ended = t ++ "\n")
    (s : String) :
    splitLines (encode (ended ++ s)) = splitLines (encode ended) ++ splitLines (encode s) := by
  rcases h with rfl | ⟨t, rfl⟩
  · rw [String.empty_append, splitLines_encode_empty, List.nil_append]
  · have hnewline : encode "\n" = [newline] := rfl
    rw [encode_append, encode_append, hnewline, List.append_assoc, List.singleton_append]
    exact splitLines_append_of_ended _ _

end Text

namespace LogEntry

/-! ### Entries behind other texts -/

theorem balanced_compact {e : LogEntry} (h : e.Countable) :
    Json.Balanced e.json.compact.toList := by
  obtain ⟨taken, htaken, hsplit⟩ := consumes_reader _ _ _ (decodes_json h [] .nil)
  rw [List.append_nil, List.append_nil] at hsplit
  rw [hsplit]
  exact htaken.balanced

/-- Blanks in front of an entry do not matter. -/
theorem ofLine?_append_compact_of_blank {front : String} {e : LogEntry}
    (hfront : ∀ c ∈ front.toList, isSpace c = true) (h : e.Countable) :
    ofLine? (front ++ e.json.compact) = some e := by
  have hread : reader (front ++ e.json.compact).toList = .ok (e, []) := by
    rw [String.toList_append, reader, Json.record_blanks hfront, ← reader,
      ← List.append_nil e.json.compact.toList]
    exact decodes_json h [] .nil
  rw [ofLine?, isBlankText_compact, if_neg Bool.false_ne_true, ofJson, Reader.run, hread]
  rfl

/-- A text in front of an entry that is not blank takes the entry with it. -/
theorem ofLine?_append_compact_of_torn {front : String} {e : LogEntry}
    (hfront : ¬∀ c ∈ front.toList, isSpace c = true) (h : e.Countable) :
    ofLine? (front ++ e.json.compact) = none := by
  rw [ofLine?, isBlankText_compact, if_neg Bool.false_ne_true]
  cases hread : ofJson (front ++ e.json.compact) with
  | error => rfl
  | ok entry =>
    exfalso
    rw [ofJson, Reader.run] at hread
    obtain ⟨⟨a, rest⟩, hok, hend⟩ := bind_eq_ok_iff.mp hread
    obtain ⟨taken, htaken, hsplit⟩ := consumes_reader _ a rest hok
    obtain ⟨cs, hcs⟩ := e.exists_compact
    have hbalanced := balanced_compact h
    rw [hcs] at hbalanced
    rw [String.toList_append, hcs] at hsplit
    cases hblank : rest.dropWhile isSpace with
    | nil =>
      exact Json.not_bracketed_of_torn htaken (List.dropWhile_eq_nil_iff.mp hblank) hsplit
        hfront hbalanced fun _ => rfl
    | cons c cs =>
      simp only [hblank] at hend
      cases hend

/-- The end of a text ends a line just as a newline does. -/
theorem withoutEnding_open {line : String} (h : '\n' ∉ line.toList) :
    Text.withoutEnding line = Text.withoutEnding (line ++ "\n") := by
  rw [Text.withoutEnding_of_no_newline h, Text.withoutEnding_newline]

/-- A blank line that has not been ended gives nothing. -/
theorem ofLine?_blank {line : String} (hline : '\n' ∉ line.toList)
    (h : ∀ c ∈ line.toList, isSpace c = true) : ofLine? (Text.withoutEnding line) = none := by
  have hblank : ∀ c, isSpace c = true → Text.isBlank c = true := by
    intro c hc
    simp only [isSpace, Bool.or_eq_true, beq_iff_eq] at hc
    rcases hc with ((rfl | rfl) | rfl) | rfl <;> decide
  have htext : Text.isBlankText line = true :=
    List.all_eq_true.mpr fun c hc => hblank c (h c hc)
  rw [withoutEnding_open hline, ofLine?, Text.isBlankText_withoutEnding, if_pos htext]

/-- A line by itself gives an entry or nothing, whether it has been ended or not. -/
theorem ofLines_open (line : String) (h : '\n' ∉ line.toList) :
    ofLines (Text.splitLines (Text.encode line)) =
      .ok (ofLine? (Text.withoutEnding line)).toList := by
  by_cases hempty : line = ""
  · subst hempty
    rw [Text.splitLines_encode_empty, ofLine?_blank h (by simp)]
    rfl
  · rw [Text.splitLines_encode_last hempty h]
    exact (ofLines_cons rfl).trans (by rw [List.append_nil])

end LogEntry

/-! ### Adding to a log -/

namespace Log

/-- An entry is added at the end of what a log holds. -/
theorem read_of_add {log : Path} {e : LogEntry} {s s' : Session} {content : Text.Bytes}
    (hread : s.files.read s.here log = .ok content)
    (hadd : add Session.host log e s = (.ok (), s')) :
    s'.files.read s'.here log = .ok (content ++ Text.encode e.line) := by
  obtain ⟨l, hwritable, hopens⟩ := opens_of_addTo (a := .entry e) hadd
  have hfile := FileSystem.get?_of_read hread
  rw [← FileSystem.writable_eq_resolve hwritable] at hfile
  have hcontent : s.files.contentAt l = content := by
    rw [FileSystem.contentAt, hfile]
  rw [hcontent] at hopens
  exact hopens.read

/-- The last line of a log, if it has not been ended, and the entry that is added are read as one
line. -/
theorem loads_around_add {log : Path} {text : String} {e : LogEntry} {s s' : Session}
    (hread : s.files.read s.here log = .ok (Text.encode text))
    (hadd : add Session.host log e s = (.ok (), s')) :
    ∃ kept,
      load Session.host log s =
        (.ok (kept ++ (LogEntry.ofLine? (Text.withoutEnding (Text.openLine text))).toList), s) ∧
      load Session.host log s' =
        (.ok (kept ++ (LogEntry.ofLine? (Text.openLine text ++ e.json.compact)).toList), s') := by
  obtain ⟨ended, htext, hended⟩ := Text.exists_append_openLine text
  have hopen := Text.no_newline_openLine text
  generalize Text.openLine text = torn at htext hopen
  subst htext
  obtain ⟨kept, hkept⟩ := LogEntry.exists_ofLines ended
  have hjoined : '\n' ∉ (torn ++ e.json.compact).toList := by
    rw [String.toList_append, List.mem_append, not_or]
    exact ⟨hopen, Json.no_newline_compact e.json⟩
  have hbytes : Text.encode (ended ++ torn) ++ Text.encode e.line =
      Text.encode (ended ++ (torn ++ e.json.compact ++ "\n")) := by
    rw [← Text.encode_append, LogEntry.line]
    simp only [String.append_assoc]
  have hlast := LogEntry.ofLines_single _ hjoined
  rw [LogEntry.withoutEnding_compact] at hlast
  refine ⟨kept, ?_, ?_⟩
  · rw [load_of_read hread, Text.splitLines_append_ended hended,
      LogEntry.ofLines_append hkept (LogEntry.ofLines_open torn hopen)]
  · rw [load_of_read (read_of_add hread hadd), hbytes, Text.splitLines_append_ended hended,
      LogEntry.ofLines_append hkept hlast]

/-- An entry is added to what a log holds exactly if the last line of the log has been ended or is
blank. Otherwise the entry is lost, together with what the last line was read as. -/
theorem load_after_add (log : Path) (text : String) (e : LogEntry) (s s' : Session)
    (hread : s.files.read s.here log = .ok (Text.encode text)) (he : e.Countable)
    (hadd : add Session.host log e s = (.ok (), s')) :
    ∃ before after, load Session.host log s = (.ok before, s) ∧
      load Session.host log s' = (.ok after, s') ∧
      (after = before ++ [e] ↔ ∀ c ∈ (Text.openLine text).toList, isSpace c = true) ∧
      ((∃ c ∈ (Text.openLine text).toList, isSpace c = false) →
        before = after ++ (LogEntry.ofLine? (Text.withoutEnding (Text.openLine text))).toList) := by
  obtain ⟨kept, hbefore, hafter⟩ := loads_around_add hread hadd
  have hopen := Text.no_newline_openLine text
  refine ⟨_, _, hbefore, hafter, ⟨fun hadded => ?_, fun hblank => ?_⟩, fun ⟨c, hc, hnot⟩ => ?_⟩
  · by_contra htorn
    rw [LogEntry.ofLine?_append_compact_of_torn htorn he] at hadded
    have hlength := congrArg List.length hadded
    simp only [List.length_append, Option.toList_none, List.length_nil, List.length_singleton]
      at hlength
    omega
  · rw [LogEntry.ofLine?_append_compact_of_blank hblank he, LogEntry.ofLine?_blank hopen hblank]
    simp
  · have htorn : ¬∀ c ∈ (Text.openLine text).toList, isSpace c = true := by
      intro hblank
      rw [hblank c hc] at hnot
      cases hnot
    rw [LogEntry.ofLine?_append_compact_of_torn htorn he, Option.toList_none, List.append_nil]

/-- An addition that was cut off, and another one behind it. -/
theorem load_after_add_of_cut_off :
    let e : LogEntry := ⟨"gen_0", ⟨0, 0, by decide⟩, .runCompleted 14 false,
      ⟨"cqrsgen", none, some 3, .success⟩⟩
    let text := e.line ++ "\x7b\"id\":\"gen_1\",\"timest"
    e.Countable ∧ ∃ s s' : Session,
      s.files.read s.here ⟨"run.jsonl"⟩ = .ok (Text.encode text) ∧
      add Session.host ⟨"run.jsonl"⟩ e s = (.ok (), s') ∧
      ∃ before after, load Session.host ⟨"run.jsonl"⟩ s = (.ok before, s) ∧
        load Session.host ⟨"run.jsonl"⟩ s' = (.ok after, s') ∧
        (after = before ++ [e] ↔ ∀ c ∈ (Text.openLine text).toList, isSpace c = true) ∧
        ((∃ c ∈ (Text.openLine text).toList, isSpace c = false) → before =
          after ++ (LogEntry.ofLine? (Text.withoutEnding (Text.openLine text))).toList) := by
  intro e text
  have hcount : 14 ≤ Json.Reader.countLimit ∧ 3 ≤ Json.Reader.countLimit := by decide
  have he : e.Countable := ⟨hcount.1, fun n hn => by cases hn; exact hcount.2⟩
  obtain ⟨s, hwritable, hread⟩ := exists_log (Text.encode text)
  obtain ⟨s', hadd, -⟩ := exists_addTo (.entry e) hwritable
  exact ⟨he, s, s', hread, hadd, load_after_add ⟨"run.jsonl"⟩ text e s s' hread he hadd⟩

/-- An entry whose newline is missing is lost together with the entry that is added behind it. -/
theorem loads_of_open_entry {log : Path} {first second : LogEntry} {s s' : Session}
    (hfirst : first.Countable) (hsecond : second.Countable)
    (hread : s.files.read s.here log = .ok (Text.encode first.json.compact))
    (hadd : add Session.host log second s = (.ok (), s')) :
    load Session.host log s = (.ok [first], s) ∧ load Session.host log s' = (.ok [], s') := by
  have hopen := Json.no_newline_compact first.json
  have htorn : ¬∀ c ∈ first.json.compact.toList, isSpace c = true := by
    obtain ⟨cs, hcs⟩ := first.exists_compact
    intro hblank
    have hbrace := hblank '\x7b' (by rw [hcs]; exact List.mem_cons_self)
    cases hbrace
  have hentry : LogEntry.ofLine? (Text.withoutEnding first.json.compact) = some first := by
    rw [LogEntry.withoutEnding_open hopen, ← LogEntry.line, LogEntry.ofLine?_line hfirst]
  have hload : load Session.host log s = (.ok [first], s) := by
    rw [load_of_read hread, LogEntry.ofLines_open _ hopen, hentry]
    rfl
  obtain ⟨kept, hbefore, hafter⟩ := loads_around_add hread hadd
  rw [Text.openLine_of_no_newline hopen] at hbefore hafter
  rw [LogEntry.ofLine?_append_compact_of_torn htorn hsecond] at hafter
  have hkept : kept = [] := by
    rw [hload, hentry] at hbefore
    exact List.self_eq_append_left.mp (Except.ok.inj (Prod.mk.inj hbefore).1)
  rw [hkept] at hafter
  exact ⟨hload, hafter⟩

/-- What was read before an addition that succeeds need not be read after it. -/
theorem load_forgets_open_entry :
    let first : LogEntry := ⟨"gen_0", ⟨0, 0, by decide⟩, .parseFailed "first",
      ⟨"s", none, none, .failed⟩⟩
    let second : LogEntry := ⟨"gen_1000000000", ⟨1, 0, by decide⟩, .parseFailed "second",
      ⟨"s", none, none, .failed⟩⟩
    first.Countable ∧ second.Countable ∧ ∃ s s' : Session,
      s.files.read s.here ⟨"run.jsonl"⟩ = .ok (Text.encode first.json.compact) ∧
      add Session.host ⟨"run.jsonl"⟩ second s = (.ok (), s') ∧
      load Session.host ⟨"run.jsonl"⟩ s = (.ok [first], s) ∧
      load Session.host ⟨"run.jsonl"⟩ s' = (.ok [], s') := by
  intro first second
  have hfirst : first.Countable := ⟨trivial, nofun⟩
  have hsecond : second.Countable := ⟨trivial, nofun⟩
  clear_value first second
  obtain ⟨s, hwritable, hread⟩ := exists_log (Text.encode first.json.compact)
  obtain ⟨s', hadd, -⟩ := exists_addTo (.entry second) hwritable
  obtain ⟨hbefore, hafter⟩ := loads_of_open_entry hfirst hsecond hread hadd
  exact ⟨hfirst, hsecond, s, s', hread, hadd, hbefore, hafter⟩

end Log

end Scaffold
