import Mathlib.Data.List.Forall2
import Scaffold.Proofs.EntryText
import Scaffold.Proofs.Execution
import Scaffold.Proofs.LogLines
import Scaffold.Proofs.Places

/-!
# Logs read back

A log that is begun and then added to, by entries and by lines that come from elsewhere, loads as
what was added, piece by piece: every entry is itself again, and lines from elsewhere give what
they would give alone. So lines that are no entries do not damage their neighbours, and nothing is
lost, changes its place or appears twice.

* `LogEntry.ofLine?_line`: an entry is read back from its line.
* `LogEntry.ofLines_append`, `LogEntry.exists_ofLines`: lines are read one by one, and lines of text
  can always be read.
* `Log.Adds`, `Log.Gives`: what is added to a log, and what an addition gives when the log is
  loaded.
* `Log.load_of_adds`: a log loads as what its additions give.
-/

namespace Scaffold

open Text (Bytes)

/-! ### Reading lines -/

namespace LogEntry

/-- The text of an entry begins with the first letter of a name. -/
theorem exists_compact (e : LogEntry) :
    ∃ cs, e.json.compact.toList = '\x7b' :: '"' :: 'i' :: (cs ++ ['\x7d']) := by
  have hname : (Json.quote "id").toList = ['"', 'i', 'd', '"'] := by decide
  rw [json, ← List.append_nil (Json.compact _).toList, Json.toList_object,
    Json.toList_compactMembers_cons, Json.memberText, hname]
  exact ⟨_, rfl⟩

/-- The ending of a line is told from the entry in front of it. -/
theorem withoutEnding_compact (front : String) (e : LogEntry) :
    Text.withoutEnding (front ++ e.json.compact ++ "\n") = front ++ e.json.compact := by
  obtain ⟨cs, hcs⟩ := e.exists_compact
  have htext : (front ++ e.json.compact).toList =
      (front.toList ++ '\x7b' :: '"' :: 'i' :: cs) ++ ['\x7d'] := by
    rw [String.toList_append, hcs, List.append_assoc]
    rfl
  have hkept : Text.dropFinal '\r' (front ++ e.json.compact).toList =
      (front ++ e.json.compact).toList := by
    rw [Text.dropFinal, if_neg]
    rw [htext, List.getLast?_concat]
    decide
  rw [Text.withoutEnding_newline, hkept, String.ofList_toList]

/-- A line with an entry in it is not blank. -/
theorem isBlankText_compact (front : String) (e : LogEntry) :
    Text.isBlankText (front ++ e.json.compact) = false := by
  have hbrace : Text.isBlank '\x7b' = false := by decide
  obtain ⟨cs, hcs⟩ := e.exists_compact
  rw [Text.isBlankText, String.toList_append, hcs, List.all_append, List.all_cons, hbrace,
    Bool.false_and, Bool.and_false]

/-- An entry is read back from its line. -/
theorem ofLine?_line {e : LogEntry} (h : e.Countable) :
    ofLine? (Text.withoutEnding e.line) = some e := by
  have hline := withoutEnding_compact "" e
  have hblank := isBlankText_compact "" e
  rw [String.empty_append] at hline hblank
  rw [line, hline, ofLine?, hblank, ofJson_compact h]
  rfl

theorem ofLines_cons {line : String} {lines : List Bytes} {entries : List LogEntry}
    (h : ofLines lines = .ok entries) :
    ofLines (Text.encode line :: lines) =
      .ok ((ofLine? (Text.withoutEnding line)).toList ++ entries) := by
  rw [ofLines, Text.decode?_encode, h]
  rfl

/-- Lines are read one after the other. -/
theorem ofLines_append {lines lines' : List Bytes} {entries entries' : List LogEntry}
    (h : ofLines lines = .ok entries) (h' : ofLines lines' = .ok entries') :
    ofLines (lines ++ lines') = .ok (entries ++ entries') := by
  induction lines generalizing entries with
  | nil =>
    cases h
    exact h'
  | cons bytes lines ih =>
    rw [ofLines] at h
    rw [List.cons_append, ofLines]
    cases hline : Text.decode? bytes with
    | none =>
      rw [hline] at h
      cases h
    | some line =>
      rw [hline] at h
      obtain ⟨rest, hrest, hentries⟩ := bind_eq_ok_iff.mp h
      dsimp only
      rw [ih hrest, ← Except.ok.inj hentries, List.append_assoc]
      rfl

/-- A text can be read line by line, whatever its lines say. -/
theorem exists_ofLines (s : String) :
    ∃ entries, ofLines (Text.splitLines (Text.encode s)) = .ok entries := by
  induction s using Text.lines_induction with
  | empty => exact ⟨[], by rw [Text.splitLines_encode_empty, ofLines]⟩
  | last s hne hline =>
    rw [Text.splitLines_encode_last hne hline]
    exact ⟨_, ofLines_cons rfl⟩
  | line first rest hline ih =>
    obtain ⟨entries, hentries⟩ := ih
    rw [Text.splitLines_encode_line hline]
    exact ⟨_, ofLines_cons hentries⟩

/-- A line by itself gives an entry or nothing. -/
theorem ofLines_single (line : String) (h : '\n' ∉ line.toList) :
    ofLines (Text.splitLines (Text.encode (line ++ "\n"))) =
      .ok (ofLine? (Text.withoutEnding (line ++ "\n"))).toList := by
  have hcut := Text.splitLines_encode_line h ""
  have hnil : ofLines [] = .ok [] := rfl
  rw [String.append_empty, Text.splitLines_encode_empty] at hcut
  rw [hcut, ofLines_cons hnil, List.append_nil]

theorem ofLines_line {e : LogEntry} (h : e.Countable) :
    ofLines (Text.splitLines (Text.encode e.line)) = .ok [e] := by
  have hsingle := ofLines_single _ (Json.no_newline_compact e.json)
  rw [← line, ofLine?_line h] at hsingle
  exact hsingle

end LogEntry

namespace Log

/-! ### Additions -/

/-- What is added to a log: an entry, or lines that come from elsewhere. -/
inductive Addition where
  | entry (e : LogEntry)
  | lines (text : String)

namespace Addition

/-- The text that is added. -/
def text : Addition → String
  | entry e => e.line
  | lines text => text

/-- Adds to a log. -/
def addTo (log : Path) : Addition → StateM Session (Except Fault Unit)
  | entry e => Log.add Session.host log e
  | lines text => Session.host.append log (Text.encode text)

/-- An entry has counts that can be read, and lines end where the next addition begins. -/
def IsWhole : Addition → Prop
  | entry e => e.Countable
  | lines text => text.toList.getLast? = some '\n'

theorem addTo_run (log : Path) (a : Addition) (s : Session) :
    a.addTo log s = s.settle (s.files.append s.here log (Text.encode a.text)) := by
  cases a <;> rfl

/-- Every addition is at least one line and ends with one. -/
theorem exists_text {a : Addition} (h : a.IsWhole) : ∃ s, a.text = s ++ "\n" := by
  cases a with
  | entry e => exact ⟨_, rfl⟩
  | lines text =>
    obtain ⟨cs, hcs⟩ := List.getLast?_eq_some_iff.mp h
    refine ⟨String.ofList cs, String.toList_injective ?_⟩
    rw [String.toList_append, String.toList_ofList]
    exact hcs

end Addition

/-- Additions are made to a log one after the other, and all of them succeed. -/
inductive Adds (log : Path) : Session → List Addition → Session → Prop where
  | done (s : Session) : Adds log s [] s
  | added {s s' s'' : Session} {a : Addition} {rest : List Addition}
      (h : a.addTo log s = (.ok (), s')) (hrest : Adds log s' rest s'') : Adds log s (a :: rest) s''

/-- What an addition gives when the log is loaded: an entry gives itself, and lines give what any
file gives that holds nothing else. -/
inductive Gives : Addition → List LogEntry → Prop where
  | entry (e : LogEntry) : Gives (.entry e) [e]
  | lines {text : String} {entries : List LogEntry}
      (h : ∀ (s : Session) (p : Path), s.files.read s.here p = .ok (Text.encode text) →
        Log.load Session.host p s = (.ok entries, s)) :
      Gives (.lines text) entries

/-! ### Adding and loading -/

section

variable {log : Path} {l : Location} {s s' : Session} {a : Addition} {additions : List Addition}
  {content : Bytes}

theorem holds_of_read (h : s.files.read s.here log = .ok content) :
    s.files.holds s.here log = true := by
  obtain ⟨l, hlocate, -⟩ := bind_eq_ok_iff.mp h
  rw [FileSystem.holds, hlocate]

/-- A file is loaded line by line. -/
theorem load_of_read (h : s.files.read s.here log = .ok content) :
    load Session.host log s = (LogEntry.ofLines (Text.splitLines content), s) := by
  have hholds : Session.host.holds log s = (true, s) := by
    rw [← holds_of_read h]
    rfl
  have hread : Session.host.read log s = (.ok content, s) := by
    rw [← h]
    rfl
  rw [load, Session.run_bind, hholds]
  simp only [if_true]
  rw [Session.run_bind, hread]
  rfl

/-- Where nothing is found, a log is empty. -/
theorem load_of_not_holds (h : s.files.holds s.here log = false) :
    load Session.host log s = (.ok [], s) := by
  have hholds : Session.host.holds log s = (false, s) := by
    rw [← h]
    rfl
  rw [load, Session.run_bind, hholds]
  rfl

/-- A log that can be added to has no content before anything is found there. -/
theorem contentAt_of_not_holds (h : s.files.holds s.here log = false)
    (hwritable : s.files.writable s.here log = .ok l) : s.files.contentAt l = [] := by
  rw [FileSystem.contentAt]
  split
  · next hfile =>
    rw [holds_of_read (FileSystem.read_of_writable hwritable hfile)] at h
    cases h
  · rfl

/-- An addition that succeeds is there at the end of the log. -/
theorem opens_of_addTo (h : a.addTo log s = (.ok (), s')) :
    ∃ l, s.files.writable s.here log = .ok l ∧
      s'.files.Opens s'.here log l (s.files.contentAt l ++ Text.encode a.text) := by
  rw [Addition.addTo_run] at h
  cases happend : s.files.append s.here log (Text.encode a.text) with
  | error fault =>
    rw [happend] at h
    cases h
  | ok files =>
    rw [happend] at h
    cases h
    obtain ⟨l, hwritable, hput⟩ := bind_eq_ok_iff.mp happend
    cases hput
    exact ⟨l, hwritable, .put hwritable⟩

/-- Additions are found in the log one behind the other. -/
theorem Adds.opens (h : Adds log s additions s') (hopens : s.files.Opens s.here log l content) :
    s'.files.Opens s'.here log l
      (content ++ additions.flatMap fun a => Text.encode a.text) := by
  induction h generalizing content with
  | done s => simpa using hopens
  | @added s s₁ s₂ a rest hadd _ ih =>
    obtain ⟨m, hwritable, hopens₁⟩ := opens_of_addTo hadd
    cases hopens.writable.symm.trans hwritable
    rw [hopens.contentAt] at hopens₁
    have hend := ih hopens₁
    rwa [List.append_assoc] at hend

/-- A log that is begun by additions holds them and nothing else. -/
theorem Adds.read (h : Adds log s (a :: additions) s')
    (hnew : s.files.holds s.here log = false) :
    s'.files.read s'.here log =
      .ok ((a :: additions).flatMap fun a => Text.encode a.text) := by
  cases h with
  | added hadd hrest =>
    obtain ⟨l, hwritable, hopens⟩ := opens_of_addTo hadd
    rw [contentAt_of_not_holds hnew hwritable] at hopens
    exact (hrest.opens hopens).read

/-- A log that can be added to takes whatever is added, and can be added to again. -/
theorem exists_addTo (a : Addition) (h : s.files.writable s.here log = .ok l) :
    ∃ s', a.addTo log s = (.ok (), s') ∧ s'.files.writable s'.here log = .ok l := by
  let files := s.files.put l (.file (s.files.contentAt l ++ Text.encode a.text))
  have hadd : a.addTo log s = (.ok (), { s with files }) := by
    rw [Addition.addTo_run, FileSystem.append, h]
    rfl
  exact ⟨{ s with files }, hadd, (FileSystem.Opens.put h).writable⟩

theorem exists_adds (additions : List Addition) (h : s.files.writable s.here log = .ok l) :
    ∃ s', Adds log s additions s' := by
  induction additions generalizing s with
  | nil => exact ⟨s, .done s⟩
  | cons a additions ih =>
    obtain ⟨s₁, hadd, hwritable⟩ := exists_addTo a h
    obtain ⟨s', hrest⟩ := ih hwritable
    exact ⟨s', .added hadd hrest⟩

end

/-! ### What additions give -/

/-- Bytes of any kind can be the content of a log that can be added to. -/
theorem exists_log (bytes : Bytes) :
    ∃ s : Session, s.files.writable s.here ⟨"run.jsonl"⟩ = .ok ["run.jsonl"] ∧
      s.files.read s.here ⟨"run.jsonl"⟩ = .ok bytes := by
  let empty : FileSystem := {}
  have hwritable : empty.writable [] ⟨"run.jsonl"⟩ = .ok ["run.jsonl"] := rfl
  have hopens : (empty.put ["run.jsonl"] (.file bytes)).Opens [] ⟨"run.jsonl"⟩ ["run.jsonl"]
      bytes := .put hwritable
  exact ⟨{ files := empty.put ["run.jsonl"] (.file bytes) }, hopens.writable, hopens.read⟩

/-- An addition gives one thing only. -/
theorem Gives.unique {a : Addition} {entries entries' : List LogEntry} (h : Gives a entries)
    (h' : Gives a entries') : entries = entries' := by
  cases h with
  | entry e =>
    cases h'
    rfl
  | @lines text _ h =>
    cases h' with
    | lines h' =>
      obtain ⟨s, -, hread⟩ := exists_log (Text.encode text)
      cases (h s _ hread).symm.trans (h' s _ hread)
      rfl

theorem gives_all_unique {additions : List Addition} {parts parts' : List (List LogEntry)}
    (h : List.Forall₂ Gives additions parts) (h' : List.Forall₂ Gives additions parts') :
    parts = parts' := by
  induction h generalizing parts' with
  | nil =>
    cases h'
    rfl
  | cons ha _ ih =>
    cases h' with
    | cons ha' hrest' => rw [ha.unique ha', ih hrest']

/-- A line that is no entry gives nothing. -/
theorem gives_nothing (line : String) (hline : '\n' ∉ line.toList)
    (h : LogEntry.ofLine? (Text.withoutEnding (line ++ "\n")) = none) :
    Gives (.lines (line ++ "\n")) [] := by
  refine .lines fun s p hread => ?_
  rw [load_of_read hread, LogEntry.ofLines_single line hline, h]
  rfl

/-- Every addition gives what its lines are read as. -/
theorem exists_gives {a : Addition} (h : a.IsWhole) :
    ∃ entries, Gives a entries ∧
      LogEntry.ofLines (Text.splitLines (Text.encode a.text)) = .ok entries := by
  cases a with
  | entry e => exact ⟨[e], .entry e, LogEntry.ofLines_line h⟩
  | lines text =>
    obtain ⟨entries, hentries⟩ := LogEntry.exists_ofLines text
    refine ⟨entries, .lines fun s p hread => ?_, hentries⟩
    rw [load_of_read hread, hentries]

/-- The lines of additions are read as what the additions give, in their order. -/
theorem exists_gives_all {additions : List Addition} (h : ∀ a ∈ additions, a.IsWhole) :
    ∃ parts, List.Forall₂ Gives additions parts ∧
      LogEntry.ofLines (Text.splitLines (additions.flatMap fun a => Text.encode a.text)) =
        .ok parts.flatten := by
  induction additions with
  | nil => exact ⟨[], .nil, by rw [List.flatMap_nil, Text.splitLines]; rfl⟩
  | cons a additions ih =>
    obtain ⟨ha, hrest⟩ := List.forall_mem_cons.mp h
    obtain ⟨entries, hgives, hentries⟩ := exists_gives ha
    obtain ⟨parts, hparts, hlines⟩ := ih hrest
    refine ⟨entries :: parts, .cons hgives hparts, ?_⟩
    obtain ⟨s, hs⟩ := Addition.exists_text ha
    have hbytes : Text.encode a.text = Text.encode s ++ [Text.newline] := by
      rw [hs, Text.encode_append]
      rfl
    rw [List.flatMap_cons, hbytes, List.append_assoc, List.singleton_append,
      Text.splitLines_append_of_ended, ← hbytes, List.flatten_cons]
    exact LogEntry.ofLines_append hentries hlines

/-- A log that is begun by additions, each of which succeeds, loads as what they give, one after
the other. -/
theorem load_of_adds (log : Path) (additions : List Addition) (s s' : Session)
    (hwhole : ∀ a ∈ additions, a.IsWhole) (hnew : s.files.holds s.here log = false)
    (hadds : Adds log s additions s') :
    ∃ parts, List.Forall₂ Gives additions parts ∧
      load Session.host log s' = (.ok parts.flatten, s') := by
  obtain ⟨parts, hparts, hlines⟩ := exists_gives_all hwhole
  refine ⟨parts, hparts, ?_⟩
  cases hadds with
  | done =>
    cases hparts
    exact load_of_not_holds hnew
  | added hadd hrest =>
    rw [load_of_read (Adds.read (.added hadd hrest) hnew), hlines]

/-- An entry in a leap second, between a line that is no entry and an empty one. -/
theorem load_of_adds_around_leap_second :
    let e : LogEntry :=
      ⟨"gen_0", ⟨1483228799, 1999999999, by decide⟩,
        .entityParsed ⟨"Or\"der", [.of "OrderId" "Guid", .of "Note" "string\n"]⟩,
        ⟨"cqrsgen", none, some Json.Reader.countLimit, .incomplete⟩⟩
    let additions : List Addition := [.lines "no entry\n", .entry e, .lines "\n"]
    (∀ a ∈ additions, a.IsWhole) ∧
      ∃ s' : Session, Adds ⟨"run.log"⟩ {} additions s' ∧
        load Session.host ⟨"run.log"⟩ s' = (.ok [e], s') := by
  intro e additions
  have hcountable : e.Countable := ⟨trivial, fun n hn => by cases hn; exact Nat.le_refl _⟩
  have hwhole : ∀ a ∈ additions, a.IsWhole := by
    simp only [additions, List.forall_mem_cons]
    exact ⟨rfl, hcountable, rfl, List.forall_mem_nil _⟩
  have hwritable : (default : FileSystem).writable [] ⟨"run.log"⟩ = .ok ["run.log"] := rfl
  obtain ⟨s', hadds⟩ := exists_adds (s := {}) additions hwritable
  obtain ⟨parts, hparts, hload⟩ := load_of_adds ⟨"run.log"⟩ additions {} s' hwhole rfl hadds
  have hgarbage : Gives (.lines "no entry\n") [] :=
    gives_nothing "no entry" (by decide) (by decide +kernel)
  have hblank : Gives (.lines "\n") [] := gives_nothing "" (by decide) (by decide +kernel)
  obtain rfl : parts = [[], [e], []] :=
    gives_all_unique hparts (.cons hgarbage (.cons (.entry e) (.cons hblank .nil)))
  exact ⟨hwhole, s', hadds, hload⟩

end Log

end Scaffold
