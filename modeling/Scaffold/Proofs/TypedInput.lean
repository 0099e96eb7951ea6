import Scaffold.Proofs.LineByLine
import Scaffold.Proofs.LogLines
import Scaffold.Proofs.Respacing

/-!
# What is typed

A line that is typed answers one question. A definition that is typed line by line, with the end
marker behind it, comes back with other line endings and a newline at its end, which is to say in
another spacing.

* `HasRoom`: the output takes what is still to be written.
* `exists_ask`: a typed line answers a question.
* `exists_readDefinition`: a typed definition is read, respaced, and nothing behind it is.
-/

namespace Scaffold

open Text (Bytes)
open Definition (Respaced)

namespace Terminal

variable {t t' : Terminal} {more : Bytes} {n : Nat}

/-! ### Writing -/

/-- The output takes at least `n` more bytes. -/
def HasRoom (n : Nat) (t : Terminal) : Prop := ∀ k, t.room = some k → n ≤ k

theorem exists_say {text : String} (h : t.HasRoom (text.utf8ByteSize + n)) :
    ∃ t', t.say text = (.ok (), t') ∧ t'.input = t.input ∧ t'.HasRoom n := by
  rw [← Text.length_encode] at h
  unfold say write
  cases hroom : t.room with
  | none => exact ⟨_, rfl, rfl, fun k hk => by simp at hk⟩
  | some k =>
    have hk := h k hroom
    dsimp only
    rw [if_pos (by omega)]
    refine ⟨_, rfl, rfl, ?_⟩
    intro k' hk'
    cases hk'
    omega

/-! ### Reading a line -/

/-- A line without its newline is typed and read. -/
theorem readLine_line {s : String} (hs : '\n' ∉ s.toList)
    (h : t.input = Text.encode (s ++ "\n") ++ more) :
    t.readLine = (.ok (some (Text.withoutEnding (s ++ "\n"))), { t with input := more }) := by
  have hlines : Text.splitLines t.input =
      Text.encode (s ++ "\n") :: Text.splitLines more := by
    rw [h, Text.encode_append, List.append_assoc]
    exact Text.splitLines_append_newline (Text.newline_not_mem_encode hs) more
  rw [readLine_of_splitLines hlines, Text.said?_encode, Text.splitLines_flatten]

/-- A typed line answers a question. -/
theorem exists_ask {s question : String} (hs : '\n' ∉ s.toList)
    (hroom : t.HasRoom (question.utf8ByteSize + n))
    (h : t.input = Text.encode (s ++ "\n") ++ more) :
    ∃ t', t.ask question = (.ok (some (Text.withoutEnding (s ++ "\n"))), t') ∧
      t'.input = more ∧ t'.HasRoom n := by
  obtain ⟨t₁, hsay, hinput, hroom₁⟩ := exists_say hroom
  have hread := readLine_line hs (hinput.trans h)
  refine ⟨{ t₁ with input := more }, ?_, rfl, hroom₁⟩
  rw [ask, hsay]
  exact hread

/-! ### Reading a definition -/

/-- The text with a newline at its end, which an empty text does without. -/
def finished (s : List Char) : List Char :=
  if s = [] ∨ s.getLast? = some '\n' then s else s ++ ['\n']

/-- What is typed to enter a definition. -/
def entered (definition : String) : String :=
  String.ofList (finished definition.toList) ++ (endMarker ++ "\n")

/-- No line of the definition ends it. -/
def Unmarked (definition : String) : Prop :=
  ∀ bytes ∈ Text.splitLines (Text.encode definition),
    (Text.decode? bytes).map Text.withoutEnding ≠ some endMarker

theorem finished_line (l s : List Char) :
    finished (l ++ '\n' :: s) = l ++ '\n' :: finished s := by
  unfold finished
  rcases List.eq_nil_or_concat s with rfl | ⟨m, c, rfl⟩
  · simp
  · rw [List.concat_eq_append]
    have hlast : (l ++ '\n' :: (m ++ [c])).getLast? = some c := by
      rw [← List.cons_append, ← List.append_assoc, List.getLast?_concat]
    rw [hlast, List.getLast?_concat]
    by_cases hc : c = '\n' <;> simp [hc]

theorem finished_of_no_newline {s : List Char} (hne : s ≠ []) (h : '\n' ∉ s) :
    finished s = s ++ ['\n'] := by
  rw [finished, if_neg]
  rintro (hnil | hlast)
  · exact hne hnil
  · exact h (List.mem_of_getLast? hlast)

variable {first definition : String}

theorem entered_empty : entered "" = endMarker ++ "\n" := rfl

theorem entered_line (first definition : String) :
    entered (first ++ "\n" ++ definition) = first ++ "\n" ++ entered definition := by
  have hfinished : finished (first ++ "\n" ++ definition).toList =
      first.toList ++ '\n' :: finished definition.toList := by
    rw [← finished_line]
    simp
  apply String.toList_injective
  rw [entered, hfinished, entered]
  simp

theorem entered_last (hne : first ≠ "") (hline : '\n' ∉ first.toList) :
    entered first = first ++ "\n" ++ (endMarker ++ "\n") := by
  have hnil : first.toList ≠ [] := fun h => hne (String.toList_eq_nil_iff.mp h)
  apply String.toList_injective
  rw [entered, finished_of_no_newline hnil hline]
  simp

theorem Unmarked.line (hline : '\n' ∉ first.toList) (h : Unmarked (first ++ "\n" ++ definition)) :
    Text.withoutEnding (first ++ "\n") ≠ endMarker ∧ Unmarked definition := by
  rw [Unmarked, Text.splitLines_encode_line hline] at h
  obtain ⟨hfirst, hrest⟩ := List.forall_mem_cons.mp h
  rw [Text.decode?_encode] at hfirst
  exact ⟨fun heq => hfirst (congrArg some heq), hrest⟩

theorem Unmarked.last (hne : first ≠ "") (hline : '\n' ∉ first.toList) (h : Unmarked first) :
    Text.withoutEnding (first ++ "\n") ≠ endMarker := by
  rw [Unmarked, Text.splitLines_encode_last hne hline] at h
  have hlast := h _ List.mem_cons_self
  rw [Text.decode?_encode, Option.map_some, Text.withoutEnding_of_no_newline hline] at hlast
  rw [Text.withoutEnding_newline]
  exact fun heq => hlast (congrArg some heq)

theorem readDefinition_end (h : t.input = Text.encode (endMarker ++ "\n") ++ more) :
    t.readDefinition = (.ok "", { t with input := more }) := by
  have hread := readLine_line (by decide) h
  rw [readDefinition_eq, hread]
  exact if_pos (by rw [Text.withoutEnding_newline]; rfl)

/-- A line of a definition is read, and then the rest. -/
theorem readDefinition_line {line text : String} (hline : '\n' ∉ line.toList)
    (hmarker : Text.withoutEnding (line ++ "\n") ≠ endMarker)
    (h : t.input = Text.encode (line ++ "\n") ++ more)
    (hrest : readDefinition { t with input := more } = (.ok text, t')) :
    t.readDefinition =
      (.ok (String.ofList (Text.dropFinal '\r' line.toList) ++ "\n" ++ text), t') := by
  rw [readDefinition_eq, readLine_line hline h]
  dsimp only
  rw [if_neg hmarker, hrest, Text.withoutEnding_newline]

/-- A line is read without its carriage return, and comes back with a newline. -/
theorem respaced_line {s u : List Char} (l : List Char) (h : Respaced s u) :
    Respaced (l ++ '\n' :: s) (Text.dropFinal '\r' l ++ '\n' :: u) := by
  have hnewline : Definition.Separates ['\n'] := by decide
  have hreturn : Definition.Separates ['\r', '\n'] := by decide
  unfold Text.dropFinal
  split
  · next hlast =>
    obtain ⟨m, rfl⟩ := List.getLast?_eq_some_iff.mp hlast
    rw [List.dropLast_concat, List.append_assoc]
    exact .append_left m (.blanks hreturn hnewline h)
  · exact .append_left l (.blanks hnewline hnewline h)

theorem respaced_last (l : List Char) : Respaced l (Text.dropFinal '\r' l ++ ['\n']) := by
  have hnewline : Definition.Blanks ['\n'] := by decide
  unfold Text.dropFinal
  split
  · next hlast =>
    obtain ⟨m, rfl⟩ := List.getLast?_eq_some_iff.mp hlast
    rw [List.dropLast_concat]
    exact .append_left m (.done (by decide) hnewline)
  · have hend : Respaced (l ++ []) (l ++ ['\n']) :=
      .append_left l (.done (List.forall_mem_nil _) hnewline)
    rwa [List.append_nil] at hend

/-- A typed definition is read up to its end marker, in another spacing. -/
theorem exists_readDefinition (hmarker : Unmarked definition)
    (h : t.input = Text.encode (entered definition) ++ more) :
    ∃ text, t.readDefinition = (.ok text, { t with input := more }) ∧
      Respaced definition.toList text.toList := by
  induction definition using Text.lines_induction generalizing t with
  | empty =>
    rw [entered_empty] at h
    exact ⟨"", readDefinition_end h, .done (List.forall_mem_nil _) (List.forall_mem_nil _)⟩
  | last s hne hline =>
    have hfirst := Unmarked.last hne hline hmarker
    rw [entered_last hne hline, Text.encode_append, List.append_assoc] at h
    have hread := readDefinition_end
      (t := { t with input := Text.encode (endMarker ++ "\n") ++ more }) rfl
    refine ⟨_, readDefinition_line hline hfirst h hread, ?_⟩
    have hlast := respaced_last s.toList
    simpa using hlast
  | line first rest hline ih =>
    obtain ⟨hfirst, hrest⟩ := Unmarked.line hline hmarker
    rw [entered_line, Text.encode_append, List.append_assoc] at h
    obtain ⟨text, hread, hspaced⟩ :=
      ih hrest (t := { t with input := Text.encode (entered rest) ++ more }) rfl
    refine ⟨_, readDefinition_line hline hfirst h hread, ?_⟩
    have hlines := respaced_line first.toList hspaced
    simpa using hlines

end Terminal

end Scaffold
