import Scaffold.Source
import Scaffold.Terminal

/-!
# Reading line by line

The input of a terminal is a list of lines, and whatever is read from it is read from the front of
this list: a question takes one line as its answer, and a definition takes the lines up to its end
marker, or all that there are. A line that is not text is taken, too, by whoever comes across it.

* `Text.AreLines`: how an input is cut into lines. `areLines_splitLines` says that every input is.
* `Terminal.Takes`: what is read from some lines, and which are left.
* `readLine_of_splitLines`: one line is read.
* `Takes.perform`: a call reads what it takes.
* `performAll_eq_iff`: so does a sequence of calls, and nothing else.
-/

namespace Scaffold

namespace Text

/-! ### Lines -/

/-- An input, cut behind each of its newlines. Behind the last one there may be a line without. -/
inductive AreLines : List Bytes → Prop where
  | none : AreLines []
  | last {l : Bytes} : l ≠ [] → newline ∉ l → AreLines [l]
  | line {l : Bytes} {ls : List Bytes} : newline ∉ l → AreLines ls →
      AreLines ((l ++ [newline]) :: ls)

/-- Either the first line ends with the only newline in it, or it is the last and has none. -/
theorem line_cases {s : Bytes} (h : s ≠ []) :
    (∃ l, newline ∉ l ∧ line s = l ++ [newline]) ∨ newline ∉ line s ∧ rest s = [] := by
  induction s with
  | nil => exact absurd rfl h
  | cons b s ih =>
    by_cases hb : b = newline
    · exact Or.inl ⟨[], List.not_mem_nil, by rw [line, if_pos hb, hb, List.nil_append]⟩
    · rw [line, rest, if_neg hb, if_neg hb]
      by_cases hs : s = []
      · exact Or.inr (by simp [hs, line, rest, Ne.symm hb])
      · rcases ih hs with ⟨l, hl, hline⟩ | ⟨hline, hrest⟩
        · exact Or.inl ⟨b :: l, by simp [Ne.symm hb, hl], by rw [hline, List.cons_append]⟩
        · exact Or.inr ⟨by simp [Ne.symm hb, hline], hrest⟩

theorem areLines_splitLines (s : Bytes) : AreLines (splitLines s) := by
  fun_induction splitLines s with
  | case1 => exact .none
  | case2 b s ih =>
    rcases line_cases (List.cons_ne_nil b s) with ⟨l, hl, hline⟩ | ⟨hline, hrest⟩
    · rw [hline]
      exact .line hl ih
    · rw [hrest, splitLines]
      exact .last (line_ne_nil (List.cons_ne_nil b s)) hline

theorem splitLines_eq_nil_iff {s : Bytes} : splitLines s = [] ↔ s = [] := by
  cases s with
  | nil => simp [splitLines]
  | cons b s => simp [splitLines]

theorem splitLines_eq_cons {s l : Bytes} {ls : List Bytes} (h : splitLines s = l :: ls) :
    line s = l ∧ rest s = ls.flatten ∧ splitLines ls.flatten = ls := by
  cases s with
  | nil => simp [splitLines] at h
  | cons b s =>
    rw [splitLines] at h
    obtain ⟨hline, hrest⟩ := List.cons.inj h
    rw [← hrest, splitLines_flatten]
    exact ⟨hline, rfl, rfl⟩

/-- The last lines of an input are those of what they make up. -/
theorem splitLines_flatten_of_suffix {s : Bytes} {ls : List Bytes} (h : ls <:+ splitLines s) :
    splitLines ls.flatten = ls := by
  obtain ⟨front, hfront⟩ := h
  induction front generalizing s with
  | nil => rw [← List.nil_append ls, hfront, splitLines_flatten]
  | cons l front ih =>
    obtain ⟨-, -, hrest⟩ := splitLines_eq_cons hfront.symm
    exact ih hrest.symm

/-- What a line says, if it is text. -/
def said? (l : Bytes) : Option String := (decode? l).map withoutEnding

theorem said?_encode (s : String) : said? (encode s) = some (withoutEnding s) := by
  rw [said?, decode?_encode, Option.map_some]

end Text

namespace Terminal

open Text

/-! ### What is taken -/

/-- A call that reads from the input. -/
inductive Call where
  | ask (question : String)
  | readDefinition
  deriving DecidableEq, Repr

/-- What such a call gives. -/
inductive Answer where
  /-- An answer to a question, or none at the end of the input. -/
  | line (text : Option String)
  | definition (text : String)
  deriving DecidableEq, Repr

/-- The lines are texts of a definition: they say something other than that it ends. -/
def AreBody (ls : List Bytes) (texts : List String) : Prop :=
  ls.map said? = texts.map some ∧ endMarker ∉ texts

/-- What a call takes from some lines: what it gives, and which lines are left. -/
inductive Takes : Call → List Bytes → Except Fault Answer → List Bytes → Prop where
  | noAnswer {question} : Takes (.ask question) [] (.ok (.line none)) []
  | answer {question l ls s} : said? l = some s →
      Takes (.ask question) (l :: ls) (.ok (.line (some s))) ls
  | tornAnswer {question l ls} : said? l = none →
      Takes (.ask question) (l :: ls) (.error .notText) ls
  | marked {ls texts l left} : AreBody ls texts → said? l = some endMarker →
      Takes .readDefinition (ls ++ l :: left) (.ok (.definition (unlines texts))) left
  | unmarked {ls texts} : AreBody ls texts →
      Takes .readDefinition ls (.ok (.definition (unlines texts))) []
  | torn {ls texts l left} : AreBody ls texts → said? l = none →
      Takes .readDefinition (ls ++ l :: left) (.error .notText) left

/-- What calls take one after the other. -/
inductive TakesAll : List Call → List Bytes → List (Except Fault Answer) → List Bytes → Prop where
  | done {ls} : TakesAll [] ls [] ls
  | call {c calls ls result ls' results left} : Takes c ls result ls' →
      TakesAll calls ls' results left → TakesAll (c :: calls) ls (result :: results) left

theorem AreBody.nil : AreBody [] [] := ⟨rfl, List.not_mem_nil⟩

theorem AreBody.cons {l : Bytes} {ls : List Bytes} {s : String} {texts : List String}
    (hl : said? l = some s) (hs : s ≠ endMarker) (h : AreBody ls texts) :
    AreBody (l :: ls) (s :: texts) :=
  ⟨by rw [List.map_cons, List.map_cons, hl, h.1], by simp [Ne.symm hs, h.2]⟩

theorem AreBody.of_cons {l : Bytes} {ls : List Bytes} {texts : List String}
    (h : AreBody (l :: ls) texts) :
    ∃ s texts', texts = s :: texts' ∧ said? l = some s ∧ s ≠ endMarker ∧ AreBody ls texts' := by
  obtain ⟨hsaid, hmarker⟩ := h
  cases texts with
  | nil => cases hsaid
  | cons s texts' =>
    obtain ⟨hl, hls⟩ := List.cons.inj hsaid
    obtain ⟨hs, htexts⟩ := not_or.mp (mt List.mem_cons.mpr hmarker)
    exact ⟨s, texts', rfl, hl, Ne.symm hs, hls, htexts⟩

variable {c : Call} {calls : List Call} {ls left : List Bytes} {result : Except Fault Answer}
  {results : List (Except Fault Answer)} {t : Terminal}

/-- What is left are the last lines. -/
theorem Takes.suffix (h : Takes c ls result left) : left <:+ ls := by
  cases h with
  | noAnswer => exact List.suffix_refl []
  | answer => exact List.suffix_cons _ _
  | tornAnswer => exact List.suffix_cons _ _
  | marked => exact (List.suffix_cons _ _).trans (List.suffix_append _ _)
  | unmarked => exact List.nil_suffix
  | torn => exact (List.suffix_cons _ _).trans (List.suffix_append _ _)

theorem TakesAll.suffix (h : TakesAll calls ls results left) : left <:+ ls := by
  induction h with
  | done => exact List.suffix_refl _
  | call hcall _ ih => exact ih.trans hcall.suffix

/-! ### What is performed -/

/-- A line is read from the front of the lines. -/
theorem readLine_of_splitLines {l : Bytes} (h : splitLines t.input = l :: ls) :
    t.readLine =
      (match said? l with
        | none => .error .notText
        | some s => .ok (some s), { t with input := ls.flatten }) := by
  have hne : t.input ≠ [] := by
    intro hnil
    rw [splitLines_eq_nil_iff.mpr hnil] at h
    cases h
  obtain ⟨hline, hrest, -⟩ := splitLines_eq_cons h
  rw [readLine, if_neg hne, hline, hrest, said?]
  cases decode? l with
  | none => rfl
  | some s => rfl

/-- The body of a definition is read up to what ends it. -/
theorem readDefinition_body {body : List Bytes} {texts : List String} (hbody : AreBody body texts)
    (h : splitLines t.input = body ++ ls) :
    t.readDefinition =
      match readDefinition { t with input := ls.flatten } with
      | (.error fault, t') => (.error fault, t')
      | (.ok text, t') => (.ok (unlines texts ++ text), t') := by
  induction body generalizing texts t with
  | nil =>
    obtain rfl : texts = [] := List.map_eq_nil_iff.mp hbody.1.symm
    have hinput : ls.flatten = t.input := by
      rw [← List.nil_append ls, ← h, splitLines_flatten]
    rw [hinput]
    rcases t.readDefinition with ⟨_ | text, t'⟩
    · rfl
    · simp [unlines]
  | cons l body ih =>
    obtain ⟨s, texts, rfl, hl, hs, hbody⟩ := hbody.of_cons
    rw [List.cons_append] at h
    obtain ⟨-, -, hrest⟩ := splitLines_eq_cons h
    rw [readDefinition_eq, readLine_of_splitLines h, hl]
    dsimp only
    rw [if_neg hs, ih (t := { t with input := (body ++ ls).flatten }) hbody hrest]
    dsimp only
    rcases readDefinition { t with input := ls.flatten } with ⟨_ | text, t'⟩
    · rfl
    · simp [unlines, String.append_assoc]

section

variable {body : List Bytes} {texts : List String} {l : Bytes}

theorem readDefinition_marked (hbody : AreBody body texts) (hl : said? l = some endMarker)
    (h : splitLines t.input = body ++ l :: left) :
    t.readDefinition = (.ok (unlines texts), { t with input := left.flatten }) := by
  have hrest := splitLines_flatten_of_suffix (h ▸ List.suffix_append body (l :: left))
  rw [readDefinition_body hbody h, readDefinition_eq, readLine_of_splitLines hrest, hl]
  dsimp only
  rw [if_pos rfl]
  dsimp only
  rw [String.append_empty]

theorem readDefinition_unmarked (hbody : AreBody body texts) (h : splitLines t.input = body) :
    t.readDefinition = (.ok (unlines texts), { t with input := [] }) := by
  rw [← List.append_nil body] at h
  have hend : readLine { t with input := ([] : List Bytes).flatten } =
      (.ok none, { t with input := [] }) := rfl
  rw [readDefinition_body hbody h, readDefinition_eq, hend]
  dsimp only
  rw [String.append_empty]

theorem readDefinition_torn (hbody : AreBody body texts) (hl : said? l = none)
    (h : splitLines t.input = body ++ l :: left) :
    t.readDefinition = (.error .notText, { t with input := left.flatten }) := by
  have hrest := splitLines_flatten_of_suffix (h ▸ List.suffix_append body (l :: left))
  rw [readDefinition_body hbody h, readDefinition_eq, readLine_of_splitLines hrest, hl]

end

/-- The lines of a definition up to what ends it: the end marker, a line that is not text, or
nothing. -/
theorem exists_body (ls : List Bytes) :
    ∃ body texts rest, ls = body ++ rest ∧ AreBody body texts ∧
      (rest = [] ∨ ∃ l left, rest = l :: left ∧ (said? l = some endMarker ∨ said? l = none)) := by
  induction ls with
  | nil => exact ⟨[], [], [], rfl, .nil, Or.inl rfl⟩
  | cons l ls ih =>
    cases hl : said? l with
    | none => exact ⟨[], [], l :: ls, rfl, .nil, Or.inr ⟨l, ls, rfl, Or.inr hl⟩⟩
    | some s =>
      by_cases hs : s = endMarker
      · exact ⟨[], [], l :: ls, rfl, .nil, Or.inr ⟨l, ls, rfl, Or.inl (hs ▸ hl)⟩⟩
      · obtain ⟨body, texts, rest, rfl, hbody, hrest⟩ := ih
        exact ⟨l :: body, s :: texts, rest, rfl, hbody.cons hl hs, hrest⟩

/-- A call can take something from any lines. -/
theorem exists_takes (c : Call) (ls : List Bytes) : ∃ result left, Takes c ls result left := by
  cases c with
  | ask question =>
    cases ls with
    | nil => exact ⟨_, _, .noAnswer⟩
    | cons l ls =>
      cases hl : said? l with
      | none => exact ⟨_, _, .tornAnswer hl⟩
      | some s => exact ⟨_, _, .answer hl⟩
  | readDefinition =>
    obtain ⟨body, texts, rest, rfl, hbody, rfl | ⟨l, left, rfl, hl | hl⟩⟩ := exists_body ls
    · rw [List.append_nil]
      exact ⟨_, _, .unmarked hbody⟩
    · exact ⟨_, _, .marked hbody hl⟩
    · exact ⟨_, _, .torn hbody hl⟩

theorem exists_takesAll (calls : List Call) (ls : List Bytes) :
    ∃ results left, TakesAll calls ls results left := by
  induction calls generalizing ls with
  | nil => exact ⟨_, _, .done⟩
  | cons c calls ih =>
    obtain ⟨result, ls', hcall⟩ := exists_takes c ls
    obtain ⟨results, left, hcalls⟩ := ih ls'
    exact ⟨_, _, .call hcall hcalls⟩

namespace Call

/-- What a call writes before it reads. -/
def written : Call → Bytes
  | .ask question => encode question
  | .readDefinition => []

/-- The call is made at a terminal. -/
def perform : Call → Terminal → Except Fault Answer × Terminal
  | .ask question, t => ((t.ask question).1.map .line, (t.ask question).2)
  | .readDefinition, t => (t.readDefinition.1.map .definition, t.readDefinition.2)

end Call

/-- Calls are made one after the other. -/
def performAll : List Call → Terminal → List (Except Fault Answer) × Terminal
  | [], t => ([], t)
  | c :: calls, t =>
    let (result, t') := c.perform t
    let (results, t'') := performAll calls t'
    (result :: results, t'')

variable {input output : Bytes}

/-- A terminal without a limit takes all output. -/
theorem say_unlimited (text : String) :
    say text { input, output } = (.ok (), { input, output := output ++ encode text }) := rfl

/-- At a terminal that takes all output, a call reads what it takes. -/
theorem Takes.perform (h : Takes c (splitLines input) result left) :
    c.perform { input, output } =
      (result, { input := left.flatten, output := output ++ c.written }) := by
  generalize hlines : splitLines input = lines at h
  cases h with
  | noAnswer =>
    obtain rfl := splitLines_eq_nil_iff.mp hlines
    rfl
  | @answer question l _ s hl =>
    rw [Call.perform, ask, say_unlimited]
    dsimp only
    rw [readLine_of_splitLines (t := { input, output := output ++ encode question }) hlines, hl]
    rfl
  | @tornAnswer question l _ hl =>
    rw [Call.perform, ask, say_unlimited]
    dsimp only
    rw [readLine_of_splitLines (t := { input, output := output ++ encode question }) hlines, hl]
    rfl
  | marked hbody hl =>
    rw [Call.perform, readDefinition_marked (t := { input, output }) hbody hl hlines, Call.written,
      List.append_nil]
    rfl
  | unmarked hbody =>
    rw [Call.perform, readDefinition_unmarked (t := { input, output }) hbody hlines, Call.written,
      List.append_nil]
    rfl
  | torn hbody hl =>
    rw [Call.perform, readDefinition_torn (t := { input, output }) hbody hl hlines, Call.written,
      List.append_nil]
    rfl

theorem TakesAll.performAll (h : TakesAll calls (splitLines input) results left) :
    performAll calls { input, output } =
      (results, { input := left.flatten, output := output ++ calls.flatMap Call.written }) := by
  generalize hlines : splitLines input = lines at h
  induction h generalizing input output with
  | done =>
    rw [Terminal.performAll, ← hlines, splitLines_flatten, List.flatMap_nil, List.append_nil]
  | call hcall _ ih =>
    rw [← hlines] at hcall
    have hrest := splitLines_flatten_of_suffix hcall.suffix
    rw [Terminal.performAll, hcall.perform]
    dsimp only
    rw [ih hrest, List.flatMap_cons, List.append_assoc]

/-- **What is typed is used up line by line.** Whatever the input is and in whichever order
questions are asked and definitions are read: the lines of the input, cut behind every newline, are
taken from the front, each by one call, and those that are left are the input of the calls that may
follow. A line that is not text is taken by the call that reports it as invalid. -/
theorem calls_take_lines (input output : Bytes) (calls : List Call)
    (results : List (Except Fault Answer)) (t' : Terminal) :
    Fault.notText.kind = .invalidData ∧
    AreLines (splitLines input) ∧ (splitLines input).flatten = input ∧
    (performAll calls { input, output } = (results, t') ↔
      ∃ left, TakesAll calls (splitLines input) results left ∧ left <:+ splitLines input ∧
        t' = { input := left.flatten, output := output ++ calls.flatMap Call.written }) := by
  refine ⟨rfl, areLines_splitLines input, splitLines_flatten input, ?_⟩
  constructor
  · intro hperformed
    obtain ⟨results', left, htakes⟩ := exists_takesAll calls (splitLines input)
    obtain ⟨rfl, rfl⟩ := Prod.mk.inj (htakes.performAll.symm.trans hperformed)
    exact ⟨left, htakes, htakes.suffix, rfl⟩
  · rintro ⟨left, htakes, -, rfl⟩
    exact htakes.performAll

end Terminal

end Scaffold
