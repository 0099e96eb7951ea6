import Mathlib.Data.List.TakeWhile
import Scaffold.Json.Reader

/-!
# Brackets and quotes in JSON

A text is balanced if it closes every bracket and every quote that it opens, and no others. What is
put in matching brackets is not completed by what stands behind it: a text that breaks off inside of
brackets is not made whole by an object, since the object closes what it opens itself.

* `Place`, `walk`: going over a text character by character, with the number of open brackets.
* `Leads`, `Balanced`: what closes all that it opens.
* `Bracketed`: matching brackets around a balanced text.
* `not_bracketed_of_torn`: brackets that are opened in one text are not closed by an object behind
  it.
-/

namespace Scaffold.Json

open Reader (isSpace)

/-! ### Going over a text -/

/-- Where a character of a text stands. -/
inductive Place where
  /-- Outside of quotes. -/
  | outside
  /-- Between quotes. -/
  | quoted
  /-- Between quotes, behind a backslash. -/
  | escaped
  deriving DecidableEq, Repr

/-- Whether a character may stand outside of quotes besides brackets: blanks, separators, and what
numbers and the words `null`, `true` and `false` are made of. -/
def isPlain (c : Char) : Bool :=
  isSpace c || c.isDigit || ",:+-.Eaeflnrstu".toList.contains c

/-- Goes over one character. A bracket that closes none is not passed, nor is a character that
stands only between quotes. -/
def step : Nat × Place → Char → Option (Nat × Place)
  | (depth, .quoted), c =>
    some (depth, if c = '"' then .outside else if c = '\\' then .escaped else .quoted)
  | (depth, .escaped), _ => some (depth, .quoted)
  | (depth, .outside), c =>
    if c = '"' then some (depth, .quoted)
    else if c = '[' ∨ c = '\x7b' then some (depth + 1, .outside)
    else if c = ']' ∨ c = '\x7d' then if depth = 0 then none else some (depth - 1, .outside)
    else if isPlain c then some (depth, .outside)
    else none

/-- Goes over a text. -/
def walk (start : Nat × Place) (cs : List Char) : Option (Nat × Place) := cs.foldlM step start

/-- The text leads from one place to another and leaves as many brackets open as there were, of
which it closes none. -/
def Leads (p q : Place) (cs : List Char) : Prop :=
  ∀ depth, walk (depth, p) cs = some (depth, q)

/-- The text closes every bracket and every quote that it opens. -/
abbrev Balanced : List Char → Prop := Leads .outside .outside

/-- The text stays between quotes. -/
abbrev StaysQuoted : List Char → Prop := Leads .quoted .quoted

theorem walk_append (start : Nat × Place) (cs ds : List Char) :
    walk start (cs ++ ds) = (walk start cs).bind fun p => walk p ds :=
  List.foldlM_append

theorem walk_cons (start : Nat × Place) (c : Char) (cs : List Char) :
    walk start (c :: cs) = (step start c).bind fun p => walk p cs :=
  List.foldlM_cons

theorem Leads.nil (p : Place) : Leads p p [] := fun _ => rfl

theorem Leads.append {p q r : Place} {cs ds : List Char} (h : Leads p q cs) (h' : Leads q r ds) :
    Leads p r (cs ++ ds) := by
  intro depth
  rw [walk_append, h depth, Option.bind_some, h' depth]

theorem Leads.cons {p q r : Place} {c : Char} {cs : List Char} (h : Leads p q [c])
    (h' : Leads q r cs) : Leads p r (c :: cs) :=
  h.append h'

/-! ### Balanced texts -/

theorem leads_openQuote : Leads .outside .quoted ['"'] := fun _ => rfl

theorem leads_closeQuote : Leads .quoted .outside ['"'] := fun _ => rfl

theorem leads_backslash : Leads .quoted .escaped ['\\'] := fun _ => rfl

theorem leads_escaped (c : Char) : Leads .escaped .quoted [c] := fun _ => rfl

theorem staysQuoted_char {c : Char} (hquote : c ≠ '"') (hbackslash : c ≠ '\\') :
    StaysQuoted [c] := by
  intro depth
  rw [walk_cons, step, if_neg hquote, if_neg hbackslash]
  rfl

theorem balanced_plain {c : Char} (h : isPlain c = true) : Balanced [c] := by
  have hquote : c ≠ '"' := by
    rintro rfl
    cases h
  have hopening : ¬(c = '[' ∨ c = '\x7b') := by
    rintro (rfl | rfl) <;> cases h
  have hclosing : ¬(c = ']' ∨ c = '\x7d') := by
    rintro (rfl | rfl) <;> cases h
  intro depth
  rw [walk_cons, step, if_neg hquote, if_neg hopening, if_neg hclosing, if_pos h]
  rfl

theorem balanced_of_plain {cs : List Char} (h : ∀ c ∈ cs, isPlain c = true) : Balanced cs := by
  induction cs with
  | nil => exact .nil _
  | cons c cs ih =>
    obtain ⟨hc, hcs⟩ := List.forall_mem_cons.mp h
    exact (balanced_plain hc).cons (ih hcs)

theorem isPlain_of_isSpace {c : Char} (h : isSpace c = true) : isPlain c = true := by
  rw [isPlain, h, Bool.true_or, Bool.true_or]

theorem isPlain_of_isDigit {c : Char} (h : c.isDigit = true) : isPlain c = true := by
  rw [isPlain, h, Bool.or_true, Bool.true_or]

theorem balanced_blanks {cs : List Char} (h : ∀ c ∈ cs, isSpace c = true) : Balanced cs :=
  balanced_of_plain fun c hc => isPlain_of_isSpace (h c hc)

theorem balanced_digits (s : List Char) : Balanced (s.takeWhile Char.isDigit) :=
  balanced_of_plain fun _ hc => isPlain_of_isDigit (List.mem_takeWhile_imp hc)

/-- A bracket that opens and the one that closes. -/
inductive Matching : Char → Char → Prop where
  | array : Matching '[' ']'
  | object : Matching '\x7b' '\x7d'

/-- A balanced text with a bracket at its end that it does not open. -/
def Closing (closer : Char) (cs : List Char) : Prop :=
  ∃ inner, Balanced inner ∧ cs = inner ++ [closer]

theorem Closing.append {closer : Char} {cs ds : List Char} (h : Balanced cs)
    (h' : Closing closer ds) : Closing closer (cs ++ ds) := by
  obtain ⟨inner, hinner, rfl⟩ := h'
  exact ⟨cs ++ inner, h.append hinner, (List.append_assoc ..).symm⟩

theorem Closing.single (closer : Char) : Closing closer [closer] := ⟨[], .nil _, rfl⟩

/-- Matching brackets around a balanced text are balanced. -/
theorem Balanced.brackets {opener closer : Char} {cs : List Char} (hmatch : Matching opener closer)
    (h : Closing closer cs) : Balanced (opener :: cs) := by
  obtain ⟨inner, hinner, rfl⟩ := h
  intro depth
  have hopen : step (depth, .outside) opener = some (depth + 1, .outside) := by
    cases hmatch <;> rfl
  have hclose : walk (depth + 1, .outside) [closer] = some (depth, .outside) := by
    cases hmatch <;> rfl
  rw [walk_cons, hopen, Option.bind_some, walk_append, hinner, Option.bind_some, hclose]

/-! ### Matching brackets around a text -/

/-- Matching brackets around a balanced text. -/
def Enclosed (cs : List Char) : Prop :=
  ∃ opener closer cs', Matching opener closer ∧ Closing closer cs' ∧ cs = opener :: cs'

/-- Matching brackets around a balanced text, and blanks in front of them. -/
def Bracketed (cs : List Char) : Prop :=
  ∃ blanks enclosed, (∀ c ∈ blanks, isSpace c = true) ∧ Enclosed enclosed ∧ cs = blanks ++ enclosed

theorem Bracketed.balanced {cs : List Char} (h : Bracketed cs) : Balanced cs := by
  obtain ⟨blanks, _, hblanks, ⟨opener, closer, inner, hmatch, hinner, rfl⟩, rfl⟩ := h
  exact (balanced_blanks hblanks).append (Balanced.brackets hmatch hinner)

/-! ### Texts that break off -/

/-- No balanced text ends in an object that lacks its last brace. If no quote is open where the object
begins, its first brace stays open; otherwise the quote is closed in front of the first name. -/
theorem not_balanced_append_object {front cs : List Char} {c : Char}
    (hobject : Balanced ('\x7b' :: '"' :: c :: (cs ++ ['\x7d'])))
    (hletter : ∀ depth, step (depth, .outside) c = none) :
    ¬Balanced (front ++ '\x7b' :: '"' :: c :: cs) := by
  intro hfront
  have hwalk := hfront 0
  rw [walk_append] at hwalk
  obtain ⟨⟨depth, place⟩, -, hbehind⟩ := Option.bind_eq_some_iff.mp hwalk
  cases place with
  | outside =>
    have hwhole := hobject depth
    rw [← List.cons_append, ← List.cons_append, ← List.cons_append, walk_append, hbehind] at hwhole
    cases hwhole
  | quoted =>
    have hname : walk (depth, .quoted) ('\x7b' :: '"' :: c :: cs) =
        (step (depth, .outside) c).bind fun p => walk p cs := rfl
    rw [hname, hletter] at hbehind
    cases hbehind
  | escaped =>
    have hname : walk (depth, .escaped) ('\x7b' :: '"' :: c :: cs) =
        (step (depth, .outside) c).bind fun p => walk p cs := rfl
    rw [hname, hletter] at hbehind
    cases hbehind

/-- A record does not begin in one text and end in the next one, if that is an object. -/
theorem not_bracketed_of_torn {torn taken rest cs : List Char} {c : Char}
    (htaken : Bracketed taken) (hrest : ∀ c ∈ rest, isSpace c = true)
    (hsplit : torn ++ '\x7b' :: '"' :: c :: (cs ++ ['\x7d']) = taken ++ rest)
    (htorn : ¬∀ c ∈ torn, isSpace c = true)
    (hobject : Balanced ('\x7b' :: '"' :: c :: (cs ++ ['\x7d'])))
    (hletter : ∀ depth, step (depth, .outside) c = none) : False := by
  obtain ⟨blanks, _, hblanks, ⟨opener, closer, _, hmatch, ⟨inner, hinner, rfl⟩, rfl⟩, rfl⟩ := htaken
  -- The record begins in the first text, since that is not blank.
  obtain ⟨inner₁, rfl, hinner₁⟩ : ∃ inner₁, torn = blanks ++ opener :: inner₁ ∧
      inner ++ closer :: rest = inner₁ ++ '\x7b' :: '"' :: c :: (cs ++ ['\x7d']) := by
    rw [List.append_assoc] at hsplit
    rcases List.append_eq_append_iff.mp hsplit with ⟨more, rfl, -⟩ | ⟨more, rfl, hmore⟩
    · exact absurd (fun c hc => hblanks c (List.mem_append_left _ hc)) htorn
    · cases more with
      | nil => exact absurd (by simpa using hblanks) htorn
      | cons x more =>
        obtain ⟨rfl, hmore⟩ := List.cons.inj hmore
        exact ⟨more, rfl, by simpa using hmore⟩
  -- It ends with the second one, since only blanks are behind it.
  have hend : rest = [] := by
    rcases List.eq_nil_or_concat rest with rfl | ⟨rest, last, rfl⟩
    · rfl
    · have hends : (inner ++ closer :: rest) ++ [last] =
          (inner₁ ++ '\x7b' :: '"' :: c :: cs) ++ ['\x7d'] := by simpa using hinner₁
      obtain ⟨-, hlast⟩ := List.append_inj' hends rfl
      have hblank := hrest last (by simp)
      rw [List.singleton_inj.mp hlast] at hblank
      cases hblank
  subst hend
  obtain ⟨rfl, -⟩ : inner = inner₁ ++ '\x7b' :: '"' :: c :: cs ∧ [closer] = ['\x7d'] :=
    List.append_inj' (by simpa using hinner₁) rfl
  exact not_balanced_append_object hobject hletter hinner

end Scaffold.Json
