import Scaffold.Proofs.ClassHeader
import Scaffold.Proofs.Scan

/-!
# Text in which nothing starts

Both shapes that are looked for in a definition begin with `public` and a blank. A text is calm
when neither can start in it, whatever follows it; the reader passes over such a text. Whether a
text is calm can be computed, so a fixed text is settled by evaluation, and a text with names in
it is put together from words.

* `declarations_calm`, `className?_calm`: the reader passes over a calm text.
* `calm_append`, `calm_word`: calm texts follow each other, and a word that does not end like
  `public` is calm together with the blank behind it.
* `declarations_declaration`, `declarations_header`: what the reader makes of one written
  declaration, and of one class header.
-/

namespace Scaffold.Definition

open Scaffold.Text

/-! ### Starting -/

/-- Whether a text begins as both shapes do: `public` and a blank. -/
def opens (s : List Char) : Bool :=
  match after? "public".toList s with
  | some (b :: _) => isBlank b
  | _ => false

theorem opens_eq_true_iff {s : List Char} :
    opens s = true ↔ ∃ b rest, isBlank b = true ∧ s = "public".toList ++ b :: rest := by
  unfold opens
  constructor
  · intro h
    split at h
    · next b rest hafter => exact ⟨b, rest, h, after?_eq_some_iff.mp hafter⟩
    · cases h
  · rintro ⟨b, rest, hb, rfl⟩
    rw [after?_append]
    exact hb

/-- A separation after `public` opens a text. -/
theorem opens_append {b : List Char} (hb : Separates b) (s : List Char) :
    opens ("public".toList ++ (b ++ s)) = true := by
  cases b with
  | nil => exact absurd rfl hb.1
  | cons c b => exact opens_eq_true_iff.mpr ⟨c, b ++ s, hb.2 c List.mem_cons_self, rfl⟩

theorem declarationAt?_eq_none_of_not_opens {s : List Char} (h : opens s = false) :
    declarationAt? s = none := by
  cases hat : declarationAt? s with
  | none => rfl
  | some found =>
    obtain ⟨body, hbody, rfl⟩ := declarationAt?_sound hat
    obtain ⟨hb₁, -, -, -, -⟩ := hbody
    simp only [List.append_assoc] at h
    rw [opens_append hb₁] at h
    cases h

theorem classNameAt?_eq_none_of_not_opens {s : List Char} (h : opens s = false) :
    classNameAt? s = none := by
  cases hat : classNameAt? s with
  | none => rfl
  | some name =>
    obtain ⟨opening, rest, ⟨hb₁, -⟩, -, -, rfl⟩ := classNameAt?_eq_some_iff.mp hat
    simp only [List.append_assoc] at h
    rw [opens_append hb₁] at h
    cases h

/-! ### Calm texts -/

/-- Whether a text can become one that opens when more follows it. -/
def mayOpen (s : List Char) : Bool := s.isPrefixOf "public".toList || opens s

/-- Whether nothing can start in a text, whatever follows it. -/
def calm : List Char → Bool
  | [] => true
  | c :: s => !mayOpen (c :: s) && calm s

theorem mayOpen_of_opens_append {s t : List Char} (h : opens (s ++ t) = true) :
    mayOpen s = true := by
  obtain ⟨b, rest, hb, heq⟩ := opens_eq_true_iff.mp h
  rw [mayOpen, Bool.or_eq_true, List.isPrefixOf_iff_prefix]
  rcases List.append_eq_append_iff.mp heq with ⟨x, hx, -⟩ | ⟨x, hx, hrest⟩
  · exact .inl ⟨x, hx.symm⟩
  · -- `public` stands in `s`; the blank does too, unless `s` ends right behind it.
    cases x with
    | nil => exact .inl ⟨[], by rw [hx, List.append_nil, List.append_nil]⟩
    | cons d x =>
      obtain ⟨rfl, -⟩ := List.cons.inj hrest
      exact .inr (opens_eq_true_iff.mpr ⟨b, x, hb, hx⟩)

theorem mayOpen_append {s : List Char} (t : List Char) (h : mayOpen s = false) :
    mayOpen (s ++ t) = false := by
  rw [Bool.eq_false_iff] at h ⊢
  intro hmay
  apply h
  rw [mayOpen, Bool.or_eq_true, List.isPrefixOf_iff_prefix] at hmay
  rcases hmay with ⟨x, hx⟩ | hopens
  · rw [mayOpen, Bool.or_eq_true, List.isPrefixOf_iff_prefix]
    exact .inl ⟨t ++ x, by rw [← hx, List.append_assoc]⟩
  · exact mayOpen_of_opens_append hopens

theorem calm_cons {c : Char} {s : List Char} :
    calm (c :: s) = true ↔ mayOpen (c :: s) = false ∧ calm s = true := by
  rw [calm, Bool.and_eq_true, Bool.not_eq_true']

/-- Calm texts may follow each other. -/
theorem calm_append {s t : List Char} (hs : calm s = true) (ht : calm t = true) :
    calm (s ++ t) = true := by
  induction s with
  | nil => exact ht
  | cons c s ih =>
    obtain ⟨hc, hs⟩ := calm_cons.mp hs
    exact calm_cons.mpr ⟨mayOpen_append t hc, ih hs⟩

/-- A word that does not end like `public` is calm together with the blank that ends it. -/
theorem calm_word {w : List Char} {b : Char} (hw : ∀ c ∈ w, isBlank c = false)
    (hlast : w.getLast? ≠ some 'c') (hb : isBlank b = true) : calm (w ++ [b]) = true := by
  induction w with
  | nil =>
    rw [List.nil_append, calm_cons, mayOpen, Bool.or_eq_false_iff]
    refine ⟨⟨?_, ?_⟩, rfl⟩
    · rw [Bool.eq_false_iff, Ne, List.isPrefixOf_iff_prefix]
      rintro ⟨x, hx⟩
      obtain ⟨rfl, -⟩ := List.cons.inj hx
      exact absurd hb (by decide)
    · rw [Bool.eq_false_iff]
      intro h
      obtain ⟨d, rest, -, heq⟩ := opens_eq_true_iff.mp h
      obtain ⟨-, hnil⟩ := List.cons.inj heq
      cases hnil
  | cons c w ih =>
    have hword : IsToken (c :: w) := ⟨List.cons_ne_nil _ _, hw⟩
    have hends : ∀ s, Ends (b :: s) := by
      intro s d hd
      cases hd
      exact hb
    rw [List.cons_append, calm_cons, Bool.eq_false_iff]
    constructor
    · intro h
      have hpublic : IsToken "public".toList := by decide
      rw [mayOpen, Bool.or_eq_true, List.isPrefixOf_iff_prefix] at h
      rcases h with ⟨x, hx⟩ | hopens
      · -- A prefix of `public` has no blank in it.
        have hmem : b ∈ "public".toList := by
          rw [← hx]
          simp
        exact absurd hb (by simp [hpublic.2 b hmem])
      · obtain ⟨d, rest, hd, heq⟩ := opens_eq_true_iff.mp hopens
        have hsame : c :: w = "public".toList := by
          rw [← hword.takeWhile (hends []), ← hpublic.takeWhile (t := d :: rest), ← heq]
          · rfl
          · intro x hx
            cases hx
            exact hd
        apply hlast
        rw [hsame]
        decide
    · refine ih (fun d hd => hw d (List.mem_cons_of_mem _ hd)) ?_
      cases w with
      | nil =>
        intro hnil
        cases hnil
      | cons d w =>
        rw [List.getLast?_cons_cons] at hlast
        exact hlast

theorem calm_blanks {b : List Char} (hb : Blanks b) : calm b = true := by
  induction b with
  | nil => rfl
  | cons c b ih =>
    obtain ⟨hc, hb⟩ := List.forall_mem_cons.mp hb
    have hfirst : calm [c] = true := calm_word (List.forall_mem_nil _) (by simp) hc
    exact calm_append hfirst (ih hb)

/-- What starts with a character of a calm text does not open. -/
theorem not_opens_of_calm {c : Char} {gap : List Char} (h : calm (c :: gap) = true)
    (rest : List Char) : opens (c :: gap ++ rest) = false := by
  have hc := (calm_cons.mp h).1
  rw [Bool.eq_false_iff] at hc ⊢
  exact fun h => hc (mayOpen_of_opens_append h)

/-- The reader passes over a calm text. -/
theorem declarations_calm {gap : List Char} (h : calm gap = true) (rest : List Char) :
    declarations (gap ++ rest) = declarations rest := by
  induction gap with
  | nil => rfl
  | cons c gap ih =>
    have hnone := declarationAt?_eq_none_of_not_opens (not_opens_of_calm h rest)
    exact (declarations_of_none hnone).trans (ih (calm_cons.mp h).2)

/-- No class header is found in a calm text. -/
theorem className?_calm {gap : List Char} (h : calm gap = true) (rest : List Char) :
    className? (gap ++ rest) = className? rest := by
  induction gap with
  | nil => rfl
  | cons c gap ih =>
    have hnone := classNameAt?_eq_none_of_not_opens (not_opens_of_calm h rest)
    rw [List.cons_append] at hnone ⊢
    rw [className?, hnone]
    exact ih (calm_cons.mp h).2

/-- There is nothing to read in a text of blanks. -/
theorem declarations_blanks {b : List Char} (hb : Blanks b) : declarations b = [] := by
  rw [← List.append_nil b, declarations_calm (calm_blanks hb), declarations_nil]

theorem className?_blanks {b : List Char} (hb : Blanks b) : className? b = none := by
  rw [← List.append_nil b, className?_calm (calm_blanks hb), className?]

/-! ### One declaration, one header -/

/-- A word that ends where the accessors begin is read as the name. -/
theorem name?_of_ends {name accessors rest : List Char} (hname : IsToken name)
    (hacc : IsAccessors accessors) (hends : Ends (accessors ++ rest)) :
    name? (name ++ (accessors ++ rest)) = some (name, rest) := by
  obtain ⟨n, r, hn, hle, heq⟩ := name?_longest hname hacc rest
  obtain ⟨hn', accessors', -, hs⟩ := name?_sound hn
  -- A longer name would go on with the first character behind `name`, which is blank.
  have hlen : n.length ≤ name.length := by
    rcases List.append_eq_append_iff.mp hs with ⟨x, rfl, hx⟩ | ⟨x, rfl, -⟩
    · cases x with
      | nil => simp
      | cons c x =>
        have hblank : isBlank c = true := hends c (by rw [hx]; rfl)
        have hword : isBlank c = false := hn'.2 c (by simp)
        rw [hblank] at hword
        cases hword
    · simp
  obtain ⟨rfl, rfl⟩ := heq (Nat.le_antisymm hlen hle)
  exact hn

/-- A written declaration is read, and the reader goes on behind it. -/
theorem declarations_declaration {b₁ type b₂ name accessors rest : List Char}
    (hb₁ : Separates b₁) (htype : IsToken type) (hb₂ : Separates b₂) (hname : IsToken name)
    (hacc : IsAccessors accessors) (hends : Ends (accessors ++ rest)) :
    declarations
        ("public".toList ++ (b₁ ++ (type ++ (b₂ ++ (name ++ (accessors ++ rest)))))) =
      .of (String.ofList name) (String.ofList type) :: declarations rest := by
  refine declarations_of_some ?_
  rw [declarationAt?_append hb₁ htype hb₂ (hname.head _), name?_of_ends hname hacc hends]
  rfl

/-- Without an opening brace there are no accessors in front of a word. -/
theorem afterAccessors?_cons {c : Char} {s : List Char} (hc : isBlank c = false)
    (hbrace : c ≠ '\x7b') : afterAccessors? (c :: s) = none := by
  have hopen : after? "\x7b".toList (c :: s) = none := if_neg hbrace.symm
  rw [afterAccessors?, trimStart_cons hc, hopen]
  rfl

/-- A word without braces is no name unless accessors follow it. -/
theorem name?_eq_none {run rest : List Char} (hrun : ∀ c ∈ run, isBlank c = false)
    (hbrace : '\x7b' ∉ run) (hends : Ends rest) (hacc : afterAccessors? rest = none) :
    name? (run ++ rest) = none := by
  induction run with
  | nil =>
    cases rest with
    | nil => rfl
    | cons c rest => rw [List.nil_append, name?, if_pos (hends c rfl)]
  | cons c run ih =>
    have hnone : name? (run ++ rest) = none :=
      ih (fun d hd => hrun d (List.mem_cons_of_mem _ hd)) fun h => hbrace (List.mem_cons_of_mem _ h)
    have hafter : afterAccessors? (run ++ rest) = none := by
      cases run with
      | nil => exact hacc
      | cons d run =>
        have hd : d ∈ c :: d :: run := List.mem_cons_of_mem _ List.mem_cons_self
        exact afterAccessors?_cons (hrun d hd) fun h => hbrace (h ▸ hd)
    rw [List.cons_append, name?, if_neg (by simp [hrun c List.mem_cons_self]), hnone, hafter]
    rfl

/-- The line of a class header declares nothing: what stands where a name would stand is not
followed by accessors. -/
theorem declarations_header {b₁ type b₂ run rest : List Char} (hb₁ : Separates b₁)
    (htype : IsToken type) (hb₂ : Separates b₂) (hrun : IsToken run) (hbrace : '\x7b' ∉ run)
    (hends : Ends rest) (hacc : afterAccessors? rest = none) :
    declarations ("public".toList ++ (b₁ ++ (type ++ (b₂ ++ (run ++ rest))))) =
      declarations ("ublic".toList ++ (b₁ ++ (type ++ (b₂ ++ (run ++ rest))))) := by
  refine declarations_of_none ?_
  have := declarationAt?_append hb₁ htype hb₂ (hrun.head rest)
  rw [name?_eq_none hrun.2 hbrace hends hacc] at this
  exact this

end Scaffold.Definition
