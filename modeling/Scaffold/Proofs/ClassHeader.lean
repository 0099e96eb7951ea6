import Scaffold.Family.Names
import Scaffold.Proofs.Grammar
import Scaffold.Proofs.Joining
import Mathlib.Order.Bounds.Defs

/-!
# The class header

Where a class header stands in a text, said without the reader: `public`, blanks, `class`, blanks,
and at least one word character. The name of an entity is the whole run of word characters in the
leftmost header, and it is one plain name of a path.

* `isBlank_eq_false_of_isWord`: blanks and word characters are disjoint, so blanks in a header
  can be skipped without giving any of them back.
* `classNameAt?_eq_some_iff`, `className?_eq_some_iff`: what the reader finds at a position, and
  that it takes the leftmost.
* `parse_name_leftmost`: all of this about the name of an entity.
-/

namespace Scaffold.Text

/-- Sets whose ranges lie apart from each other have no character in common. -/
theorem Charset.contains_eq_false_of_apart {r s : Charset}
    (h : ∀ a ∈ r, ∀ b ∈ s, a.2 < b.1 ∨ b.2 < a.1) {c : Char} (hc : r.contains c = true) :
    s.contains c = false := by
  rw [Bool.eq_false_iff]
  intro hs
  obtain ⟨a, ha, hal, har⟩ := Charset.contains_iff.mp hc
  obtain ⟨b, hb, hbl, hbr⟩ := Charset.contains_iff.mp hs
  rcases h a ha b hb with hlt | hlt
  · omega
  · omega

/-- A word character is not blank. -/
theorem isBlank_eq_false_of_isWord {c : Char} (h : isWord c = true) : isBlank c = false :=
  Charset.contains_eq_false_of_apart (by decide +kernel) h

/-- The characters that structure a path are not word characters. -/
theorem isWord_slash : isWord '/' = false := by decide +kernel

theorem isWord_dot : isWord '.' = false := by decide +kernel

end Scaffold.Text

namespace Scaffold.Definition

open Scaffold.Text

/-! ### Headers -/

/-- Word characters only, and at least one. -/
def IsWordRun (s : List Char) : Prop := s ≠ [] ∧ ∀ c ∈ s, isWord c = true

/-- What stands in front of the name in a class header. -/
inductive IsOpening : List Char → Prop where
  | mk {b₁ b₂ : List Char} : Separates b₁ → Separates b₂ →
      IsOpening ("public".toList ++ (b₁ ++ ("class".toList ++ b₂)))

/-- A class header starts at `i`. -/
def HeaderAt (text : List Char) (i : Nat) : Prop :=
  ∃ opening c rest, IsOpening opening ∧ isWord c = true ∧ text.drop i = opening ++ c :: rest

/-- A class header starts at `i`, and the run of word characters behind its opening is `name`. -/
def NameAt (text : List Char) (i : Nat) (name : List Char) : Prop :=
  ∃ opening rest, IsOpening opening ∧ IsWordRun name ∧
    (∀ c, rest.head? = some c → isWord c = false) ∧ text.drop i = opening ++ (name ++ rest)

/-- A brace is not a word character. -/
theorem IsWordRun.brace_not_mem {s : List Char} (h : IsWordRun s) : '\x7b' ∉ s := by
  intro hmem
  have hword : isWord '\x7b' = false := by decide +kernel
  rw [h.2 _ hmem] at hword
  cases hword

theorem IsWordRun.isToken {s : List Char} (h : IsWordRun s) : IsToken s :=
  ⟨h.1, fun c hc => isBlank_eq_false_of_isWord (h.2 c hc)⟩

/-- Behind an opening the reader takes the run of word characters. -/
theorem classNameAt?_append {opening s : List Char} (h : IsOpening opening)
    (hs : ∀ c, s.head? = some c → isBlank c = false) :
    classNameAt? (opening ++ s) =
      if s.takeWhile isWord = [] then none else some (s.takeWhile isWord) := by
  obtain ⟨hb₁, hb₂⟩ := h
  rename_i b₁ b₂
  have hclass : ∀ c, ("class".toList ++ (b₂ ++ s)).head? = some c → isBlank c = false := by
    intro c hc
    cases hc
    decide
  have hfirst : afterBlanks? (b₁ ++ ("class".toList ++ (b₂ ++ s))) =
      some ("class".toList ++ (b₂ ++ s)) :=
    afterBlanks?_eq_some_iff.mpr ⟨b₁, hb₁, rfl, hclass⟩
  have hsecond : afterBlanks? (b₂ ++ s) = some s := afterBlanks?_eq_some_iff.mpr ⟨b₂, hb₂, rfl, hs⟩
  simp only [List.append_assoc]
  rw [classNameAt?, after?_append]
  simp only [Option.bind_eq_bind, Option.bind_some, hfirst, after?_append, hsecond]
  cases s.takeWhile isWord with
  | nil => rfl
  | cons c name => rfl

/-- The reader finds a name in front of a text exactly when the text is an opening, the name, and
a rest that does not go on with a word character. -/
theorem classNameAt?_eq_some_iff {s name : List Char} :
    classNameAt? s = some name ↔
      ∃ opening rest, IsOpening opening ∧ IsWordRun name ∧
        (∀ c, rest.head? = some c → isWord c = false) ∧ s = opening ++ (name ++ rest) := by
  constructor
  · intro h
    have hread := h
    simp only [classNameAt?, Option.bind_eq_bind, Option.bind_eq_some_iff] at h
    obtain ⟨a, ha, b, hb, c, hc, d, hd, hname⟩ := h
    obtain rfl := after?_eq_some_iff.mp ha
    obtain ⟨b₁, hb₁, rfl, -⟩ := afterBlanks?_eq_some_iff.mp hb
    obtain rfl := after?_eq_some_iff.mp hc
    obtain ⟨b₂, hb₂, rfl, -⟩ := afterBlanks?_eq_some_iff.mp hd
    have hrun : d.takeWhile isWord = name ∧ name ≠ [] := by
      split at hname
      · cases hname
      · next x run hx =>
        cases hname
        exact ⟨hx, List.cons_ne_nil _ _⟩
    refine ⟨_, d.dropWhile isWord, .mk hb₁ hb₂, ⟨hrun.2, ?_⟩, ?_, ?_⟩
    · intro x hx
      exact List.mem_takeWhile_imp (hrun.1 ▸ hx)
    · intro x hx
      have := List.head?_dropWhile_not isWord d
      rw [hx] at this
      simpa using this
    · rw [← hrun.1, List.takeWhile_append_dropWhile]
      simp only [List.append_assoc]
  · rintro ⟨opening, rest, hopening, hname, hrest, rfl⟩
    rw [classNameAt?_append hopening (hname.isToken.head rest), takeWhile_run hname.2 hrest,
      if_neg hname.1]

theorem nameAt_iff {text name : List Char} {i : Nat} :
    NameAt text i name ↔ classNameAt? (text.drop i) = some name :=
  classNameAt?_eq_some_iff.symm

/-- A header starts where the reader finds a name. -/
theorem headerAt_iff {text : List Char} {i : Nat} :
    HeaderAt text i ↔ ∃ name, classNameAt? (text.drop i) = some name := by
  constructor
  · rintro ⟨opening, c, rest, hopening, hc, hdrop⟩
    rw [hdrop, classNameAt?_append hopening (s := c :: rest)]
    · rw [List.takeWhile_cons_of_pos hc, if_neg (List.cons_ne_nil _ _)]
      exact ⟨_, rfl⟩
    · intro d hd
      cases hd
      exact isBlank_eq_false_of_isWord hc
  · rintro ⟨name, hname⟩
    obtain ⟨opening, rest, hopening, ⟨hne, hrun⟩, -, hdrop⟩ := classNameAt?_eq_some_iff.mp hname
    cases name with
    | nil => exact absurd rfl hne
    | cons c name => exact ⟨opening, c, name ++ rest, hopening, hrun c List.mem_cons_self, hdrop⟩

/-- The reader takes the name of the leftmost header. -/
theorem className?_eq_some_iff {text name : List Char} :
    className? text = some name ↔
      ∃ i, classNameAt? (text.drop i) = some name ∧
        ∀ j < i, classNameAt? (text.drop j) = none := by
  induction text with
  | nil =>
    constructor
    · intro h
      cases h
    · rintro ⟨i, h, -⟩
      rw [List.drop_nil] at h
      cases h
  | cons c s ih =>
    rw [className?]
    cases hat : classNameAt? (c :: s) with
    | some found =>
      constructor
      · intro h
        cases h
        exact ⟨0, hat, fun j hj => absurd hj (Nat.not_lt_zero j)⟩
      · rintro ⟨i, h, hnone⟩
        cases i with
        | zero => exact hat.symm.trans h
        | succ i =>
          have := hnone 0 (Nat.succ_pos i)
          rw [List.drop_zero, hat] at this
          cases this
    | none =>
      rw [ih]
      constructor
      · rintro ⟨i, h, hnone⟩
        refine ⟨i + 1, h, fun j hj => ?_⟩
        cases j with
        | zero => exact hat
        | succ j => exact hnone j (Nat.lt_of_succ_lt_succ hj)
      · rintro ⟨i, h, hnone⟩
        cases i with
        | zero =>
          rw [List.drop_zero, hat] at h
          cases h
        | succ i => exact ⟨i, h, fun j hj => hnone (j + 1) (Nat.succ_lt_succ hj)⟩

/-- No name is found exactly when there is no header. -/
theorem className?_eq_none_iff {text : List Char} :
    className? text = none ↔ ∀ i, ¬ HeaderAt text i := by
  have atNone : ∀ {i}, (¬ HeaderAt text i) ↔ classNameAt? (text.drop i) = none := by
    intro i
    rw [headerAt_iff, Option.eq_none_iff_forall_ne_some, not_exists]
  simp only [atNone]
  clear atNone
  induction text with
  | nil => simp [className?, classNameAt?, after?]
  | cons c s ih =>
    rw [className?]
    cases hat : classNameAt? (c :: s) with
    | some found =>
      constructor
      · intro h
        cases h
      · intro h
        exact hat.symm.trans (h 0)
    | none =>
      refine ih.trans ⟨fun h i => ?_, fun h i => h (i + 1)⟩
      cases i with
      | zero => exact hat
      | succ i => exact h i

/-- A name that is found is a run of word characters. -/
theorem className?_isWordRun {text name : List Char} (h : className? text = some name) :
    IsWordRun name := by
  obtain ⟨i, hi, -⟩ := className?_eq_some_iff.mp h
  obtain ⟨opening, rest, -, hname, -⟩ := classNameAt?_eq_some_iff.mp hi
  exact hname

/-- A run of word characters is a plain name of a path. -/
theorem IsWordRun.isName {s : List Char} (h : IsWordRun s) : Path.IsName (String.ofList s) := by
  obtain ⟨hne, hrun⟩ := h
  have noDot : '.' ∉ s := by
    intro hdot
    have := hrun _ hdot
    rw [isWord_dot] at this
    exact Bool.false_ne_true this
  have notDots : ∀ t : String, '.' ∈ t.toList → String.ofList s ≠ t := by
    intro t ht heq
    rw [← heq, String.toList_ofList] at ht
    exact noDot ht
  refine ⟨?_, ?_, notDots "." (by decide), notDots ".." (by decide)⟩
  · intro hempty
    exact hne (String.ofList_injective hempty)
  · rw [String.toList_ofList]
    intro hslash
    have := hrun _ hslash
    rw [isWord_slash] at this
    exact Bool.false_ne_true this

/-- The name of an entity that is read is a run of word characters. -/
theorem isWordRun_of_parse {definition : String} {e : Entity}
    (h : Entity.parse definition = .ok e) : IsWordRun e.name.toList := by
  obtain ⟨name, hname, rfl⟩ := Entity.parse_eq_ok_iff.mp h
  rw [String.toList_ofList]
  exact className?_isWordRun hname

/-- It is a plain name, too. -/
theorem isName_of_parse {definition : String} {e : Entity}
    (h : Entity.parse definition = .ok e) : Path.IsName e.name :=
  String.ofList_toList (s := e.name) ▸ (isWordRun_of_parse h).isName

/-- A plain class name is the last component of its service directory. -/
theorem components_serviceRoot {e : Entity} (h : Path.IsName e.name) (solution : String) :
    (e.serviceRoot solution).components =
      (Path.join ⟨solution ++ ".Shared"⟩ ⟨"Services"⟩).components ++ [.name e.name] :=
  Path.components_join_name h

/-- **The name of an entity is the run of word characters in the leftmost class header**, whatever
else the text holds, and reading fails exactly when there is no header. The name is not empty and
has word characters only, so it is one plain component of the service directory. -/
theorem parse_name_leftmost (definition : String) :
    (Entity.parse definition = .error .noClassName ↔ ∀ i, ¬ HeaderAt definition.toList i) ∧
    (∀ i, IsLeast {i | HeaderAt definition.toList i} i →
      ∃ e, Entity.parse definition = .ok e ∧
        ∀ name, NameAt definition.toList i name ↔ name = e.name.toList) ∧
    ∀ e, Entity.parse definition = .ok e →
      e.name ≠ "" ∧
      (∀ c ∈ e.name.toList, isWord c = true ∧ c ≠ '/' ∧ c ≠ '.' ∧ isBlank c = false) ∧
      ∀ solution, (e.serviceRoot solution).components =
        (Path.join ⟨solution ++ ".Shared"⟩ ⟨"Services"⟩).components ++ [.name e.name] := by
  refine ⟨?_, ?_, ?_⟩
  · rw [Entity.parse_eq_error_iff, className?_eq_none_iff]
  · intro i ⟨hi, hleast⟩
    obtain ⟨name, hname⟩ := headerAt_iff.mp hi
    have hfirst : ∀ j < i, classNameAt? (definition.toList.drop j) = none := by
      intro j hj
      cases hj' : classNameAt? (definition.toList.drop j) with
      | none => rfl
      | some n =>
        have : i ≤ j := hleast (headerAt_iff.mpr ⟨n, hj'⟩)
        omega
    have hfound := className?_eq_some_iff.mpr ⟨i, hname, hfirst⟩
    refine ⟨_, Entity.parse_eq_ok_iff.mpr ⟨name, hfound, rfl⟩, fun other => ?_⟩
    rw [nameAt_iff, hname, String.toList_ofList, Option.some.injEq]
    exact eq_comm
  · intro e he
    have hname := isName_of_parse he
    refine ⟨hname.ne_empty, fun c hc => ?_, components_serviceRoot hname⟩
    have hword := (isWordRun_of_parse he).2 c hc
    refine ⟨hword, ?_, ?_, isBlank_eq_false_of_isWord hword⟩
    · rintro rfl
      rw [isWord_slash] at hword
      exact Bool.false_ne_true hword
    · rintro rfl
      rw [isWord_dot] at hword
      exact Bool.false_ne_true hword

/-- A header may start inside a word; what only begins like one is passed over. -/
theorem parse_name_leftmost_inside_word :
    IsLeast {i | HeaderAt "public class-unpublic class \u00dc_9.public class B".toList i} 15 ∧
    ∃ e, Entity.parse "public class-unpublic class \u00dc_9.public class B" = .ok e ∧
      ∀ name, NameAt "public class-unpublic class \u00dc_9.public class B".toList 15 name ↔
        name = e.name.toList := by
  have hleast : IsLeast {i | HeaderAt
      "public class-unpublic class \u00dc_9.public class B".toList i} 15 := by
    constructor
    · exact headerAt_iff.mpr ⟨"\u00dc_9".toList, by decide +kernel⟩
    · intro j hj
      obtain ⟨name, hname⟩ := headerAt_iff.mp hj
      rw [← Nat.not_lt]
      intro hlt
      have hnone : ∀ j < 15, classNameAt?
          ("public class-unpublic class \u00dc_9.public class B".toList.drop j) = none := by
        decide +kernel
      rw [hnone j hlt] at hname
      cases hname
  exact ⟨hleast, (parse_name_leftmost _).2.1 15 hleast⟩

end Scaffold.Definition
