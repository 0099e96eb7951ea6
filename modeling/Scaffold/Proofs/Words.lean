import Scaffold.Proofs.Respacing

/-!
# The words of a definition

The words of a text are its longest runs of characters that are not blank, in order. Two texts
with the same words can differ in the blanks between them, in front of the first and behind the
last, but a reader of definitions cannot tell them apart: indentation, line endings and blank lines
mean nothing, and a definition may as well stand on one line.

* `words_eq_nil_iff`, `words_eq_cons_iff`: how the words of a text lie in it.
* `respaced_of_words`: texts with the same words are in a different spacing at most.
* `parse_of_words`: they describe the same entity, or none of them describes one.
-/

namespace Scaffold.Definition

open Scaffold.Text

/-! ### Words -/

/-- The words of a text: the pieces between its blanks, without the empty ones. -/
def words (s : List Char) : List (List Char) := (s.splitOnP isBlank).filter (!·.isEmpty)

variable {b s t w : List Char} {ws : List (List Char)}

theorem words_nil : words [] = [] := by simp [words]

/-- A blank separates the word in front of it from those behind it. -/
theorem words_append_cons {c : Char} (hw : ∀ d ∈ w, isBlank d = false) (hc : isBlank c = true) :
    words (w ++ c :: s) = [w].filter (!·.isEmpty) ++ words s := by
  rw [words, List.splitOnP_append_cons_of_forall_mem hw c hc, List.filter_cons]
  cases w <;> simp [words]

theorem words_blanks_append (hb : Blanks b) (s : List Char) : words (b ++ s) = words s := by
  induction b with
  | nil => rfl
  | cons c b ih =>
    obtain ⟨hc, hb⟩ := List.forall_mem_cons.mp hb
    have hfirst := words_append_cons (s := b ++ s) (List.forall_mem_nil _) hc
    rw [List.nil_append] at hfirst
    rw [List.cons_append, hfirst, ih hb]
    rfl

/-- What passes over blanks in front of a text does not depend on them. -/
theorem eq_of_passes {α : Type} {f : List Char → α} (h : ∀ b s, Blanks b → f (b ++ s) = f s)
    (s : List Char) : f (trimStart s) = f s := by
  obtain ⟨b, hb, hs⟩ := exists_blanks s
  have hpassed := h b (trimStart s) hb
  rw [← hs] at hpassed
  exact hpassed.symm

theorem words_trimStart (s : List Char) : words (trimStart s) = words s :=
  eq_of_passes (fun _ s hb => words_blanks_append hb s) s

/-- A word that ends is the first one. -/
theorem words_token_append (hw : IsToken w) (ht : Ends t) : words (w ++ t) = w :: words t := by
  have hkept : [w].filter (!·.isEmpty) = [w] := by simp [hw.1]
  cases t with
  | nil =>
    rw [List.append_nil, words_nil, words, List.splitOnP_eq_singleton hw.2]
    exact hkept
  | cons c t =>
    have hc : isBlank c = true := ht c rfl
    have hblank : Blanks [c] := by simpa [Blanks] using hc
    rw [words_append_cons hw.2 hc, hkept, ← words_blanks_append hblank t]
    rfl

/-- Behind the blanks in front of it, a text is empty or starts with a word. -/
theorem trimStart_eq_nil_or (s : List Char) :
    trimStart s = [] ∨ ∃ w t, IsToken w ∧ Ends t ∧ trimStart s = w ++ t := by
  cases hs : trimStart s with
  | nil => exact Or.inl rfl
  | cons c u =>
    have hc : isBlank c = false := head?_trimStart (by rw [hs]; rfl)
    refine Or.inr ⟨(c :: u).takeWhile (!isBlank ·), (c :: u).dropWhile (!isBlank ·), ⟨?_, ?_⟩, ?_,
      List.takeWhile_append_dropWhile.symm⟩
    · simp [hc]
    · intro d hd
      simpa using List.mem_takeWhile_imp hd
    · intro d hd
      have hstop := List.head?_dropWhile_not (!isBlank ·) (c :: u)
      rw [hd] at hstop
      simpa using hstop

/-- A text without words is blank. -/
theorem words_eq_nil_iff : words s = [] ↔ Blanks s := by
  constructor
  · intro h
    rcases trimStart_eq_nil_or s with hs | ⟨w, t, hw, ht, hs⟩
    · exact List.dropWhile_eq_nil_iff.mp hs
    · rw [← words_trimStart, hs, words_token_append hw ht] at h
      cases h
  · intro h
    rw [← List.append_nil s, words_blanks_append h, words_nil]

/-- The first word of a text stands behind blanks and ends where it does; the others follow. -/
theorem words_eq_cons_iff :
    words s = w :: ws ↔ ∃ t, IsToken w ∧ Ends t ∧ trimStart s = w ++ t ∧ words t = ws := by
  constructor
  · intro h
    rcases trimStart_eq_nil_or s with hs | ⟨w', t, hw, ht, hs⟩
    · rw [← words_trimStart, hs, words_nil] at h
      cases h
    · rw [← words_trimStart, hs, words_token_append hw ht] at h
      cases h
      exact ⟨t, hw, ht, hs, rfl⟩
  · rintro ⟨t, hw, ht, hs, rfl⟩
    rw [← words_trimStart, hs, words_token_append hw ht]

/-- Where a word has ended and another one follows, there are blanks between them. -/
theorem exists_separation (hs : Ends s) (hwords : words s ≠ []) :
    ∃ b, Separates b ∧ s = b ++ trimStart s := by
  obtain ⟨b, hb, hsplit⟩ := exists_blanks s
  refine ⟨b, ⟨?_, hb⟩, hsplit⟩
  rintro rfl
  -- Without them the text would start with a character that is both blank and not.
  cases s with
  | nil => exact hwords words_nil
  | cons c s =>
    rw [List.nil_append] at hsplit
    have hword := head?_trimStart (s := c :: s) (c := c) (by rw [← hsplit]; rfl)
    rw [hs c rfl] at hword
    cases hword

/-! ### Texts with the same words -/

/-- Behind the blanks in front of them, texts with the same words differ in their spacing only. -/
theorem respaced_of_words (h : words s = words t) : Respaced (trimStart s) (trimStart t) := by
  induction hws : words s generalizing s t with
  | nil =>
    have hs := words_eq_nil_iff.mp hws
    have ht := words_eq_nil_iff.mp (h.symm.trans hws)
    rw [trimStart, trimStart, List.dropWhile_eq_nil_iff.mpr hs, List.dropWhile_eq_nil_iff.mpr ht]
    exact .done (List.forall_mem_nil _) (List.forall_mem_nil _)
  | cons w ws ih =>
    obtain ⟨u, _, hu, hs, hwords⟩ := words_eq_cons_iff.mp hws
    obtain ⟨v, _, hv, ht, hwords'⟩ := words_eq_cons_iff.mp (h.symm.trans hws)
    rw [hs, ht]
    refine Respaced.append_left w ?_
    cases ws with
    | nil => exact .done (words_eq_nil_iff.mp hwords) (words_eq_nil_iff.mp hwords')
    | cons next ws =>
      obtain ⟨b, hb, hbehind⟩ := exists_separation hu (by simp [hwords])
      obtain ⟨b', hb', hbehind'⟩ := exists_separation hv (by simp [hwords'])
      rw [hbehind, hbehind']
      exact .blanks hb hb' (ih (hwords.trans hwords'.symm) hwords)

/-- The reader passes over the blanks in front of a text. -/
theorem declarations_trimStart (s : List Char) : declarations (trimStart s) = declarations s :=
  eq_of_passes (fun _ s hb => declarations_calm (calm_blanks hb) s) s

theorem className?_trimStart (s : List Char) : className? (trimStart s) = className? s :=
  eq_of_passes (fun _ s hb => className?_calm (calm_blanks hb) s) s

/-- **The layout of a definition does not matter.** Definitions with the same words describe the
same entity, or neither of them describes one. -/
theorem parse_of_words {definition definition' : String}
    (h : words definition.toList = words definition'.toList) :
    Entity.parse definition = Entity.parse definition' := by
  have hspaced := respaced_of_words h
  have hname := hspaced.className?
  have hproperties := hspaced.declarations
  rw [className?_trimStart, className?_trimStart] at hname
  rw [declarations_trimStart, declarations_trimStart] at hproperties
  rw [Entity.parse, Entity.parse, hname, hproperties]

/-- An indented definition with other line endings, and the same on one line. The words are told
apart by no-break spaces as well. -/
theorem parse_of_words_on_one_line :
    let indented := "\n  public\u00a0class Order\r\n  \x7b\r\n\tpublic int Id \x7b get;set; \x7d\r\n  \x7d\r\n"
    let minified := "public class Order \x7b public int Id \x7b get;set; \x7d \x7d"
    words indented.toList = words minified.toList ∧
      Entity.parse indented = Entity.parse minified ∧
      Entity.parse minified = .ok ⟨"Order", [.of "Id" "int"]⟩ := by
  intro indented minified
  have hsame : words indented.toList = words minified.toList := by decide +kernel
  exact ⟨hsame, parse_of_words hsame, by decide +kernel⟩

end Scaffold.Definition
