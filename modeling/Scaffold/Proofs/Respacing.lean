import Scaffold.Proofs.Calm

/-!
# The spacing of a definition

Blanks separate the words of a definition, and it does not matter which blanks they are or how
many. Two definitions that differ in their spacing only describe the same entity, even though the
reader walks through them character by character.

* `Respaced`: two texts that differ in their spacing.
* `Respaced.isDeclaration`, `Respaced.isOpening`: what the reader looks for stands in both.
* `Respaced.declarations`, `Respaced.className?`: so it finds the same in both.
* `parse_of_respaced`: they describe the same entity.
-/

namespace Scaffold.Definition

open Scaffold.Text

/-! ### Respaced texts -/

/-- Where one text has blanks, the other one has blanks as well, though maybe different ones. At
the end they may also be missing from one of the two. -/
inductive Respaced : List Char → List Char → Prop where
  | done {b b'} : Blanks b → Blanks b' → Respaced b b'
  | char {c s s'} : isBlank c = false → Respaced s s' → Respaced (c :: s) (c :: s')
  | blanks {b b' s s'} : Separates b → Separates b' → Respaced s s' →
      Respaced (b ++ s) (b' ++ s')

namespace Respaced

variable {s t b w : List Char} {c : Char}

theorem symm (h : Respaced s t) : Respaced t s := by
  induction h with
  | done hb hb' => exact .done hb' hb
  | char hc _ ih => exact .char hc ih
  | blanks hb hb' _ ih => exact .blanks hb' hb ih

theorem cons (c : Char) (h : Respaced s t) : Respaced (c :: s) (c :: t) := by
  cases hc : isBlank c with
  | false => exact .char hc h
  | true =>
    have hblank : Separates [c] := ⟨List.cons_ne_nil _ _, by simpa [Blanks] using hc⟩
    have hboth : Respaced ([c] ++ s) ([c] ++ t) := .blanks hblank hblank h
    exact hboth

theorem append_left (w : List Char) (h : Respaced s t) : Respaced (w ++ s) (w ++ t) := by
  induction w with
  | nil => exact h
  | cons c w ih => exact ih.cons c

theorem trimStart (h : Respaced s t) : Respaced (trimStart s) (trimStart t) := by
  have hnil : ∀ {b}, Blanks b → Text.trimStart b = [] :=
    fun hb => List.dropWhile_eq_nil_iff.mpr hb
  induction h with
  | done hb hb' =>
    rw [hnil hb, hnil hb']
    exact .done (List.forall_mem_nil _) (List.forall_mem_nil _)
  | char hc h _ =>
    rw [trimStart_cons hc, trimStart_cons hc]
    exact .char hc h
  | blanks hb hb' _ ih =>
    rw [trimStart_append hb.2, trimStart_append hb'.2]
    exact ih

/-- A character that is not blank stands in both texts. -/
theorem of_cons (hc : isBlank c = false) (h : Respaced (c :: s) t) :
    ∃ t', t = c :: t' ∧ Respaced s t' := by
  have hfirst : ∀ {b u : List Char}, Blanks b → b ++ u = c :: s → b = [] := by
    intro b u hb heq
    cases b with
    | nil => rfl
    | cons d b =>
      cases heq
      rw [hb c List.mem_cons_self] at hc
      cases hc
  generalize hs : c :: s = s' at h
  cases h with
  | done hb hb' =>
    obtain rfl := hfirst hb ((List.append_nil _).trans hs.symm)
    cases hs
  | char hd h =>
    cases hs
    exact ⟨_, rfl, h⟩
  | blanks hb => exact absurd (hfirst hb.2 hs.symm) hb.1

/-- A word stands in both texts. -/
theorem of_word (hw : ∀ c ∈ w, isBlank c = false) (h : Respaced (w ++ s) t) :
    ∃ t', t = w ++ t' ∧ Respaced s t' := by
  induction w generalizing t with
  | nil => exact ⟨t, rfl, h⟩
  | cons c w ih =>
    obtain ⟨hc, hw⟩ := List.forall_mem_cons.mp hw
    obtain ⟨t', rfl, htail⟩ := of_cons hc h
    obtain ⟨t'', rfl, hrest⟩ := ih hw htail
    exact ⟨t'', rfl, hrest⟩

/-- A word behind blanks stands behind blanks in both texts, and at once in both or in neither. -/
theorem of_blanks (hb : Blanks b) (hw : IsToken w) (h : Respaced (b ++ (w ++ s)) t) :
    ∃ b' t', Blanks b' ∧ (b ≠ [] → b' ≠ []) ∧ t = b' ++ (w ++ t') ∧ Respaced s t' := by
  have htrim := h.trimStart
  have hword : Text.trimStart (w ++ s) = w ++ s := by
    cases w with
    | nil => exact absurd rfl hw.1
    | cons c w => exact trimStart_cons (hw.2 c List.mem_cons_self) _
  rw [trimStart_append hb, hword] at htrim
  obtain ⟨t', ht', hrest⟩ := of_word hw.2 htrim
  obtain ⟨b', hb', hsplit⟩ := exists_blanks t
  rw [ht'] at hsplit
  refine ⟨b', t', hb', ?_, hsplit, hrest⟩
  -- Without blanks in front of it, the word would stand at the front of both texts.
  rintro hne rfl
  obtain ⟨d, b, rfl⟩ := List.exists_cons_of_ne_nil hne
  rw [hsplit] at h
  obtain ⟨c, w, rfl⟩ := List.exists_cons_of_ne_nil hw.1
  obtain ⟨_, heq, _⟩ := of_cons (hw.2 c List.mem_cons_self) h.symm
  have hd := hb d List.mem_cons_self
  cases heq
  rw [hw.2 d List.mem_cons_self] at hd
  cases hd

/-- The same where there has to be a blank. -/
theorem of_separates (hb : Separates b) (hw : IsToken w) (h : Respaced (b ++ (w ++ s)) t) :
    ∃ b' t', Separates b' ∧ t = b' ++ (w ++ t') ∧ Respaced s t' := by
  obtain ⟨b', t', hb', hne, ht, hrest⟩ := of_blanks hb.2 hw h
  exact ⟨b', t', ⟨hne hb.1, hb'⟩, ht, hrest⟩

/-! ### What the reader looks for -/

variable {type name body opening : List Char}

theorem isAccessors (hbody : IsAccessors body) (h : Respaced (body ++ s) t) :
    ∃ body' t', IsAccessors body' ∧ t = body' ++ t' ∧ Respaced s t' := by
  have hopen : IsToken "\x7b".toList := by decide
  have hget : IsToken "get;".toList := by decide
  have hset : IsToken "set;".toList := by decide
  have hclose : IsToken "\x7d".toList := by decide
  obtain ⟨hb₁, hb₂, hb₃, hb₄⟩ := hbody
  simp only [List.append_assoc] at h
  obtain ⟨b₁, t₁, hb₁, -, rfl, h₁⟩ := of_blanks hb₁ hopen h
  obtain ⟨b₂, t₂, hb₂, -, rfl, h₂⟩ := of_blanks hb₂ hget h₁
  obtain ⟨b₃, t₃, hb₃, -, rfl, h₃⟩ := of_blanks hb₃ hset h₂
  obtain ⟨b₄, t₄, hb₄, -, rfl, h₄⟩ := of_blanks hb₄ hclose h₃
  refine ⟨_, t₄, .mk hb₁ hb₂ hb₃ hb₄, ?_, h₄⟩
  simp only [List.append_assoc]

/-- A declaration in front of one text has a counterpart, with the same type and the same name, in
front of the other. -/
theorem isDeclaration (hbody : IsDeclaration type name body) (h : Respaced (body ++ s) t) :
    ∃ body' t', IsDeclaration type name body' ∧ t = body' ++ t' ∧ Respaced s t' := by
  have hpublic : IsToken "public".toList := by decide
  obtain ⟨hb₁, htype, hb₂, hname, hacc⟩ := hbody
  simp only [List.append_assoc] at h
  obtain ⟨t₁, rfl, h₁⟩ := of_word hpublic.2 h
  obtain ⟨b₁, t₂, hb₁, rfl, h₂⟩ := of_separates hb₁ htype h₁
  obtain ⟨b₂, t₃, hb₂, rfl, h₃⟩ := of_separates hb₂ hname h₂
  obtain ⟨accessors, t₄, hacc, rfl, h₄⟩ := isAccessors hacc h₃
  refine ⟨_, t₄, .mk hb₁ htype hb₂ hname hacc, ?_, h₄⟩
  simp only [List.append_assoc]

theorem isOpening (hopening : IsOpening opening) (hname : IsToken name)
    (h : Respaced (opening ++ (name ++ s)) t) :
    ∃ opening' t', IsOpening opening' ∧ t = opening' ++ (name ++ t') ∧ Respaced s t' := by
  have hpublic : IsToken "public".toList := by decide
  have hclass : IsToken "class".toList := by decide
  obtain ⟨hb₁, hb₂⟩ := hopening
  simp only [List.append_assoc] at h
  obtain ⟨t₁, rfl, h₁⟩ := of_word hpublic.2 h
  obtain ⟨b₁, t₂, hb₁, rfl, h₂⟩ := of_separates hb₁ hclass h₁
  obtain ⟨b₂, t₃, hb₂, rfl, h₃⟩ := of_separates hb₂ hname h₂
  refine ⟨_, t₃, .mk hb₁ hb₂, ?_, h₃⟩
  simp only [List.append_assoc]

/-! ### What it finds -/

/-- Of the declarations in front of a text the longest is read, and the two texts have the same
ones. -/
theorem declarationAt? {p : Property} {rest : List Char} (h : Respaced s t)
    (hread : declarationAt? s = some (p, rest)) :
    ∃ rest', Definition.declarationAt? t = some (p, rest') ∧ Respaced rest rest' := by
  obtain ⟨body, hbody, rfl⟩ := declarationAt?_sound hread
  obtain ⟨body', t', hbody', rfl, hrest⟩ := isDeclaration hbody h
  obtain ⟨q, r, hq, htype, hle, heq⟩ := declarationAt?_longest hbody' t'
  -- What is read from the other text stands in front of the first as well.
  obtain ⟨found, hfound, hsplit⟩ := declarationAt?_sound hq
  rw [hsplit] at h
  obtain ⟨found', s', hfound', hsplit', _⟩ := isDeclaration hfound h.symm
  obtain ⟨q', r', hq', _, hle', _⟩ := declarationAt?_longest hfound' s'
  rw [← hsplit', hread] at hq'
  obtain ⟨rfl, rfl⟩ := Prod.mk.inj (Option.some.inj hq')
  obtain ⟨hname, rfl⟩ := heq (Nat.le_antisymm hle' hle)
  have hp : q = p :=
    Property.ext (String.toList_injective hname) (String.toList_injective htype)
  exact ⟨r, hp ▸ hq, hrest⟩

theorem declarationAt?_eq_none (h : Respaced s t) (hnone : Definition.declarationAt? s = none) :
    Definition.declarationAt? t = none := by
  cases hread : Definition.declarationAt? t with
  | none => rfl
  | some found =>
    obtain ⟨p, rest⟩ := found
    obtain ⟨_, hread', _⟩ := h.symm.declarationAt? hread
    rw [hnone] at hread'
    cases hread'

/-- The reader lists the same declarations. -/
theorem declarations (h : Respaced s t) :
    Definition.declarations s = Definition.declarations t := by
  -- Behind a declaration the reader goes on with the rest, so the texts get shorter by more than
  -- one step of the relation.
  induction hn : s.length using Nat.strongRecOn generalizing s t with
  | ind n ih =>
    cases hread : Definition.declarationAt? s with
    | some found =>
      obtain ⟨p, rest⟩ := found
      obtain ⟨rest', hread', hrest⟩ := h.declarationAt? hread
      rw [declarations_of_some hread, declarations_of_some hread',
        ih _ (hn ▸ declarationAt?_length_lt hread) hrest rfl]
    | none =>
      have hnone := h.declarationAt?_eq_none hread
      cases h with
      | done hb hb' => rw [declarations_blanks hb, declarations_blanks hb']
      | char hc h =>
        rw [declarations_of_none hread, declarations_of_none hnone]
        exact ih _ (by simp [← hn]) h rfl
      | blanks hb hb' h =>
        have hlength := List.length_pos_iff.mpr hb.1
        rw [declarations_calm (calm_blanks hb.2), declarations_calm (calm_blanks hb'.2)]
        exact ih _ (by simp [← hn, hlength]) h rfl

theorem classNameAt? (h : Respaced s t) (hread : classNameAt? s = some name) :
    Definition.classNameAt? t = some name := by
  obtain ⟨opening, rest, hopening, hname, hrest, rfl⟩ := classNameAt?_eq_some_iff.mp hread
  obtain ⟨opening', rest', hopening', rfl, h'⟩ := isOpening hopening hname.isToken h
  refine classNameAt?_eq_some_iff.mpr ⟨opening', rest', hopening', hname, ?_, rfl⟩
  -- A word character behind the name would stand behind it in the first text as well.
  intro c hc
  cases rest' with
  | nil => cases hc
  | cons d rest' =>
    cases hc
    cases hword : isWord c with
    | false => rfl
    | true =>
      obtain ⟨_, rfl, _⟩ := of_cons (isBlank_eq_false_of_isWord hword) h'.symm
      rw [hrest c rfl] at hword
      cases hword

/-- The reader finds the same class name. -/
theorem className? (h : Respaced s t) : className? s = Definition.className? t := by
  induction h with
  | done hb hb' => rw [className?_blanks hb, className?_blanks hb']
  | @char c s t hc h ih =>
    rw [Definition.className?, Definition.className?, ih]
    have hboth : Respaced (c :: s) (c :: t) := .char hc h
    cases hread : Definition.classNameAt? (c :: s) with
    | some name => rw [hboth.classNameAt? hread]
    | none =>
      cases hread' : Definition.classNameAt? (c :: t) with
      | none => rfl
      | some name =>
        rw [hboth.symm.classNameAt? hread'] at hread
        cases hread
  | blanks hb hb' _ ih =>
    rw [className?_calm (calm_blanks hb.2), className?_calm (calm_blanks hb'.2), ih]

end Respaced

/-- Definitions that differ in their spacing describe the same entity. -/
theorem parse_of_respaced {definition definition' : String}
    (h : Respaced definition.toList definition'.toList) :
    Entity.parse definition = Entity.parse definition' := by
  rw [Entity.parse, Entity.parse, h.className?, h.declarations]

end Scaffold.Definition
