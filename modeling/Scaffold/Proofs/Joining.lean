import Scaffold.Artifact

/-!
# Joining paths

What becomes of the pieces of a path when a relative path is joined to it: the steps of the two
follow each other, and a plain name adds exactly one component.

* `steps_join`, `isAbsolute_join`: the steps of a joined path, and where it starts.
* `join_assoc`: it does not matter which of three paths are joined first.
* `isPiece_of_mem_steps`: steps are what can stand between two slashes.
* `components_join_name`: the components of a path to which a plain name is joined.
-/

namespace Scaffold

/-! ### Cutting at slashes -/

theorem splitAtSlashes_ne_nil (s : List Char) : splitAtSlashes s ≠ [] := by
  cases s with
  | nil => exact List.cons_ne_nil _ _
  | cons c s =>
    rw [splitAtSlashes]
    split
    · exact List.cons_ne_nil _ _
    · split <;> exact List.cons_ne_nil _ _

/-- A text is cut at a slash in its middle, and each side on its own. -/
theorem splitAtSlashes_append_slash (s t : List Char) :
    splitAtSlashes (s ++ '/' :: t) = splitAtSlashes s ++ splitAtSlashes t := by
  induction s with
  | nil => simp [splitAtSlashes]
  | cons c s ih =>
    rw [List.cons_append, splitAtSlashes, splitAtSlashes]
    by_cases hc : c = '/'
    · rw [if_pos hc, if_pos hc, ih, List.cons_append]
    · rw [if_neg hc, if_neg hc, ih]
      cases h : splitAtSlashes s with
      | nil => exact absurd h (splitAtSlashes_ne_nil s)
      | cons piece pieces => rfl

/-- A text without slashes is not cut. -/
theorem splitAtSlashes_of_no_slash {s : List Char} (h : '/' ∉ s) : splitAtSlashes s = [s] := by
  induction s with
  | nil => rfl
  | cons c s ih =>
    obtain ⟨hc, hs⟩ := not_or.mp (mt List.mem_cons.mpr h)
    rw [splitAtSlashes, if_neg (Ne.symm hc), ih hs]

/-- The pieces of a cut text have no slash in them. -/
theorem no_slash_of_mem_splitAtSlashes {s piece : List Char} (h : piece ∈ splitAtSlashes s) :
    '/' ∉ piece := by
  induction s generalizing piece with
  | nil =>
    rw [List.mem_singleton.mp h]
    exact List.not_mem_nil
  | cons c s ih =>
    rw [splitAtSlashes] at h
    by_cases hc : c = '/'
    · rw [if_pos hc] at h
      rcases List.mem_cons.mp h with rfl | h
      · exact List.not_mem_nil
      · exact ih h
    · rw [if_neg hc] at h
      cases hs : splitAtSlashes s with
      | nil => exact absurd hs (splitAtSlashes_ne_nil s)
      | cons first pieces =>
        rw [hs] at h ih
        rcases List.mem_cons.mp h with rfl | h
        · refine List.not_mem_cons_of_ne_of_not_mem (Ne.symm hc) ?_
          exact ih List.mem_cons_self
        · exact ih (List.mem_cons_of_mem _ h)

namespace Path

/-! ### Steps -/

/-- The steps of a text are those of the sides of a slash in it. -/
theorem steps_append_slash (s t : String) :
    steps ⟨s ++ "/" ++ t⟩ = steps ⟨s⟩ ++ steps ⟨t⟩ := by
  have htext : (s ++ "/" ++ t).toList = s.toList ++ '/' :: t.toList := by simp
  unfold steps
  rw [htext, splitAtSlashes_append_slash, List.filter_append, List.map_append]

/-- A text that ends in a slash is one without it and the slash. -/
theorem exists_of_endsInSlash {p : Path} (h : p.endsInSlash = true) :
    ∃ s : String, p.text = s ++ "/" := by
  have hlast : p.text.toList.getLast? = some '/' := by simpa [endsInSlash] using h
  obtain ⟨s, hs⟩ := List.getLast?_eq_some_iff.mp hlast
  refine ⟨String.ofList s, String.toList_injective ?_⟩
  rw [hs, String.toList_append, String.toList_ofList]
  rfl

/-- Two texts are joined with a slash between them or with nothing. -/
theorem exists_text_join (p : Path) {q : Path} (hq : q.isAbsolute = false) :
    ∃ slash, (slash = "" ∨ slash = "/") ∧ (p.join q).text = p.text ++ slash ++ q.text := by
  by_cases hp : p.text = ""
  · refine ⟨"", Or.inl rfl, ?_⟩
    simp [join, hp]
  · rw [text_join_of_relative hq hp]
    split
    · exact ⟨"", Or.inl rfl, rfl⟩
    · exact ⟨"/", Or.inr rfl, rfl⟩

/-- The steps of a joined path are the steps of both. -/
theorem steps_join {p q : Path} (hq : q.isAbsolute = false) :
    (p.join q).steps = p.steps ++ q.steps := by
  by_cases hp : p.text = ""
  · have hsteps : p.steps = [] := by
      rw [steps, hp]
      rfl
    rw [hsteps, join, if_pos (by simp [hp])]
    rfl
  · have htext := text_join_of_relative hq hp
    have hjoin : (p.join q).steps = steps ⟨(p.join q).text⟩ := rfl
    rw [hjoin, htext]
    by_cases hs : p.endsInSlash = true
    · -- The slash in the middle is the last one of `p`, behind which there is no step.
      obtain ⟨s, hs'⟩ := exists_of_endsInSlash hs
      have hsteps : p.steps = steps ⟨s⟩ := by
        have := steps_append_slash s ""
        rw [String.append_empty, ← hs'] at this
        rw [this]
        exact List.append_nil _
      rw [if_pos hs, String.append_empty, hs', steps_append_slash, hsteps]
    · rw [if_neg hs, steps_append_slash]

/-- A joined path starts where the first one does. -/
theorem isAbsolute_join {p q : Path} (hq : q.isAbsolute = false) (hp : p.text ≠ "") :
    (p.join q).isAbsolute = p.isAbsolute := by
  have htext : (p.join q).text.toList =
      p.text.toList ++ ((if p.endsInSlash then "" else "/").toList ++ q.text.toList) := by
    rw [text_join_of_relative hq hp, String.toList_append, String.toList_append, List.append_assoc]
  unfold isAbsolute
  rw [htext]
  cases h : p.text.toList with
  | nil => exact absurd (String.toList_eq_nil_iff.mp h) hp
  | cons c s => rfl

/-- Joining is associative as long as there is something in the middle. -/
theorem join_assoc (p : Path) {q : Path} (r : Path) (hq : q.text ≠ "") :
    p.join (q.join r) = (p.join q).join r := by
  by_cases hr : r.isAbsolute = true
  · rw [join_of_isAbsolute q hr, join_of_isAbsolute p hr, join_of_isAbsolute _ hr]
  have hr' : r.isAbsolute = false := Bool.eq_false_iff.mpr hr
  have habs : (q.join r).isAbsolute = q.isAbsolute := isAbsolute_join hr' hq
  by_cases hqabs : q.isAbsolute = true
  · rw [join_of_isAbsolute p hqabs, join_of_isAbsolute p (habs.trans hqabs)]
  have hq' : q.isAbsolute = false := Bool.eq_false_iff.mpr hqabs
  by_cases hp : p.text = ""
  · have hjoin : ∀ t : Path, p.join t = t := fun t => by simp [join, hp]
    rw [hjoin, hjoin]
  have htext := text_join_of_relative hq' hp
  have hne : (p.join q).text ≠ "" := by
    rw [htext]
    exact fun h => hq (String.append_eq_empty_iff.mp h).2
  have hlast : (p.join q).text.toList.getLast? = q.text.toList.getLast? := by
    rw [htext, String.toList_append, List.getLast?_append]
    cases hlast : q.text.toList.getLast? with
    | none => exact absurd (String.toList_eq_nil_iff.mp (List.getLast?_eq_none_iff.mp hlast)) hq
    | some c => rfl
  have hslash : (p.join q).endsInSlash = q.endsInSlash := by rw [endsInSlash, hlast, endsInSlash]
  have hwhole : (p.join (q.join r)).text = ((p.join q).join r).text := by
    rw [text_join_of_relative (habs.trans hq') hp, text_join_of_relative hr' hq,
      text_join_of_relative hr' hne, hslash, htext]
    simp only [String.append_assoc]
  exact congrArg Path.mk hwhole

/-! ### Pieces -/

/-- What can stand between two slashes: it is not empty and has no slash in it. -/
structure IsPiece (s : String) : Prop where
  ne_empty : s ≠ ""
  no_slash : '/' ∉ s.toList

namespace IsPiece

variable {s : String}

theorem isAbsolute (h : IsPiece s) : Path.isAbsolute ⟨s⟩ = false := by
  have hs := h.no_slash
  unfold Path.isAbsolute
  cases hl : s.toList with
  | nil => rfl
  | cons c t =>
    rw [hl] at hs
    have hc : c ≠ '/' := fun he => hs (he ▸ List.mem_cons_self)
    simpa using hc

theorem steps (h : IsPiece s) : Path.steps ⟨s⟩ = [s] := by
  have hne : s.toList.isEmpty = false := by
    rw [List.isEmpty_eq_false_iff]
    exact fun he => h.ne_empty (String.toList_eq_nil_iff.mp he)
  unfold Path.steps
  rw [splitAtSlashes_of_no_slash h.no_slash]
  simp [hne]

/-- Joining a piece adds one step. -/
theorem steps_join (h : IsPiece s) (p : Path) : (p.join ⟨s⟩).steps = p.steps ++ [s] := by
  rw [Path.steps_join h.isAbsolute, h.steps]

theorem isAbsolute_join (h : IsPiece s) (p : Path) : (p.join ⟨s⟩).isAbsolute = p.isAbsolute := by
  by_cases hp : p.text = ""
  · have hjoin : p.join ⟨s⟩ = ⟨s⟩ := by simp [Path.join, hp]
    rw [hjoin, h.isAbsolute, Path.isAbsolute, hp]
    rfl
  · exact Path.isAbsolute_join h.isAbsolute hp

theorem endsInSlash_join (h : IsPiece s) (p : Path) : (p.join ⟨s⟩).endsInSlash = false := by
  obtain ⟨slash, _, htext⟩ := exists_text_join p h.isAbsolute
  have hne : s.toList ≠ [] := fun he => h.ne_empty (String.toList_eq_nil_iff.mp he)
  have hlast : (p.join ⟨s⟩).text.toList.getLast? = some (s.toList.getLast hne) := by
    rw [htext, String.toList_append, List.getLast?_append, List.getLast?_eq_some_getLast hne]
    rfl
  have hslash : s.toList.getLast hne ≠ '/' := by
    intro heq
    exact h.no_slash (heq ▸ List.getLast_mem hne)
  rw [endsInSlash, hlast]
  simpa using hslash

end IsPiece

theorem isPiece_of_mem_steps {p : Path} {s : String} (h : s ∈ p.steps) : IsPiece s := by
  obtain ⟨piece, hpiece, rfl⟩ := List.mem_map.mp h
  obtain ⟨hcut, hne⟩ := List.mem_filter.mp hpiece
  constructor
  · intro hempty
    have hnil : piece = [] := String.ofList_injective hempty
    rw [hnil] at hne
    cases hne
  · rw [String.toList_ofList]
    exact no_slash_of_mem_splitAtSlashes hcut

/-! ### Components -/

/-- A plain name: it is not empty, has no slash in it, and is not made of dots that stand for a
directory. -/
structure IsName (s : String) : Prop where
  ne_empty : s ≠ ""
  no_slash : '/' ∉ s.toList
  ne_here : s ≠ "."
  ne_parent : s ≠ ".."

theorem IsName.isPiece {s : String} (h : IsName s) : IsPiece s := ⟨h.ne_empty, h.no_slash⟩

theorem IsName.isAbsolute {s : String} (h : IsName s) : isAbsolute ⟨s⟩ = false :=
  h.isPiece.isAbsolute

theorem IsName.steps {s : String} (h : IsName s) : steps ⟨s⟩ = [s] := h.isPiece.steps

/-- Joining a plain name adds one component. -/
theorem components_join_name {p : Path} {s : String} (hs : IsName s) :
    (p.join ⟨s⟩).components = p.components ++ [.name s] := by
  have hstep : Component.ofStep s = .name s := by
    unfold Component.ofStep
    split
    · exact absurd rfl hs.ne_parent
    · rfl
  have hkept : ([s].filter (· ≠ ".")).map Component.ofStep = [.name s] := by
    simp [hs.ne_here, hstep]
  unfold components
  rw [hs.isPiece.isAbsolute_join, hs.isPiece.steps_join]
  by_cases habs : p.isAbsolute = true
  · rw [if_pos habs, if_pos habs, List.filter_append, List.map_append, hkept]
    rfl
  · rw [if_neg habs, if_neg habs]
    -- A dot counts in front only, and the name does not come in front of it.
    cases hsteps : p.steps with
    | nil =>
      rw [List.nil_append]
      split
      · next h => exact absurd (List.cons.inj h).1 hs.ne_here
      · exact hkept
    | cons first rest =>
      rw [List.cons_append]
      by_cases hdot : first = "."
      · subst hdot
        simp only [List.filter_append, List.map_append, hkept, List.cons_append]
      · split
        · next h => exact absurd (List.cons.inj h).1 hdot
        · next =>
          rw [← List.cons_append, List.filter_append, List.map_append, hkept]
          split
          · next h => exact absurd (List.cons.inj h).1 hdot
          · rfl

end Path

/-- The name of a folder is a plain name. -/
theorem Folder.isName (f : Folder) : Path.IsName f.name := by
  constructor <;> cases f <;> decide

end Scaffold
