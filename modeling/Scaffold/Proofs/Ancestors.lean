import Scaffold.Proofs.Places

/-!
# The paths that a path lies in

To make a directory is to make the directories it lies in first. Their paths are read off the
components of the path, one less each time, so the places they denote are those that one comes by
when the steps of the path are followed.

* `moves`: the steps without the dots that stand for the place itself. `moves_ofComponents` reads
  them back from a path that is put together, and `moves_parent` says that a parent has the first
  of them.
* `OnTheWay`: the places that the first steps of a path lead to.
* `onTheWay_of_mem_chain`: every path that a path lies in leads to a place on its way.
-/

namespace Scaffold

namespace Path

/-! ### Moves -/

/-- The steps that lead away from where they start. -/
def moves (p : Path) : List String := p.steps.filter (· ≠ ".")

theorem mem_moves {p : Path} {s : String} (h : s ∈ p.moves) : IsPiece s ∧ s ≠ "." := by
  obtain ⟨hsteps, hdot⟩ := List.mem_filter.mp h
  exact ⟨isPiece_of_mem_steps hsteps, of_decide_eq_true hdot⟩

/-- What stands in front of the moves in the components of a path that is absolute or not. -/
inductive IsFront : Bool → List Component → Prop where
  | root : IsFront true [.root]
  | here : IsFront false [.here]
  | none : IsFront false []

theorem exists_front (p : Path) :
    ∃ front, IsFront p.isAbsolute front ∧
      p.components = front ++ p.moves.map Component.ofStep := by
  unfold components moves
  by_cases habs : p.isAbsolute = true
  · rw [if_pos habs, habs]
    exact ⟨_, .root, rfl⟩
  · rw [if_neg habs, Bool.eq_false_iff.mpr habs]
    split
    · next rest hsteps =>
      rw [hsteps, List.filter_cons_of_neg (by simp)]
      exact ⟨_, .here, rfl⟩
    · exact ⟨_, .none, rfl⟩

/-! ### Paths that are put together -/

theorem Component.text_ofStep (s : String) : (Component.ofStep s).text = s := by
  unfold ofStep
  split <;> rfl

theorem Component.ofStep_ne_root (s : String) : Component.ofStep s ≠ .root := by
  unfold ofStep
  split <;> exact Component.noConfusion

/-- Components that are joined to a path one by one follow its steps. -/
theorem steps_foldl_join {cs : List Component} (h : ∀ c ∈ cs, IsPiece c.text) (p : Path) :
    (cs.foldl (fun q c => q.join ⟨c.text⟩) p).isAbsolute = p.isAbsolute ∧
      (cs.foldl (fun q c => q.join ⟨c.text⟩) p).steps = p.steps ++ cs.map Component.text := by
  induction cs generalizing p with
  | nil => exact ⟨rfl, (List.append_nil _).symm⟩
  | cons c cs ih =>
    obtain ⟨hc, hcs⟩ := List.forall_mem_cons.mp h
    obtain ⟨habs, hsteps⟩ := ih hcs (p.join ⟨c.text⟩)
    constructor
    · rw [List.foldl_cons, habs, hc.isAbsolute_join]
    · rw [List.foldl_cons, hsteps, hc.steps_join, List.append_assoc]
      rfl

/-- Moves are read back from the path that is put together from them. -/
theorem moves_ofComponents {absolute : Bool} {front : List Component} {names : List String}
    (hfront : IsFront absolute front) (hnames : ∀ s ∈ names, IsPiece s ∧ s ≠ ".") :
    (ofComponents (front ++ names.map Component.ofStep)).isAbsolute = absolute ∧
      (ofComponents (front ++ names.map Component.ofStep)).moves = names := by
  have hpieces : ∀ c ∈ names.map Component.ofStep, IsPiece c.text := by
    intro c hc
    obtain ⟨s, hs, rfl⟩ := List.mem_map.mp hc
    rw [Component.text_ofStep]
    exact (hnames s hs).1
  have htexts : (names.map Component.ofStep).map Component.text = names := by
    rw [List.map_map]
    exact List.map_id'' Component.text_ofStep names
  have hkept : names.filter (· ≠ ".") = names :=
    List.filter_eq_self.mpr fun s hs => decide_eq_true (hnames s hs).2
  -- The front is a path of its own without moves, to which the names are joined.
  have hjoined : ∀ q : Path, q.moves = [] →
      ((names.map Component.ofStep).foldl (fun q c => q.join ⟨c.text⟩) q).isAbsolute =
          q.isAbsolute ∧
        ((names.map Component.ofStep).foldl (fun q c => q.join ⟨c.text⟩) q).moves = names := by
    intro q hq
    obtain ⟨habs, hsteps⟩ := steps_foldl_join hpieces q
    refine ⟨habs, ?_⟩
    rw [moves] at hq ⊢
    rw [hsteps, htexts, List.filter_append, hq, hkept]
    rfl
  rw [ofComponents, List.foldl_append]
  cases hfront with
  | root => exact hjoined ⟨"/"⟩ rfl
  | here => exact hjoined ⟨"."⟩ rfl
  | none => exact hjoined ⟨""⟩ rfl

/-! ### Parents -/

/-- A parent is the path without its last component, which is not the root. -/
theorem parent?_eq_some {p q : Path} (h : p.parent? = some q) :
    q = ofComponents p.components.dropLast ∧ p.components ≠ [] ∧ p.components ≠ [.root] := by
  unfold parent? at h
  split at h
  · cases h
  · cases h
  · next c hc hlast =>
    refine ⟨(Option.some.inj h).symm, ?_, ?_⟩
    · intro hnil
      rw [hnil] at hlast
      cases hlast
    · intro hroot
      rw [hroot] at hlast
      exact hc (Option.some.inj hlast).symm

/-- A parent has the moves of a path but for the last one. -/
theorem moves_parent {p q : Path} (h : p.parent? = some q) :
    q.isAbsolute = p.isAbsolute ∧ q.moves = p.moves.dropLast := by
  obtain ⟨rfl, hne, hroot⟩ := parent?_eq_some h
  obtain ⟨front, hfront, hcomponents⟩ := exists_front p
  have hnames : ∀ s ∈ p.moves.dropLast, IsPiece s ∧ s ≠ "." :=
    fun s hs => mem_moves ((List.dropLast_sublist _).subset hs)
  obtain ⟨habs, hread⟩ := moves_ofComponents hfront hnames
  rw [hcomponents] at hne hroot ⊢
  cases hmoves : p.moves with
  | nil =>
    -- Only a dot in front can be left out, and it is not a move.
    rw [hmoves] at hne hroot
    generalize p.isAbsolute = absolute at hfront
    cases hfront with
    | root => exact absurd rfl hroot
    | here => exact ⟨rfl, rfl⟩
    | none => exact absurd rfl hne
  | cons first rest =>
    have hdrop : (front ++ (first :: rest).map Component.ofStep).dropLast =
        front ++ (first :: rest).dropLast.map Component.ofStep := by
      rw [List.dropLast_append_of_ne_nil (by simp), List.map_dropLast]
    rw [hmoves] at habs hread
    rw [hdrop, habs, hread]
    exact ⟨rfl, rfl⟩

end Path

namespace FileSystem

/-! ### Places on the way -/

/-- A place is on the way of a path when some of the first steps lead there. -/
def OnTheWay (here : Location) (p : Path) (l : Location) : Prop :=
  ∃ names, names <+: p.steps ∧ l = names.foldl follow (start here p)

variable {here l : Location} {p q : Path}

theorem onTheWay_resolve (here : Location) (p : Path) : OnTheWay here p (resolve here p) :=
  ⟨p.steps, List.prefix_rfl, rfl⟩

/-- A name that is joined to a path adds one place to its way. -/
theorem onTheWay_join {name : String} (hname : Path.IsPiece name) :
    OnTheWay here (p.join ⟨name⟩) l ↔
      OnTheWay here p l ∨ l = resolve here (p.join ⟨name⟩) := by
  have hstart : start here (p.join ⟨name⟩) = start here p := by
    rw [start, start, hname.isAbsolute_join]
  unfold OnTheWay
  rw [resolve, hstart, hname.steps_join]
  constructor
  · rintro ⟨names, hfirst, rfl⟩
    rcases List.prefix_concat_iff.mp hfirst with rfl | hbefore
    · exact Or.inr rfl
    · exact Or.inl ⟨names, hbefore, rfl⟩
  · rintro (⟨names, hfirst, rfl⟩ | rfl)
    · exact ⟨names, hfirst.trans (List.prefix_append _ _), rfl⟩
    · exact ⟨_, List.prefix_rfl, rfl⟩

/-- Steps and moves lead to the same place. -/
theorem foldl_follow_moves (names : List String) (l : Location) :
    (names.filter (· ≠ ".")).foldl follow l = names.foldl follow l := by
  induction names generalizing l with
  | nil => rfl
  | cons name names ih =>
    by_cases hdot : name = "."
    · rw [List.filter_cons_of_neg (by simp [hdot]), List.foldl_cons, ih, follow, if_pos hdot]
    · rw [List.filter_cons_of_pos (by simp [hdot]), List.foldl_cons, List.foldl_cons, ih]

theorem onTheWay_iff_moves :
    OnTheWay here p l ↔ ∃ names, names <+: p.moves ∧ l = names.foldl follow (start here p) := by
  constructor
  · rintro ⟨names, hfirst, rfl⟩
    exact ⟨_, hfirst.filter _, (foldl_follow_moves names _).symm⟩
  · rintro ⟨_, hfirst, rfl⟩
    obtain ⟨names, hsteps, rfl⟩ := List.prefix_filter_iff.mp hfirst
    exact ⟨names, hsteps, foldl_follow_moves names _⟩

/-- The way of a parent is a part of the way of the path. -/
theorem onTheWay_of_parent (hq : p.parent? = some q) (h : OnTheWay here q l) :
    OnTheWay here p l := by
  obtain ⟨habs, hmoves⟩ := Path.moves_parent hq
  obtain ⟨names, hnames, rfl⟩ := onTheWay_iff_moves.mp h
  rw [hmoves] at hnames
  refine onTheWay_iff_moves.mpr ⟨names, hnames.trans (List.dropLast_prefix _), ?_⟩
  rw [start, start, habs]

theorem onTheWay_of_mem_chain (hq : q ∈ p.chain) (h : OnTheWay here q l) : OnTheWay here p l := by
  unfold Path.chain at hq
  generalize p.components.length = n at hq
  induction n generalizing p with
  | zero => exact absurd hq List.not_mem_nil
  | succ n ih =>
    rw [Path.chain.go] at hq
    cases hparent : p.parent? with
    | none =>
      rw [hparent] at hq
      exact absurd hq List.not_mem_nil
    | some parent =>
      rw [hparent] at hq
      rcases List.mem_cons.mp hq with rfl | hq
      · exact h
      · exact onTheWay_of_parent hparent (ih hq)

end FileSystem

end Scaffold
