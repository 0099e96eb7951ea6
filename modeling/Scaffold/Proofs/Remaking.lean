import Scaffold.Proofs.Directories

/-!
# Making directories again

Directories that can be made somewhere can also be made where more of them are there already,
provided that nothing but directories stands on their way. A directory that is there is excused, a
missing one is made as before, and the making may stop earlier than it did.

* `makeDirectory_of_isDirectory`, `isDirectory_of_makeDirectory`: a directory is made once.
* `makeDirectory_of_clear`: what can become of making a directory when its way is clear.
* `Session.Ahead`: more directories are there, and the places in question are clear.
* `exists_makeChain`, `exists_makeFolders`: what could be made can be made further ahead.
-/

namespace Scaffold

namespace FileSystem

variable {fs fs' : FileSystem} {here l m : Location} {p : Path} {names first : List String}

/-! ### Directories that are there -/

theorem isDirectory_eq_true_iff :
    fs.isDirectory here p = true ↔
      checkPath p = .ok () ∧ fs.walk (start here p) p.steps = .ok (resolve here p) ∧
        fs.get? (resolve here p) = some .directory := by
  unfold isDirectory
  constructor
  · intro h
    cases hlocate : fs.locate here p with
    | error fault =>
      rw [hlocate] at h
      cases h
    | ok l =>
      rw [hlocate] at h
      have hwalk := walk_of_locate hlocate
      obtain rfl : l = resolve here p := walk_eq_foldl hwalk
      obtain ⟨_, hpath, _⟩ := bind_eq_ok_iff.mp hlocate
      exact ⟨hpath, hwalk, by simpa using h⟩
  · rintro ⟨hpath, hwalk, hdirectory⟩
    have hlocate : fs.locate here p = .ok (resolve here p) := by
      refine bind_eq_ok_iff.mpr ⟨(), hpath, bind_eq_ok_iff.mpr ⟨_, hwalk, ?_⟩⟩
      split
      · exact bind_eq_ok_iff.mpr ⟨(), checkDirectory_eq_ok_iff.mpr hdirectory, rfl⟩
      · rfl
    rw [hlocate]
    simpa using hdirectory

theorem isDirectory_of_keeps
    (hkeep : ∀ k, fs.get? k = some .directory → fs'.get? k = some .directory)
    (h : fs.isDirectory here p = true) : fs'.isDirectory here p = true := by
  obtain ⟨hpath, hwalk, hdirectory⟩ := isDirectory_eq_true_iff.mp h
  exact isDirectory_eq_true_iff.mpr
    ⟨hpath, walk_of_keeps hkeep hwalk hdirectory, hkeep _ hdirectory⟩

/-- A directory that has been made is there. -/
theorem isDirectory_of_makeDirectory (h : fs.makeDirectory here p = .ok fs') :
    fs'.isDirectory here p = true := by
  have hreaches := reaches_of_makeDirectory h
  have hkeeps := keeps_makeDirectory h
  obtain ⟨d, name, htarget, hshort, _, rfl⟩ := makeDirectory_eq_ok_iff.mp h
  have hplace := target_eq_resolve htarget
  obtain ⟨hpath, hdot, hdots, names, hsteps, hwalk, hd⟩ := target_eq_place_iff.mp htarget
  have hthere := hreaches _ (onTheWay_resolve here p)
  refine isDirectory_eq_true_iff.mpr ⟨hpath, ?_, hthere⟩
  rw [hsteps]
  refine walk_append_eq_ok_iff.mpr ⟨d, walk_of_keeps hkeeps.directory hwalk hd, ?_⟩
  refine walk_cons_eq_ok_iff.mpr ⟨_, step_eq_ok_iff.mpr ⟨hkeeps.directory d hd, ?_, ?_⟩, rfl⟩
  · rw [follow_name hdot hdots, hplace]
  · exact Or.inr (Or.inr ⟨hshort, by rw [hthere]; rfl⟩)

/-- The steps before the last one lead to the directory in which something is made. -/
theorem target_concat {name : String} (hpath : checkPath p = .ok ())
    (hsteps : p.steps = names ++ [name]) :
    fs.target here p = (do
      let d ← fs.walk (start here p) names
      fs.checkDirectory d
      return if name = "." ∨ name = ".." then .existing else .place d name) := by
  unfold target
  rw [hpath, hsteps, List.getLast?_concat, List.dropLast_concat]
  change (fs.walk (start here p) names >>= _) = _
  congr
  funext d
  congr
  funext _
  by_cases hdot : name = "." ∨ name = ".."
  · rw [if_pos hdot, if_pos (by simpa using hdot)]
  · rw [if_neg hdot, if_neg (by simpa using hdot)]

/-- Where a path can be followed to its end, nothing is made. -/
theorem makeDirectory_of_walk (hpath : checkPath p = .ok ())
    (hwalk : fs.walk (start here p) p.steps = .ok m) :
    fs.makeDirectory here p = .error .alreadyThere := by
  rcases List.eq_nil_or_concat p.steps with hsteps | ⟨names, name, hsteps⟩
  · have htarget : fs.target here p = .ok .existing := by
      unfold target
      rw [hpath, hsteps]
      rfl
    rw [makeDirectory, htarget]
    rfl
  · rw [List.concat_eq_append] at hsteps
    rw [hsteps] at hwalk
    obtain ⟨d, hinit, hlast⟩ := walk_append_eq_ok_iff.mp hwalk
    obtain ⟨_, hstep, hend⟩ := walk_cons_eq_ok_iff.mp hlast
    cases hend
    obtain ⟨hd, rfl, hreach⟩ := step_eq_ok_iff.mp hstep
    rw [makeDirectory, target_concat hpath hsteps, hinit]
    change (fs.checkDirectory d >>= _) >>= _ = _
    rw [checkDirectory_eq_ok_iff.mpr hd]
    by_cases hdots : name = "." ∨ name = ".."
    · simp only [if_pos hdots]
      rfl
    · obtain ⟨hdot, hdots'⟩ := not_or.mp hdots
      obtain ⟨hshort, hthere⟩ := (hreach.resolve_left hdot).resolve_left hdots'
      have hchild : child d name = .ok (d ++ [name]) := child_eq_ok_iff.mpr ⟨hshort, rfl⟩
      rw [follow_name hdot hdots'] at hthere
      simp only [if_neg hdots]
      change (child d name >>= _) = _
      rw [hchild]
      exact if_pos hthere

/-- A directory that is there is not made again. -/
theorem makeDirectory_of_isDirectory (h : fs.isDirectory here p = true) :
    fs.makeDirectory here p = .error .alreadyThere := by
  obtain ⟨hpath, hwalk, _⟩ := isDirectory_eq_true_iff.mp h
  exact makeDirectory_of_walk hpath hwalk

/-! ### A clear way -/

/-- Nothing but a directory stands at a location. -/
def IsClear (fs : FileSystem) (l : Location) : Prop :=
  fs.get? l = none ∨ fs.get? l = some .directory

/-- A name that can be followed as far as its length goes. -/
def IsShort (name : String) : Prop := name = "." ∨ name = ".." ∨ name.utf8ByteSize ≤ nameLimit

theorem isShort_of_walk (h : fs.walk l names = .ok m) : ∀ name ∈ names, IsShort name := by
  induction names generalizing l with
  | nil => exact List.forall_mem_nil _
  | cons name names ih =>
    obtain ⟨k, hstep, hwalk⟩ := walk_cons_eq_ok_iff.mp h
    obtain ⟨_, _, hreach⟩ := step_eq_ok_iff.mp hstep
    refine List.forall_mem_cons.mpr ⟨?_, ih hwalk⟩
    exact hreach.imp_right (Or.imp_right And.left)

/-- A step on a clear way can be taken, or nothing is found. -/
theorem step_of_clear {name : String} (hname : IsShort name) (hl : fs.IsClear l) :
    fs.step l name = .ok (follow l name) ∨ fs.step l name = .error .noEntry := by
  rcases hl with hnone | hd
  · right
    unfold step checkDirectory
    rw [hnone]
    rfl
  · by_cases hreach : name = "." ∨ name = ".." ∨
        name.utf8ByteSize ≤ nameLimit ∧ (fs.get? (follow l name)).isSome = true
    · exact Or.inl (step_eq_ok_iff.mpr ⟨hd, rfl, hreach⟩)
    · right
      simp only [not_or, not_and] at hreach
      obtain ⟨hdot, hdots, hthere⟩ := hreach
      have hshort := (hname.resolve_left hdot).resolve_left hdots
      have hchild : child l name = .ok (l ++ [name]) := child_eq_ok_iff.mpr ⟨hshort, rfl⟩
      unfold step
      rw [checkDirectory_eq_ok_iff.mpr hd]
      change (if name = "." then _ else _) = _
      rw [if_neg hdot]
      rw [if_neg hdots, hchild]
      rw [follow_name hdot hdots] at hthere
      exact if_neg (hthere hshort)

/-- So it is for all steps of the way. -/
theorem walk_of_clear (hnames : ∀ name ∈ names, IsShort name)
    (hclear : ∀ first, first <+: names → fs.IsClear (first.foldl follow l)) :
    fs.walk l names = .ok (names.foldl follow l) ∨ fs.walk l names = .error .noEntry := by
  induction names generalizing l with
  | nil => exact Or.inl rfl
  | cons name names ih =>
    obtain ⟨hname, hnames⟩ := List.forall_mem_cons.mp hnames
    have hl : fs.IsClear l := hclear [] List.nil_prefix
    rw [walk]
    rcases step_of_clear hname hl with hstep | hstep
    · rw [hstep]
      exact ih hnames fun first hfirst =>
        hclear (name :: first) (List.cons_prefix_cons.mpr ⟨rfl, hfirst⟩)
    · rw [hstep]
      exact Or.inr rfl

/-- On a clear way a directory is made, or one before it is missing, or the path can be followed
to its end already. -/
theorem makeDirectory_of_clear (hpath : checkPath p = .ok ())
    (hnames : ∀ name ∈ p.steps, IsShort name)
    (hclear : ∀ k, OnTheWay here p k → fs.IsClear k) :
    (∃ fs', fs.makeDirectory here p = .ok fs') ∨ fs.makeDirectory here p = .error .noEntry ∨
      fs.walk (start here p) p.steps = .ok (resolve here p) := by
  rcases List.eq_nil_or_concat p.steps with hsteps | ⟨names, name, hsteps⟩
  · rw [resolve, hsteps]
    exact Or.inr (Or.inr rfl)
  rw [List.concat_eq_append] at hsteps
  let d := names.foldl follow (start here p)
  have hprefix : ∀ first, first <+: names → first <+: p.steps :=
    fun first hfirst => hsteps ▸ hfirst.trans (List.prefix_append _ _)
  have hfault : ∀ fault, fs.target here p = .error fault →
      fs.makeDirectory here p = .error fault := by
    intro fault htarget
    rw [makeDirectory, htarget]
    rfl
  have hinit : fs.walk (start here p) names = .ok d ∨ _ := walk_of_clear
    (fun x hx => hnames x (hsteps ▸ List.mem_append_left _ hx))
    (fun first hfirst => hclear _ ⟨first, hprefix first hfirst, rfl⟩)
  have hd : fs.IsClear d := hclear d ⟨names, hprefix names List.prefix_rfl, rfl⟩
  rcases hinit with hinit | hinit
  case inr =>
    refine Or.inr (Or.inl (hfault _ ?_))
    rw [target_concat hpath hsteps, hinit]
    rfl
  rcases hd with hnone | hd
  case inl =>
    refine Or.inr (Or.inl (hfault _ ?_))
    rw [target_concat hpath hsteps, hinit]
    change (fs.checkDirectory d >>= _) = _
    rw [checkDirectory, hnone]
    rfl
  -- Only the last step is left. It can be taken unless it is a name under which nothing stands.
  by_cases hreach : name = "." ∨ name = ".." ∨
      name.utf8ByteSize ≤ nameLimit ∧ (fs.get? (follow d name)).isSome = true
  · refine Or.inr (Or.inr ?_)
    rw [resolve, hsteps, List.foldl_append]
    refine walk_append_eq_ok_iff.mpr ⟨d, hinit, walk_cons_eq_ok_iff.mpr ⟨follow d name, ?_, rfl⟩⟩
    exact step_eq_ok_iff.mpr ⟨hd, rfl, hreach⟩
  · simp only [not_or, not_and] at hreach
    obtain ⟨hdot, hdots, hthere⟩ := hreach
    have hname : IsShort name := hnames name (hsteps ▸ List.mem_append_right _ List.mem_cons_self)
    have hshort := (hname.resolve_left hdot).resolve_left hdots
    have hnothing : fs.get? (d ++ [name]) = none := by
      have hnot := hthere hshort
      rwa [follow_name hdot hdots, Bool.not_eq_true, Option.isSome_eq_false_iff,
        Option.isNone_iff_eq_none] at hnot
    have htarget : fs.target here p = .ok (.place d name) :=
      target_eq_place_iff.mpr ⟨hpath, hdot, hdots, names, hsteps, hinit, hd⟩
    exact Or.inl ⟨_, makeDirectory_eq_ok_iff.mpr ⟨d, name, htarget, hshort, hnothing, rfl⟩⟩

/-- On the way of a path that can be followed to its end there are directories, but for the end. -/
theorem directory_of_walk_moves (h : fs.walk l names = .ok m)
    (hfirst : first <+: names.filter (· ≠ ".")) (hne : first ≠ names.filter (· ≠ ".")) :
    fs.get? (first.foldl follow l) = some .directory := by
  induction names generalizing l first with
  | nil => exact absurd (List.prefix_nil.mp hfirst) hne
  | cons name names ih =>
    obtain ⟨k, hstep, hwalk⟩ := walk_cons_eq_ok_iff.mp h
    obtain ⟨hl, rfl, _⟩ := step_eq_ok_iff.mp hstep
    by_cases hdot : name = "."
    · rw [List.filter_cons_of_neg (by simp [hdot])] at hfirst hne
      rw [follow, if_pos hdot] at hwalk
      exact ih hwalk hfirst hne
    · rw [List.filter_cons_of_pos (by simp [hdot])] at hfirst hne
      cases first with
      | nil => exact hl
      | cons x first =>
        obtain ⟨rfl, hrest⟩ := List.cons_prefix_cons.mp hfirst
        rw [List.foldl_cons]
        exact ih hwalk hrest fun heq => hne (congrArg (x :: ·) heq)

/-- A name leads to something that is there. -/
theorem isSome_of_walk {name : String} (hdot : name ≠ ".") (hdots : name ≠ "..")
    (h : fs.walk l (names ++ [name]) = .ok m) : (fs.get? m).isSome = true := by
  obtain ⟨_, _, hlast⟩ := walk_append_eq_ok_iff.mp h
  obtain ⟨_, hstep, hend⟩ := walk_cons_eq_ok_iff.mp hlast
  cases hend
  obtain ⟨_, _, hreach⟩ := step_eq_ok_iff.mp hstep
  exact ((hreach.resolve_left hdot).resolve_left hdots).2

/-- A directory that could be made can be made where there are more directories, or is there. -/
theorem makeDirectory_of_keeps {made : FileSystem} (h : fs.makeDirectory here p = .ok made)
    (hkeep : ∀ k, fs.get? k = some .directory → fs'.get? k = some .directory)
    (hclear : fs'.IsClear (resolve here p)) :
    (∃ made', fs'.makeDirectory here p = .ok made') ∨ fs'.isDirectory here p = true := by
  obtain ⟨d, name, htarget, hshort, _, _⟩ := makeDirectory_eq_ok_iff.mp h
  have hplace := target_eq_resolve htarget
  obtain ⟨hpath, hdot, hdots, names, hsteps, hwalk, hd⟩ := target_eq_place_iff.mp htarget
  have hwalk' := walk_of_keeps hkeep hwalk hd
  rw [← hplace] at hclear
  rcases hclear with hnothing | hthere
  · have htarget' : fs'.target here p = .ok (.place d name) :=
      target_eq_place_iff.mpr ⟨hpath, hdot, hdots, names, hsteps, hwalk', hkeep d hd⟩
    exact Or.inl ⟨_, makeDirectory_eq_ok_iff.mpr ⟨d, name, htarget', hshort, hnothing, rfl⟩⟩
  · refine Or.inr (isDirectory_eq_true_iff.mpr ⟨hpath, ?_, hplace ▸ hthere⟩)
    rw [hsteps, ← hplace]
    refine walk_append_eq_ok_iff.mpr ⟨d, hwalk', walk_cons_eq_ok_iff.mpr ⟨_, ?_, rfl⟩⟩
    refine step_eq_ok_iff.mpr ⟨hkeep d hd, (follow_name hdot hdots).symm, Or.inr (Or.inr ?_)⟩
    exact ⟨hshort, by rw [hthere]; rfl⟩

/-- A path leads where its moves lead. -/
theorem resolve_eq_moves (here : Location) (p : Path) :
    resolve here p = p.moves.foldl follow (start here p) :=
  (foldl_follow_moves p.steps _).symm

end FileSystem

namespace Path

/-- Every path that a path lies in has the first of its moves, without the last one. -/
theorem moves_of_mem_parents {p q r : Path} {n : Nat} (hq : p.parent? = some q)
    (hr : r ∈ chain.go n q) : r.isAbsolute = p.isAbsolute ∧ r.moves <+: p.moves.dropLast := by
  induction n generalizing p q with
  | zero => exact absurd hr List.not_mem_nil
  | succ n ih =>
    obtain ⟨habs, hmoves⟩ := moves_parent hq
    rw [chain.go] at hr
    cases hparent : q.parent? with
    | none =>
      rw [hparent] at hr
      exact absurd hr List.not_mem_nil
    | some q' =>
      rw [hparent] at hr
      rw [← habs, ← hmoves]
      rcases List.mem_cons.mp hr with rfl | hr
      · exact ⟨rfl, List.prefix_rfl⟩
      · obtain ⟨habs', hmoves'⟩ := ih hparent hr
        exact ⟨habs', hmoves'.trans (List.dropLast_prefix _)⟩

end Path

namespace Session

variable {places places' : Location → Prop} {s s' t u u' : Session} {p : Path} {x : Unit}

/-! ### Further ahead -/

/-- In `u` there are at least the directories of `s`, and nothing but directories stands at the
given places. -/
structure Ahead (places : Location → Prop) (s u : Session) : Prop where
  here : u.here = s.here
  directory : ∀ k, s.files.get? k = some .directory → u.files.get? k = some .directory
  clear : ∀ k, places k → u.files.IsClear k

theorem run_makeDirectory (p : Path) (s : Session) :
    host.makeDirectory p s = s.settle (s.files.makeDirectory s.here p) := rfl

/-- Making directories goes on in the same way after a directory that is missing. -/
theorem run_makeChain_cons (p : Path) (parents : List Path) (s : Session) :
    host.makeChain (p :: parents) s =
      match s.files.makeDirectory s.here p with
      | .ok files => (.ok (), { s with files })
      | .error fault =>
        if fault = .noEntry then
          match host.makeChain parents s with
          | (.error fault, s₁) => (.error fault, s₁)
          | (.ok (), s₁) =>
            match s₁.files.makeDirectory s₁.here p with
            | .ok files => (.ok (), { s₁ with files })
            | .error fault => host.excuse p fault s₁
        else host.excuse p fault s := by
  rw [Host.makeChain, run_bind, run_makeDirectory]
  cases s.files.makeDirectory s.here p with
  | ok files => rfl
  | error fault =>
    simp only [settle]
    split
    · rw [run_bind]
      cases host.makeChain parents s with
      | mk above s₁ =>
        cases above with
        | error fault => rfl
        | ok x =>
          dsimp only
          rw [run_bind, run_makeDirectory]
          cases s₁.files.makeDirectory s₁.here p with
          | ok files => rfl
          | error fault => rfl
    · rfl

theorem excuse_of_isDirectory (h : s.files.isDirectory s.here p = true) :
    host.excuse p .alreadyThere s = (.ok (), s) := by
  have hlook : host.isDirectory p s = (true, s) := congrArg (·, s) h
  rw [Host.excuse, if_pos rfl, run_bind, hlook]
  rfl

/-- Only a directory that is there is excused. -/
theorem isDirectory_of_excuse {fault : Fault} (h : host.excuse p fault s = (.ok x, t)) :
    fault = .alreadyThere ∧ t = s ∧ s.files.isDirectory s.here p = true := by
  unfold Host.excuse at h
  split at h
  · next hfault =>
    rw [run_bind] at h
    split at h
    · next hdirectory =>
      cases h
      exact ⟨hfault, rfl, hdirectory⟩
    · cases h
  · cases h

/-- What comes of making the first directory of a chain: it is made, or it is made after those that
it lies in, or it is there. -/
theorem makeChain_cons {parents : List Path} (h : host.makeChain (p :: parents) s = (.ok x, t)) :
    (∃ files, s.files.makeDirectory s.here p = .ok files ∧ t = { s with files }) ∨
      s.files.isDirectory s.here p = true ∧ t = s ∨
      s.files.makeDirectory s.here p = .error .noEntry ∧
        ∃ s₁, host.makeChain parents s = (.ok (), s₁) ∧
          ((∃ files, s₁.files.makeDirectory s₁.here p = .ok files ∧ t = { s₁ with files }) ∨
            s₁.files.isDirectory s₁.here p = true ∧ t = s₁) := by
  rw [run_makeChain_cons] at h
  split at h
  · next files hmade =>
    cases h
    exact Or.inl ⟨files, hmade, rfl⟩
  · next fault hmade =>
    split at h
    · next hfault =>
      subst hfault
      split at h
      · cases h
      · next s₁ habove =>
        refine Or.inr (Or.inr ⟨hmade, s₁, habove, ?_⟩)
        split at h
        · next files hagain =>
          cases h
          exact Or.inl ⟨files, hagain, rfl⟩
        · obtain ⟨_, rfl, hthere⟩ := isDirectory_of_excuse h
          exact Or.inr ⟨hthere, rfl⟩
    · obtain ⟨_, rfl, hthere⟩ := isDirectory_of_excuse h
      exact Or.inr (Or.inl ⟨hthere, rfl⟩)

/-- The first directory of a chain that has been made is there. -/
theorem isDirectory_of_makeChain {parents : List Path}
    (h : host.makeChain (p :: parents) s = (.ok x, t)) : t.files.isDirectory t.here p = true := by
  rcases makeChain_cons h with ⟨files, hmade, rfl⟩ | ⟨hthere, rfl⟩ |
    ⟨_, s₁, _, ⟨files, hmade, rfl⟩ | ⟨hthere, rfl⟩⟩
  · exact FileSystem.isDirectory_of_makeDirectory hmade
  · exact hthere
  · exact FileSystem.isDirectory_of_makeDirectory hmade
  · exact hthere

/-- Only the directories of a chain are made. -/
theorem grows_makeChain (chain : List Path) (s : Session) :
    Grows (fun here l => ∃ p ∈ chain, l = FileSystem.resolve here p) s
      (host.makeChain chain s).2 := by
  let sites (here l : Location) : Prop := ∃ p ∈ chain, l = FileSystem.resolve here p
  have hmake : ∀ p ∈ chain, Respects (Grows sites) (host.makeDirectory p) :=
    fun p hp => respects_makeDirectory fun here => ⟨p, hp, rfl⟩
  exact (compositional_respects (R := Grows sites) .refl .trans).makeChain (fun _ _ s => .refl s)
    hmake s

theorem Grows.directory {sites : Location → Location → Prop} (h : Grows sites s t) {k : Location}
    (hk : s.files.get? k = some .directory) : t.files.get? k = some .directory := by
  rcases h.files k with hsame | ⟨hnone, _, _⟩
  · rw [hsame, hk]
  · rw [hnone] at hk
    cases hk

/-- One stays ahead as long as one makes the same directories. -/
theorem Ahead.of_grows {sites sites' : Location → Location → Prop} (h : Ahead places s u)
    (hs : Grows sites s t) (hu : Grows sites' u u')
    (hmade : ∀ l, sites s.here l → u'.files.get? l = some .directory) : Ahead places t u' := by
  constructor
  · rw [hu.here, hs.here, h.here]
  · intro k hk
    rcases hs.files k with hsame | ⟨_, _, hsite⟩
    · exact hu.directory (h.directory k (hsame ▸ hk))
    · exact hmade k hsite
  · intro k hk
    rcases hu.files k with hsame | ⟨_, hnew, _⟩
    · rw [FileSystem.IsClear, hsame]
      exact h.clear k hk
    · exact Or.inr hnew

theorem ahead_of_makeChain {parents : List Path} (h : Ahead places s u)
    (hs : host.makeChain (p :: parents) s = (.ok x, t))
    (hu : host.makeChain (p :: parents) u = (.ok x, u'))
    (hway : ∀ r ∈ p :: parents, FileSystem.OnTheWay s.here p (FileSystem.resolve s.here r)) :
    Ahead places t u' := by
  have hgrows := grows_makeChain (p :: parents) s
  have hgrows' := grows_makeChain (p :: parents) u
  rw [hs] at hgrows
  rw [hu] at hgrows'
  refine h.of_grows hgrows hgrows' ?_
  rintro l ⟨r, hr, rfl⟩
  refine reaches_of_makeChain hu _ ?_
  rw [hgrows'.here, h.here]
  exact hway r hr

/-- A path whose end is missing although it can be followed there: it leads back to a place that is
on the way of a path that it lies in. -/
theorem not_missing {q : Path} {n : Nat} {s₁ : Session} (hq : p.parent? = some q)
    (hmade : host.makeChain (Path.chain.go n q) s = (.ok x, s₁))
    (hthere : s₁.files.get? (FileSystem.resolve s.here p) = some .directory)
    (hbefore : s.files.get? (FileSystem.resolve s.here p) ≠ some .directory)
    {fs : FileSystem} (hsteps : p.steps ≠ []) {m : Location}
    (hwalk : fs.walk (FileSystem.start s.here p) p.steps = .ok m) :
    fs.get? (FileSystem.resolve s.here p) = some .directory := by
  have hgrows := grows_makeChain (Path.chain.go n q) s
  rw [hmade] at hgrows
  rcases hgrows.files (FileSystem.resolve s.here p) with hsame | ⟨_, _, r, hr, hplace⟩
  · exact absurd (hsame ▸ hthere) hbefore
  obtain ⟨habs, hmoves⟩ := Path.moves_of_mem_parents hq hr
  have hresolve : FileSystem.resolve s.here r =
      r.moves.foldl FileSystem.follow (FileSystem.start s.here p) := by
    rw [FileSystem.resolve_eq_moves, FileSystem.start, habs, ← FileSystem.start]
  rw [hplace, hresolve]
  by_cases hstill : r.moves = p.moves
  · -- Then there are no moves at all, and the first step is taken from there.
    have hnil : p.moves = [] := by
      have hlength := (hstill ▸ hmoves).length_le
      rw [List.length_dropLast] at hlength
      exact List.length_eq_zero_iff.mp (by omega)
    rw [hstill, hnil]
    cases hcons : p.steps with
    | nil => exact absurd hcons hsteps
    | cons first rest =>
      rw [hcons] at hwalk
      obtain ⟨_, hstep, _⟩ := FileSystem.walk_cons_eq_ok_iff.mp hwalk
      exact (FileSystem.step_eq_ok_iff.mp hstep).1
  · exact FileSystem.directory_of_walk_moves hwalk (hmoves.trans (List.dropLast_prefix _)) hstill

/-- The paths that a path lies in lead to places on its way. -/
theorem onTheWay_of_mem_parents {q r : Path} {n : Nat} (hq : p.parent? = some q)
    (hr : r ∈ p :: Path.chain.go n q) (here : Location) :
    FileSystem.OnTheWay here p (FileSystem.resolve here r) := by
  rcases List.mem_cons.mp hr with rfl | hr
  · exact FileSystem.onTheWay_resolve here r
  · obtain ⟨habs, hmoves⟩ := Path.moves_of_mem_parents hq hr
    refine FileSystem.onTheWay_iff_moves.mpr
      ⟨r.moves, hmoves.trans (List.dropLast_prefix _), ?_⟩
    rw [FileSystem.resolve_eq_moves, FileSystem.start, FileSystem.start, habs]

/-- The directory can be made, or it is there. -/
def CanMake (s : Session) (p : Path) : Prop :=
  (∃ files, s.files.makeDirectory s.here p = .ok files) ∨ s.files.isDirectory s.here p = true

theorem Ahead.canMake (h : Ahead places s u) (hclear : places (FileSystem.resolve s.here p))
    (hs : s.CanMake p) : u.CanMake p := by
  rw [CanMake, h.here]
  rcases hs with ⟨files, hmade⟩ | hthere
  · exact FileSystem.makeDirectory_of_keeps hmade h.directory (h.clear _ hclear)
  · exact Or.inr (FileSystem.isDirectory_of_keeps h.directory hthere)

theorem CanMake.exists_makeChain (h : u.CanMake p) (parents : List Path) :
    ∃ u', host.makeChain (p :: parents) u = (.ok (), u') := by
  rw [run_makeChain_cons]
  rcases h with ⟨files, hmade⟩ | hthere
  · rw [hmade]
    exact ⟨_, rfl⟩
  · rw [FileSystem.makeDirectory_of_isDirectory hthere]
    exact ⟨u, excuse_of_isDirectory hthere⟩

theorem CanMake.exists_makeChain_after {parents : List Path} {u₁ : Session} (h : u₁.CanMake p)
    (hmissing : u.files.makeDirectory u.here p = .error .noEntry)
    (hparents : host.makeChain parents u = (.ok x, u₁)) :
    ∃ u', host.makeChain (p :: parents) u = (.ok (), u') := by
  rw [run_makeChain_cons, hmissing]
  dsimp only
  rw [if_pos rfl, hparents]
  dsimp only
  rcases h with ⟨files, hmade⟩ | hthere
  · rw [hmade]
    exact ⟨_, rfl⟩
  · rw [FileSystem.makeDirectory_of_isDirectory hthere]
    exact ⟨u₁, excuse_of_isDirectory hthere⟩

/-- The directories of a chain that could be made can be made further ahead. -/
theorem exists_makeChain {n : Nat} (h : host.makeChain (Path.chain.go n p) s = (.ok x, t))
    (hahead : Ahead places s u) (hway : ∀ l, FileSystem.OnTheWay s.here p l → places l) :
    ∃ u', host.makeChain (Path.chain.go n p) u = (.ok (), u') ∧ Ahead places t u' := by
  induction n generalizing p x t with
  | zero =>
    cases h
    exact ⟨u, rfl, hahead⟩
  | succ n ih =>
    rw [Path.chain.go] at h ⊢
    cases hparent : p.parent? with
    | none =>
      rw [hparent] at h
      cases h
      exact ⟨u, rfl, hahead⟩
    | some q =>
      rw [hparent] at h
      dsimp only at h ⊢
      suffices hmade : ∃ u', host.makeChain (p :: Path.chain.go n q) u = (.ok (), u') by
        obtain ⟨u', hu'⟩ := hmade
        exact ⟨u', hu', ahead_of_makeChain hahead h hu' fun r hr =>
          onTheWay_of_mem_parents hparent hr s.here⟩
      have hend := hway _ (FileSystem.onTheWay_resolve s.here p)
      have hgrows := grows_makeChain (p :: Path.chain.go n q) s
      rw [h] at hgrows
      have hthere := isDirectory_of_makeChain h
      rw [hgrows.here] at hthere
      obtain ⟨hpath, hwalk, -⟩ := FileSystem.isDirectory_eq_true_iff.mp hthere
      rcases makeChain_cons h with
        ⟨files, hmade, rfl⟩ | ⟨hthere', rfl⟩ | ⟨hmissing, s₁, habove, hs₁⟩
      · exact (hahead.canMake hend (Or.inl ⟨files, hmade⟩)).exists_makeChain _
      · exact (hahead.canMake hend (Or.inr hthere')).exists_makeChain _
      · have hclear : ∀ k, FileSystem.OnTheWay s.here p k → u.files.IsClear k :=
          fun k hk => hahead.clear k (hway k hk)
        rcases FileSystem.makeDirectory_of_clear hpath (FileSystem.isShort_of_walk hwalk) hclear
          with ⟨files, hmade⟩ | hmissing' | hwalk'
        · exact CanMake.exists_makeChain (Or.inl ⟨files, hahead.here ▸ hmade⟩) _
        · -- It is missing here as well, so those it lies in are made first.
          obtain ⟨u₁, hu₁, hahead₁⟩ := ih habove fun l hl =>
            hway l (FileSystem.onTheWay_of_parent hparent hl)
          have hgrows₁ := grows_makeChain (Path.chain.go n q) s
          rw [habove] at hgrows₁
          have hcan : u₁.CanMake p := by
            refine hahead₁.canMake (hgrows₁.here ▸ hend) ?_
            rcases hs₁ with ⟨files, hmade, -⟩ | ⟨hthere', -⟩
            · exact Or.inl ⟨files, hmade⟩
            · exact Or.inr hthere'
          exact hcan.exists_makeChain_after (hahead.here ▸ hmissing') hu₁
        · -- It can be followed to its end, so the end is there.
          refine CanMake.exists_makeChain (Or.inr ?_) _
          rw [hahead.here]
          refine FileSystem.isDirectory_eq_true_iff.mpr ⟨hpath, hwalk', ?_⟩
          refine (hahead.clear _ hend).resolve_left fun hnone => ?_
          have hsteps : p.steps ≠ [] := by
            intro hnil
            have hstay : s.files.walk (FileSystem.start s.here p) p.steps =
                .ok (FileSystem.start s.here p) := by
              rw [hnil]
              rfl
            rw [FileSystem.makeDirectory_of_walk hpath hstay] at hmissing
            cases hmissing
          rcases hs₁ with ⟨files, hmade, -⟩ | ⟨hthere', -⟩
          · obtain ⟨d, name, htarget, -⟩ := FileSystem.makeDirectory_eq_ok_iff.mp hmade
            obtain ⟨-, hdot, hdots, names, hnames, -⟩ := FileSystem.target_eq_place_iff.mp htarget
            rw [hnames] at hwalk'
            have hsome := FileSystem.isSome_of_walk hdot hdots hwalk'
            rw [hnone] at hsome
            cases hsome
          · have hgrows₁ := grows_makeChain (Path.chain.go n q) s
            rw [habove] at hgrows₁
            rw [hgrows₁.here] at hthere'
            have hbefore : s.files.get? (FileSystem.resolve s.here p) ≠ some .directory := by
              intro hs
              rw [hahead.directory _ hs] at hnone
              cases hnone
            have hpast := not_missing hparent habove
              (FileSystem.isDirectory_eq_true_iff.mp hthere').2.2 hbefore hsteps hwalk'
            rw [hnone] at hpast
            cases hpast

/-! ### Folders -/

/-- Folders that have been made are there. -/
theorem isDirectory_of_makeFolders {root : Path} {folders : List Folder}
    (h : Sink.makeFolders host root folders s = (.ok x, t)) :
    ∀ f ∈ folders, t.files.isDirectory t.here (f.under root) = true := by
  induction folders generalizing s with
  | nil => exact List.forall_mem_nil _
  | cons f folders ih =>
    rw [Sink.makeFolders, run_bind] at h
    cases hmade : host.makeDirectories (f.under root) s with
    | mk result s₁ =>
      rw [hmade] at h
      cases result with
      | error fault => cases h
      | ok y =>
        refine List.forall_mem_cons.mpr ⟨?_, ih h⟩
        obtain ⟨_, hparent⟩ := Path.exists_parent_join_name f.isName root
        obtain ⟨parents, hchain⟩ := Path.exists_chain_eq_cons hparent
        unfold Host.makeDirectories Folder.under at hmade
        rw [hchain] at hmade
        have hfirst := isDirectory_of_makeChain hmade
        -- The folders that are made after it take no directory away.
        have hrest := steady_makeFolders root folders s₁
        change Sink.makeFolders host root folders s₁ = _ at h
        rw [h] at hrest
        rw [hrest.here]
        exact FileSystem.isDirectory_of_keeps hrest.files.directory hfirst

/-- Folders that could be made can be made further ahead. -/
theorem exists_makeFolders {root : Path} {folders : List Folder}
    (h : Sink.makeFolders host root folders s = (.ok x, t)) (hahead : Ahead places s u)
    (hway : ∀ f ∈ folders, ∀ l, FileSystem.OnTheWay s.here (f.under root) l → places l) :
    ∃ u', Sink.makeFolders host root folders u = (.ok (), u') ∧ Ahead places t u' := by
  induction folders generalizing s u with
  | nil =>
    cases h
    exact ⟨u, rfl, hahead⟩
  | cons f folders ih =>
    obtain ⟨hf, hfolders⟩ := List.forall_mem_cons.mp hway
    rw [Sink.makeFolders, run_bind] at h
    cases hmade : host.makeDirectories (f.under root) s with
    | mk result s₁ =>
      rw [hmade] at h
      cases result with
      | error fault => cases h
      | ok y =>
        obtain ⟨u₁, hu₁, hahead₁⟩ := exists_makeChain hmade hahead hf
        have hgrows := grows_makeChain (f.under root).chain s
        change Grows _ s (host.makeDirectories (f.under root) s).2 at hgrows
        rw [hmade] at hgrows
        obtain ⟨u', hu', hahead'⟩ := ih h hahead₁ (hgrows.here ▸ hfolders)
        refine ⟨u', ?_, hahead'⟩
        have hdirs : host.makeDirectories (f.under root) u = (.ok (), u₁) := hu₁
        rw [Sink.makeFolders, run_bind, hdirs]
        exact hu'

end Session

end Scaffold
