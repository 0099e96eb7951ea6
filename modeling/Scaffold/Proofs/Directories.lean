import Scaffold.Proofs.Ancestors
import Scaffold.Proofs.Confinement

/-!
# Making directories

To make a directory together with those it lies in adds directories at places on its way where
nothing stood, and does nothing else, however far it gets. When it succeeds, every place on the way
is a directory.

* `Grows`: a file system with some more directories in it; every step of the making of directories
  is of this sort (`grows_makeDirectory`), and so is the whole (`grows_makeFolders`).
* `Reaches`: every place on the way of a path is a directory.
* `folders_of_makeFolders`: so it is for every folder, once all have been made.
-/

namespace Scaffold

namespace Path

/-! ### The chain of a path -/

/-- A path that has a parent is the first one of its chain. -/
theorem exists_chain_eq_cons {p q : Path} (h : p.parent? = some q) :
    ∃ parents, p.chain = p :: parents := by
  obtain ⟨_, hne, _⟩ := parent?_eq_some h
  unfold chain
  cases hcomponents : p.components with
  | nil => exact absurd hcomponents hne
  | cons c cs =>
    rw [List.length_cons, chain.go, h]
    exact ⟨_, rfl⟩

theorem exists_parent_join_name {s : String} (hs : IsName s) (p : Path) :
    ∃ q, (p.join ⟨s⟩).parent? = some q := by
  unfold parent?
  rw [components_join_name hs, List.getLast?_concat]
  exact ⟨_, rfl⟩

end Path

namespace FileSystem

variable {fs fs' fs'' : FileSystem} {here l m : Location} {p : Path} {places : Location → Prop}

/-! ### More directories -/

/-- In `fs'` there may be directories at the given places where nothing stands in `fs`, and that
is the only difference. -/
def Grows (places : Location → Prop) (fs fs' : FileSystem) : Prop :=
  ∀ k, fs'.get? k = fs.get? k ∨ fs.get? k = none ∧ fs'.get? k = some .directory ∧ places k

theorem Grows.refl (fs : FileSystem) : Grows places fs fs := fun _ => Or.inl rfl

theorem Grows.trans (h : Grows places fs fs') (h' : Grows places fs' fs'') :
    Grows places fs fs'' := by
  intro k
  rcases h k with hsame | ⟨hnone, hnew, hplace⟩
  · rw [← hsame]
    exact h' k
  · rcases h' k with hsame' | ⟨hnone', _, _⟩
    · exact Or.inr ⟨hnone, hsame'.trans hnew, hplace⟩
    · rw [hnew] at hnone'
      cases hnone'

theorem Grows.mono {places' : Location → Prop} (h : Grows places fs fs')
    (hplaces : ∀ k, places k → places' k) : Grows places' fs fs' := by
  intro k
  exact (h k).imp_right fun ⟨hnone, hnew, hplace⟩ => ⟨hnone, hnew, hplaces k hplace⟩

theorem grows_makeDirectory (hp : places (resolve here p))
    (h : fs.makeDirectory here p = .ok fs') : Grows places fs fs' := by
  obtain ⟨d, name, htarget, _, hnothing, rfl⟩ := makeDirectory_eq_ok_iff.mp h
  rw [← target_eq_resolve htarget] at hp
  intro k
  rw [get?_put k (List.concat_ne_nil name d)]
  by_cases hk : k = d ++ [name]
  · subst hk
    exact Or.inr ⟨hnothing, if_pos rfl, hp⟩
  · exact Or.inl (if_neg hk)

/-! ### Directories within reach -/

/-- Every place on the way of a path is a directory. -/
def Reaches (fs : FileSystem) (here : Location) (p : Path) : Prop :=
  ∀ l, OnTheWay here p l → fs.get? l = some .directory

theorem Reaches.of_keeps {free : Location → Prop} (h : Reaches fs here p)
    (hkeeps : Keeps free fs fs') : Reaches fs' here p :=
  fun l hl => hkeeps.directory l (h l hl)

/-- A walk to a directory leads through directories. -/
theorem directory_of_walk {names first : List String} (h : fs.walk l names = .ok m)
    (hm : fs.get? m = some .directory) (hfirst : first <+: names) :
    fs.get? (first.foldl follow l) = some .directory := by
  obtain ⟨rest, rfl⟩ := hfirst
  obtain ⟨k, hwalk, hrest⟩ := walk_append_eq_ok_iff.mp h
  rw [← walk_eq_foldl hwalk]
  cases rest with
  | nil =>
    cases hrest
    exact hm
  | cons name rest =>
    obtain ⟨_, hstep, _⟩ := walk_cons_eq_ok_iff.mp hrest
    exact (step_eq_ok_iff.mp hstep).1

theorem reaches_of_makeDirectory (h : fs.makeDirectory here p = .ok fs') :
    Reaches fs' here p := by
  have hkeeps := keeps_makeDirectory h
  obtain ⟨d, name, htarget, _, _, rfl⟩ := makeDirectory_eq_ok_iff.mp h
  rintro l ⟨first, hfirst, rfl⟩
  obtain ⟨_, _, _, names, hsteps, hwalk, hd⟩ := target_eq_place_iff.mp htarget
  rw [hsteps] at hfirst
  rcases List.prefix_concat_iff.mp hfirst with hall | hbefore
  · have hplace : first.foldl follow (start here p) = d ++ [name] := by
      rw [target_eq_resolve htarget, resolve, hsteps, hall]
    rw [hplace, get?_put _ (List.concat_ne_nil name d), if_pos rfl]
  · exact hkeeps.directory _ (directory_of_walk hwalk hd hbefore)

theorem reaches_of_isDirectory (h : fs.isDirectory here p = true) : Reaches fs here p := by
  unfold isDirectory at h
  cases hlocate : fs.locate here p with
  | error fault =>
    rw [hlocate] at h
    cases h
  | ok m =>
    rw [hlocate] at h
    rintro l ⟨first, hfirst, rfl⟩
    exact directory_of_walk (walk_of_locate hlocate) (by simpa using h) hfirst

end FileSystem

namespace Session

/-! ### What the making of directories changes -/

/-- At most some directories are new, at places that depend on the working directory. -/
structure Grows (places : Location → Location → Prop) (s s' : Session) : Prop where
  session : s' = { s with files := s'.files }
  files : FileSystem.Grows (places s.here) s.files s'.files

variable {places : Location → Location → Prop} {s s' s'' : Session}

theorem Grows.refl (s : Session) : Grows places s s := ⟨rfl, .refl _⟩

theorem Grows.here (h : Grows places s s') : s'.here = s.here := by
  rw [h.session]

theorem Grows.trans (h : Grows places s s') (h' : Grows places s' s'') : Grows places s s'' := by
  constructor
  · rw [h'.session, h.session]
  · have hfiles := h'.files
    rw [h.here] at hfiles
    exact h.files.trans hfiles

theorem Grows.mono {places' : Location → Location → Prop} (h : Grows places s s')
    (hplaces : ∀ here l, places here l → places' here l) : Grows places' s s' :=
  ⟨h.session, h.files.mono (hplaces s.here)⟩

theorem respects_makeDirectory {p : Path}
    (hp : ∀ here, places here (FileSystem.resolve here p)) :
    Respects (Grows places) (host.makeDirectory p) := by
  intro s
  change Grows places s (s.settle (s.files.makeDirectory s.here p)).2
  cases hmade : s.files.makeDirectory s.here p with
  | error fault => exact .refl s
  | ok files => exact ⟨rfl, FileSystem.grows_makeDirectory (hp s.here) hmade⟩

/-- Folders are made by making directories on the way to them. -/
theorem grows_makeFolders (root : Path) (folders : List Folder) (s : Session) :
    Grows (fun here l => ∃ f ∈ folders, FileSystem.OnTheWay here (f.under root) l) s
      (Sink.makeFolders host root folders s).2 := by
  let way (here l : Location) : Prop := ∃ f ∈ folders, FileSystem.OnTheWay here (f.under root) l
  have hmake : ∀ f ∈ folders, ∀ p ∈ (f.under root).chain,
      Respects (Grows way) (host.makeDirectory p) := by
    intro f hf p hp
    refine respects_makeDirectory fun here => ?_
    exact ⟨f, hf, FileSystem.onTheWay_of_mem_chain hp (FileSystem.onTheWay_resolve here p)⟩
  exact (compositional_respects (R := Grows way) .refl .trans).makeFolders (fun _ _ _ _ s => .refl s)
    hmake s

/-! ### Success -/

variable {u : Unit}

theorem reaches_of_makeDirectory {p : Path} (h : host.makeDirectory p s = (.ok u, s')) :
    s'.files.Reaches s'.here p := by
  change s.settle (s.files.makeDirectory s.here p) = _ at h
  cases hmade : s.files.makeDirectory s.here p with
  | error fault =>
    rw [hmade] at h
    cases h
  | ok files =>
    rw [hmade] at h
    cases h
    exact FileSystem.reaches_of_makeDirectory hmade

theorem reaches_of_excuse {p : Path} {fault : Fault} (h : host.excuse p fault s = (.ok u, s')) :
    s'.files.Reaches s'.here p := by
  unfold Host.excuse at h
  split at h
  · rw [run_bind] at h
    split at h
    · next hdirectory =>
      cases h
      exact FileSystem.reaches_of_isDirectory hdirectory
    · cases h
  · cases h

/-- The first path of a chain that has been made is a directory within reach, whichever of the
ways to make it has led there. -/
theorem reaches_of_makeChain {p : Path} {parents : List Path}
    (h : host.makeChain (p :: parents) s = (.ok u, s')) : s'.files.Reaches s'.here p := by
  rw [Host.makeChain, run_bind] at h
  cases hmade : host.makeDirectory p s with
  | mk result s₁ =>
    rw [hmade] at h
    cases result with
    | ok u₁ =>
      cases h
      exact reaches_of_makeDirectory hmade
    | error fault =>
      dsimp only at h
      split at h
      · rw [run_bind] at h
        cases habove : host.makeChain parents s₁ with
        | mk above s₂ =>
          rw [habove] at h
          cases above with
          | error fault => cases h
          | ok u₂ =>
            dsimp only at h
            rw [run_bind] at h
            cases hagain : host.makeDirectory p s₂ with
            | mk again s₃ =>
              rw [hagain] at h
              cases again with
              | ok u₃ =>
                cases h
                exact reaches_of_makeDirectory hagain
              | error fault => exact reaches_of_excuse h
      · exact reaches_of_excuse h

theorem reaches_of_makeDirectories {root : Path} {f : Folder}
    (h : host.makeDirectories (f.under root) s = (.ok u, s')) :
    s'.files.Reaches s'.here (f.under root) := by
  obtain ⟨_, hparent⟩ := Path.exists_parent_join_name f.isName root
  obtain ⟨parents, hchain⟩ := Path.exists_chain_eq_cons hparent
  unfold Host.makeDirectories Folder.under at h
  rw [hchain] at h
  exact reaches_of_makeChain h

/-- The first folder stays within reach, however far the making of the others gets. -/
theorem reaches_first_of_makeFolders {root : Path} {result : Except WriteError Unit}
    (h : Sink.makeFolders host root Folder.all s = (result, s'))
    (hmade : (host.makeDirectories (Folder.commands.under root) s).1 = .ok u) :
    s'.files.Reaches s.here (Folder.commands.under root) := by
  have hhere : s'.here = s.here := by
    have hkeeps := steady_makeFolders root Folder.all s
    rw [h] at hkeeps
    exact hkeeps.here
  rw [Folder.all, Sink.makeFolders, run_bind] at h
  cases hfirst : host.makeDirectories (Folder.commands.under root) s with
  | mk made s₁ =>
  rw [hfirst] at hmade h
  obtain rfl : made = .ok u := hmade
  have hrest := steady_makeFolders root [.queries, .dtos, .validators, .handlers] s₁
  change Sink.makeFolders host root [.queries, .dtos, .validators, .handlers] s₁ = _ at h
  rw [h] at hrest
  rw [← hhere, hrest.here]
  exact (reaches_of_makeDirectories hfirst).of_keeps hrest.files

/-- Every folder that has been made is a directory within reach. -/
theorem reaches_of_makeFolders {root : Path} {folders : List Folder}
    (h : Sink.makeFolders host root folders s = (.ok u, s')) :
    ∀ f ∈ folders, s'.files.Reaches s'.here (f.under root) := by
  induction folders generalizing s with
  | nil =>
    intro f hf
    exact absurd hf List.not_mem_nil
  | cons f folders ih =>
    rw [Sink.makeFolders, run_bind] at h
    cases hmade : host.makeDirectories (f.under root) s with
    | mk result s₁ =>
      rw [hmade] at h
      cases result with
      | error fault => cases h
      | ok u₁ =>
        refine List.forall_mem_cons.mpr ⟨?_, ih h⟩
        have hfirst := reaches_of_makeDirectories hmade
        -- The folders that are made after it leave it alone.
        have hrest := steady_makeFolders root folders s₁
        change Sink.makeFolders host root folders s₁ = _ at h
        rw [h] at hrest
        rw [hrest.here]
        exact hfirst.of_keeps hrest.files

/-- However far the making of all folders gets, only directories on the way to them are new. -/
theorem grows_of_makeFolders {root : Path} {result : Except WriteError Unit}
    (h : Sink.makeFolders host root Folder.all s = (result, s')) :
    Grows (fun here l => ∃ f : Folder, FileSystem.OnTheWay here (f.under root) l) s s' := by
  have hgrows := grows_makeFolders root Folder.all s
  rw [h] at hgrows
  exact hgrows.mono fun _ _ ⟨f, _, hway⟩ => ⟨f, hway⟩

/-- When all folders have been made they are there, and only directories on the way to them are
new. -/
theorem folders_of_makeFolders {root : Path}
    (h : Sink.makeFolders host root Folder.all s = (.ok u, s')) :
    Grows (fun here l => ∃ f : Folder, FileSystem.OnTheWay here (f.under root) l) s s' ∧
      ∀ f : Folder, s'.files.Reaches s'.here (f.under root) := by
  refine ⟨grows_of_makeFolders h, fun f => ?_⟩
  exact reaches_of_makeFolders h f f.mem_all

end Session

end Scaffold
