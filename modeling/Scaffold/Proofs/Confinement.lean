import Scaffold.Proofs.Execution
import Scaffold.Proofs.Places
import Scaffold.Proofs.Programs

/-!
# Confined sinks

A sink is confined when it leaves alone what it has no business with: being prepared changes
nothing that is there already, and taking an artifact changes at most the file to which the path of
the artifact leads. A file that no artifact is written to is then within reach during the whole
delivery.

* `confined_disk`, `confined_memory`, `confined_failing`: the sinks of the library are confined.
* `Delivery.opens`: a file off the paths of the artifacts survives a delivery.
-/

namespace Scaffold

open Text (Bytes)

namespace Session

/-! ### Programs that respect a relation -/

section

variable {R : Session → Session → Prop}

/-- A program that leads from every session to one that is related to it. -/
def Respects (R : Session → Session → Prop) {α : Type} (program : StateM Session α) : Prop :=
  ∀ s, R s (program s).2

theorem compositional_respects (hrefl : ∀ s, R s s)
    (htrans : ∀ {s s' s''}, R s s' → R s' s'' → R s s'') :
    Compositional fun α (program : StateM Session α) => Respects R program where
  pure _ := hrefl
  bind hprogram hnext := fun s => htrans (hprogram s) (hnext _ _)

end

/-! ### Steady programs -/

/-- The working directory is the same and the files are kept. -/
structure Keeps (free : Location → Prop) (s s' : Session) : Prop where
  here : s'.here = s.here
  files : FileSystem.Keeps free s.files s'.files

/-- A program that keeps what is there. -/
def Steady {α : Type} (free : Location → Prop) (program : StateM Session α) : Prop :=
  ∀ s, Keeps free s (program s).2

variable {free : Location → Prop}

theorem Keeps.refl (s : Session) : Keeps free s s := ⟨rfl, .refl _⟩

theorem Keeps.trans {s s' s'' : Session} (h : Keeps free s s') (h' : Keeps free s' s'') :
    Keeps free s s'' :=
  ⟨h'.here.trans h.here, h.files.trans h'.files⟩

theorem Keeps.mono {free' : Location → Prop} {s s' : Session} (h : Keeps free s s')
    (hfree : ∀ l, free l → free' l) : Keeps free' s s' :=
  ⟨h.here, h.files.mono hfree⟩

theorem Keeps.of_eq {s s' : Session} (h : s' = s) : Keeps free s s' := by
  rw [h]
  exact .refl s

theorem keeps_settle {s : Session} {result : Except Fault FileSystem}
    (h : ∀ files, result = .ok files → s.files.Keeps free files) :
    Keeps free s (s.settle result).2 := by
  cases result with
  | error fault => exact .refl s
  | ok files => exact ⟨rfl, h files rfl⟩

theorem steady_makeDirectory (p : Path) : Steady FileSystem.nowhere (host.makeDirectory p) := by
  intro s
  exact keeps_settle fun _ h => FileSystem.keeps_makeDirectory h

/-- However far the making of folders gets, nothing that is there is touched. -/
theorem steady_makeFolders (root : Path) (folders : List Folder) :
    Steady FileSystem.nowhere (Sink.makeFolders host root folders) :=
  (compositional_respects (R := Keeps FileSystem.nowhere) .refl .trans).makeFolders
    (fun _ _ _ _ s => .refl s) fun _ _ p _ => steady_makeDirectory p

end Session

namespace Sink

variable {n : Type → Type} [Monad n] [MonadLiftT (StateM Session) n]

/-! ### Confinement -/

/-- When it is prepared for a root and takes artifacts, the sink changes nothing that is there
already, except for the files that the paths of these artifacts lead to. -/
structure Confined (x : Execution n) (sink : Sink n) (root : Path) (artifacts : List Artifact) :
    Prop where
  prepare : ∀ w,
    Session.Keeps FileSystem.nowhere (x.session w) (x.session (x.run (sink.prepare root) w).2)
  write : ∀ a ∈ artifacts, ∀ w,
    Session.Keeps (· = FileSystem.resolve (x.session w).here (a.under root)) (x.session w)
      (x.session (x.run (sink.write root a) w).2)

/-- A call of the disk writes one file. -/
theorem run_disk_write (root : Path) (a : Artifact) (s : Session) :
    Execution.machine.run ((disk Session.host).write root a) s =
      match s.files.write s.here (a.under root) (Text.encode a.content) with
      | .ok files => (.ok (a.under root), { s with files })
      | .error fault => (.error ⟨a.under root, fault⟩, s) := by
  have hcall : Session.host.write (a.under root) (Text.encode a.content) s =
      s.settle (s.files.write s.here (a.under root) (Text.encode a.content)) := rfl
  simp only [Execution.machine, disk, bind, StateT.bind, hcall]
  cases s.files.write s.here (a.under root) (Text.encode a.content) with
  | error fault => rfl
  | ok files => rfl

theorem confined_disk (root : Path) (artifacts : List Artifact) :
    Confined .machine (disk Session.host) root artifacts := by
  constructor
  · exact Session.steady_makeFolders root Folder.all
  · intro a _ s
    have hcall := run_disk_write root a s
    cases hwrite : s.files.write s.here (a.under root) (Text.encode a.content) with
    | error fault =>
      rw [hwrite] at hcall
      rw [hcall]
      exact .refl s
    | ok files =>
      rw [hwrite] at hcall
      rw [hcall]
      exact ⟨rfl, FileSystem.keeps_write hwrite⟩

/-- A program with a state beside the session that leaves the session alone. -/
def Aside {σ α : Type} (program : StateT σ (StateM Session) α) : Prop :=
  ∀ a s, (program a s).2 = s

theorem Aside.bind {σ α β : Type} {program : StateT σ (StateM Session) α}
    {next : α → StateT σ (StateM Session) β} (h : Aside program) (hnext : ∀ a, Aside (next a)) :
    Aside (program >>= next) := by
  intro a s
  exact (hnext _ _ _).trans (h a s)

theorem aside_pure {σ α : Type} (a : α) : Aside (pure a : StateT σ (StateM Session) α) :=
  fun _ _ => rfl

/-- A sink that leaves the session alone is confined. -/
theorem confined_of_aside {σ : Type} {sink : Sink (StateT σ (StateM Session))}
    (hprepare : ∀ root, Aside (sink.prepare root)) (hwrite : ∀ root a, Aside (sink.write root a))
    (root : Path) (artifacts : List Artifact) : Confined (.beside σ) sink root artifacts := by
  constructor
  · intro w
    exact .of_eq (hprepare root w.1 w.2)
  · intro a _ w
    exact .of_eq (hwrite root a w.1 w.2)

theorem confined_memory (root : Path) (artifacts : List Artifact) :
    Confined (.beside Memory) memory root artifacts := by
  refine confined_of_aside (fun _ => aside_pure _) (fun root a => ?_) root artifacts
  have hadd : Aside (modify (·.add (a.under root) a.content) :
      StateT Memory (StateM Session) PUnit) := fun _ _ => rfl
  exact hadd.bind fun _ => aside_pure _

theorem confined_failing (failAt : Nat) (fault : Fault) (root : Path) (artifacts : List Artifact) :
    Confined (.beside Failing) (failing failAt fault) root artifacts := by
  refine confined_of_aside (fun _ => aside_pure _) (fun root a => ?_) root artifacts
  have hget : Aside (get : StateT Failing (StateM Session) Failing) := fun _ _ => rfl
  have hset : ∀ state : Failing, Aside (set state : StateT Failing (StateM Session) PUnit) :=
    fun _ _ _ => rfl
  refine hget.bind fun state => ?_
  dsimp only
  split
  · exact (hset _).bind fun _ => aside_pure _
  · exact (hset _).bind fun _ => aside_pure _

/-! ### What a delivery keeps -/

variable {x : Execution n} {sink : Sink n} {root : Path} {artifacts : List Artifact}
  {w w' : x.World} {written : List Written} {failure : Option WriteError}

/-- The places that the paths of some artifacts lead to. -/
def Places (artifacts : List Artifact) (root : Path) (here : Location) (l : Location) : Prop :=
  ∃ a ∈ artifacts, l = FileSystem.resolve here (a.under root)

/-- Since what has been kept includes the working directory, the next call keeps the rest of the
files as well. -/
theorem Confined.keeps (hsink : Confined x sink root artifacts) {s : Session} :
    ∀ a ∈ artifacts, ∀ v, Session.Keeps (Places artifacts root s.here) s (x.session v) →
      Session.Keeps (Places artifacts root s.here) s
        (x.session (x.run (sink.write root a) v).2) := by
  intro a ha v hv
  refine hv.trans ((hsink.write a ha v).mono ?_)
  rintro l rfl
  exact ⟨a, ha, by rw [hv.here]⟩

theorem Takes.keeps (h : Takes x sink root w artifacts written failure w')
    (hsink : Confined x sink root artifacts) :
    Session.Keeps (Places artifacts root (x.session w).here) (x.session w) (x.session w') :=
  h.preserves hsink.keeps (.refl _)

/-- A delivery changes nothing that is there already, except for the files that the paths of the
artifacts lead to. -/
theorem Delivery.keeps (h : Delivery x sink root w artifacts written failure w')
    (hsink : Confined x sink root artifacts) :
    Session.Keeps (Places artifacts root (x.session w).here) (x.session w) (x.session w') := by
  refine h.preserves ?_ hsink.keeps (.refl _)
  intro v hv
  exact hv.trans ((hsink.prepare v).mono fun _ hl => hl.elim)

/-- A file that no artifact is written to is within reach after a delivery as it was before. -/
theorem Delivery.opens {p : Path} {l : Location} {content : Bytes}
    (h : Delivery x sink root w artifacts written failure w')
    (hsink : Confined x sink root artifacts)
    (hclear : ∀ a ∈ artifacts, FileSystem.resolve (x.session w).here (a.under root) ≠ l)
    (hopens : (x.session w).files.Opens (x.session w).here p l content) :
    (x.session w').files.Opens (x.session w').here p l content := by
  have hkeeps := h.keeps hsink
  rw [hkeeps.here]
  refine hopens.of_keeps hkeeps.files ?_
  rintro ⟨a, ha, hl⟩
  exact hclear a ha hl.symm

end Sink

end Scaffold
