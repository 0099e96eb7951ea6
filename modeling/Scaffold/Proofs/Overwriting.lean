import Mathlib.Data.List.Induction
import Mathlib.Logic.Function.Basic
import Scaffold.Proofs.Calls
import Scaffold.Proofs.Mirror

/-!
# Overwriting

For a sink that puts artifacts into files, the files are a store that is overwritten. To write an
artifact changes the file that its path leads to and nothing else, or nothing at all; to prepare the
sink makes directories where nothing stood, as many as it can, and once it succeeds it has nothing
left to do. In whichever order these calls are made, and whether or not they succeed, the files are
those there were, overwritten with what has been written.

* `writes_disk`, `prepares_disk`: what each of the two calls does.
* `Overwritten`: files that have been overwritten; `overwritten_make`: so they are by every call.
* `overwrite_of_latest?`: of what is written to one place the latest stays.
* `disk_overwrites`: what any sequence of calls does.
-/

namespace Scaffold

open Text (Bytes)

namespace FileSystem

variable {fs fs' : FileSystem} {here l : Location}

/-! ### Files -/

/-- The content of the file at a location, if there is one. -/
def file? (fs : FileSystem) (l : Location) : Option Bytes :=
  match fs.get? l with
  | some (.file content) => some content
  | _ => none

/-- The files, by their location, after contents have been written under some paths. -/
def overwrite (here : Location) (log : List (Path × String)) (files : Location → Option Bytes) :
    Location → Option Bytes :=
  log.foldl (fun files x => Function.update files (resolve here x.1) (some (Text.encode x.2))) files

theorem overwrite_concat (log : List (Path × String)) (x : Path × String)
    (files : Location → Option Bytes) :
    overwrite here (log ++ [x]) files =
      Function.update (overwrite here log files) (resolve here x.1) (some (Text.encode x.2)) := by
  rw [overwrite, List.foldl_append]
  rfl

/-- More directories are no more files. -/
theorem file?_of_kept (hkept : ∀ l e, fs.get? l = some e → fs'.get? l = some e)
    (hfresh : ∀ l, fs.get? l = none → fs'.get? l = none ∨ fs'.get? l = some .directory) :
    fs'.file? = fs.file? := by
  funext l
  unfold file?
  cases hl : fs.get? l with
  | some e => rw [hkept l e hl]
  | none => rcases hfresh l hl with hl' | hl' <;> rw [hl']

theorem file?_of_written {content : Bytes} {k : Location}
    (h : ∀ l, fs'.get? l = if l = k then some (.file content) else fs.get? l) :
    fs'.file? = Function.update fs.file? k (some content) := by
  funext l
  unfold file?
  rw [h l]
  by_cases hl : l = k
  · rw [if_pos hl, hl, Function.update_self]
  · rw [if_neg hl, Function.update_of_ne hl]

end FileSystem

namespace Sink

open FileSystem (resolve overwrite)

variable {root : Path} {a : Artifact} {s s' s'' : Session} {log log' : List (Path × String)}

/-- What is written to a place and not overwritten stays there. -/
theorem overwrite_of_latest? {here : Location} {path : Path} {content : String}
    (h : latest? here log path = some content) (files : Location → Option Bytes) :
    overwrite here log files (resolve here path) = some (Text.encode content) := by
  induction log using List.reverseRecOn with
  | nil => cases h
  | append_singleton log x ih =>
    rw [latest?_concat] at h
    rw [FileSystem.overwrite_concat]
    by_cases hx : resolve here x.1 = resolve here path
    · rw [if_pos hx] at h
      cases h
      rw [hx, Function.update_self]
    · rw [if_neg hx] at h
      rw [Function.update_of_ne (Ne.symm hx), ih h]

/-! ### Writing -/

/-- What a call for writing an artifact does. -/
structure Writes (root : Path) (a : Artifact) (s : Session)
    (call : Except WriteError Path × Session) : Prop where
  session : call.2 = { s with files := call.2.files }
  /-- No directory is made, and none is replaced. -/
  directory : ∀ l, call.2.files.get? l = some .directory ↔ s.files.get? l = some .directory
  ok : ∀ path, call.1 = .ok path → path = a.under root ∧
    (∀ l, call.2.files.get? l =
      if l = resolve s.here path then some (.file (Text.encode a.content)) else s.files.get? l) ∧
    call.2.files.read call.2.here path = .ok (Text.encode a.content)
  error : ∀ e, call.1 = .error e → call.2 = s

theorem writes_disk (root : Path) (a : Artifact) (s : Session) :
    Writes root a s ((disk Session.host).write root a s) := by
  have hcall := run_disk_write root a s
  change (disk Session.host).write root a s = _ at hcall
  rw [hcall]
  cases hwrite : s.files.write s.here (a.under root) (Text.encode a.content) with
  | error fault =>
    refine ⟨rfl, fun _ => Iff.rfl, ?_, fun _ _ => rfl⟩
    intro path h
    cases h
  | ok files =>
    obtain ⟨l, hwritable, hput⟩ := bind_eq_ok_iff.mp hwrite
    cases hput
    obtain rfl := FileSystem.writable_eq_resolve hwritable
    let place := resolve s.here (a.under root)
    let entry := Entry.file (Text.encode a.content)
    have hentries : ∀ l, (s.files.put place entry).get? l =
        if l = place then some entry else s.files.get? l :=
      fun l => FileSystem.get?_put l (FileSystem.writable_ne_nil hwritable)
    constructor
    case session => rfl
    case directory =>
      intro l
      change (s.files.put place entry).get? l = _ ↔ _
      rw [hentries]
      by_cases hl : l = place
      · rw [if_pos hl, hl]
        have hfile : some entry ≠ some .directory := fun h => Entry.noConfusion (Option.some.inj h)
        exact iff_of_false hfile (FileSystem.get?_of_writable hwritable)
      · rw [if_neg hl]
    case ok =>
      intro path h
      cases h
      exact ⟨rfl, hentries, (FileSystem.Opens.put hwritable).read⟩
    case error =>
      intro e h
      cases h

/-! ### Preparing -/

/-- What a call for preparing the sink does. -/
structure Prepares (root : Path) (s : Session) (call : Except WriteError Unit × Session) :
    Prop where
  session : call.2 = { s with files := call.2.files }
  /-- Whatever is there stays as it is, and whatever is new is a directory. -/
  kept : ∀ l e, s.files.get? l = some e → call.2.files.get? l = some e
  fresh : ∀ l, s.files.get? l = none →
    call.2.files.get? l = none ∨ call.2.files.get? l = some .directory
  /-- Every folder is there, and there is nothing to do again. -/
  ok : call.1 = .ok () →
    (∀ f : Folder, call.2.files.isDirectory call.2.here (f.under root) = true) ∧
      (disk Session.host).prepare root call.2 = (.ok (), call.2)

/-- A folder that is there need not be made. -/
theorem run_makeDirectories_of_isDirectory {f : Folder}
    (h : s.files.isDirectory s.here (f.under root) = true) :
    Session.host.makeDirectories (f.under root) s = (.ok (), s) := by
  obtain ⟨_, hparent⟩ := Path.exists_parent_join_name f.isName root
  obtain ⟨parents, hchain⟩ := Path.exists_chain_eq_cons hparent
  have hexcuse := Session.excuse_of_isDirectory h
  rw [Host.makeDirectories, Folder.under, hchain, Session.run_makeChain_cons]
  rw [Folder.under] at h hexcuse
  rw [FileSystem.makeDirectory_of_isDirectory h]
  exact hexcuse

theorem run_makeFolders_of_isDirectory {folders : List Folder}
    (h : ∀ f ∈ folders, s.files.isDirectory s.here (f.under root) = true) :
    makeFolders Session.host root folders s = (.ok (), s) := by
  induction folders with
  | nil => rfl
  | cons f folders ih =>
    obtain ⟨hf, hfolders⟩ := List.forall_mem_cons.mp h
    rw [makeFolders, Session.run_bind, run_makeDirectories_of_isDirectory hf]
    exact ih hfolders

theorem prepares_disk (root : Path) (s : Session) :
    Prepares root s ((disk Session.host).prepare root s) := by
  change Prepares root s (makeFolders Session.host root Folder.all s)
  cases hmade : makeFolders Session.host root Folder.all s with
  | mk result s' =>
  have hgrows := Session.grows_of_makeFolders hmade
  constructor
  case session => exact hgrows.session
  case kept =>
    intro l e hl
    rcases hgrows.files l with hsame | ⟨hnone, _⟩
    · exact hsame.trans hl
    · cases hnone.symm.trans hl
  case fresh =>
    intro l hl
    rcases hgrows.files l with hsame | ⟨_, hnew, _⟩
    · exact Or.inl (hsame.trans hl)
    · exact Or.inr hnew
  case ok =>
    rintro rfl
    have hfolders := Session.isDirectory_of_makeFolders hmade
    exact ⟨fun f => hfolders f f.mem_all, run_makeFolders_of_isDirectory hfolders⟩

/-! ### Calls -/

section

variable {m : Type → Type} [Monad m]

/-- Makes a call. What is written is kept at the path that it gives. -/
def Call.make (sink : Sink m) : Call → m (Except WriteError (Option Path))
  | .prepare root => do return (← sink.prepare root).map fun _ => none
  | .write root a => do return (← sink.write root a).map some

/-- Makes calls one after the other, whatever comes of them. -/
def makeAll (sink : Sink m) (calls : List Call) : m (List (Except WriteError (Option Path))) :=
  calls.mapM (Call.make sink)

/-- What a call has written and under which path, if it has. -/
def Call.written? : Call → Except WriteError (Option Path) → Option (Path × String)
  | .write _ a, .ok (some path) => some (path, a.content)
  | _, _ => none

/-- What some calls have written, the earliest first. -/
def writtenBy (calls : List Call) (results : List (Except WriteError (Option Path))) :
    List (Path × String) :=
  (calls.zip results).filterMap fun x => x.1.written? x.2

end

/-- The files have been overwritten with what is in a log, and no directory is gone. -/
structure Overwritten (log : List (Path × String)) (s s' : Session) : Prop where
  session : s' = { s with files := s'.files }
  directory : ∀ l, s.files.get? l = some .directory → s'.files.get? l = some .directory
  files : s'.files.file? = overwrite s.here log s.files.file?

namespace Overwritten

theorem refl (s : Session) : Overwritten [] s s := ⟨rfl, fun _ h => h, rfl⟩

theorem trans (h : Overwritten log s s') (h' : Overwritten log' s' s'') :
    Overwritten (log ++ log') s s'' := by
  have hhere : s'.here = s.here := by rw [h.session]
  constructor
  case session => rw [h'.session, h.session]
  case directory => exact fun l hl => h'.directory l (h.directory l hl)
  case files => rw [h'.files, h.files, hhere, overwrite, overwrite, overwrite, List.foldl_append]

end Overwritten

theorem Prepares.overwritten {call : Except WriteError Unit × Session}
    (h : Prepares root s call) : Overwritten [] s call.2 :=
  ⟨h.session, fun l hl => h.kept l _ hl, FileSystem.file?_of_kept h.kept h.fresh⟩

theorem Writes.overwritten {call : Except WriteError Path × Session} (h : Writes root a s call) :
    Overwritten ((Call.write root a).written? (call.1.map some)).toList s call.2 := by
  obtain ⟨result, s'⟩ := call
  cases result with
  | error e =>
    obtain rfl : s' = s := h.error e rfl
    exact .refl s'
  | ok path =>
    obtain ⟨-, hentries, -⟩ := h.ok path rfl
    exact ⟨h.session, fun l => (h.directory l).mpr, FileSystem.file?_of_written hentries⟩

/-- Every call overwrites the files with what it writes, which may be nothing. -/
theorem overwritten_make (call : Call) (s : Session) :
    Overwritten (call.written? (call.make (disk Session.host) s).1).toList s
      (call.make (disk Session.host) s).2 := by
  cases call with
  | prepare root =>
    have hmake : (Call.prepare root).make (disk Session.host) s =
        (((disk Session.host).prepare root s).1.map fun _ => none,
          ((disk Session.host).prepare root s).2) := by
      rw [Call.make, Session.run_bind]
      rfl
    rw [hmake]
    exact (prepares_disk root s).overwritten
  | write root a =>
    have hmake : (Call.write root a).make (disk Session.host) s =
        (((disk Session.host).write root a s).1.map some,
          ((disk Session.host).write root a s).2) := by
      rw [Call.make, Session.run_bind]
      rfl
    rw [hmake]
    exact (writes_disk root a s).overwritten

theorem overwritten_makeAll (calls : List Call) (s : Session) :
    Overwritten (writtenBy calls (makeAll (disk Session.host) calls s).1) s
      (makeAll (disk Session.host) calls s).2 := by
  induction calls generalizing s with
  | nil => exact .refl s
  | cons call calls ih =>
    let first := call.make (disk Session.host) s
    let others := makeAll (disk Session.host) calls first.2
    have hcalls : makeAll (disk Session.host) (call :: calls) s =
        (first.1 :: others.1, others.2) := by
      rw [makeAll, List.mapM_cons]
      rfl
    have hwritten : writtenBy (call :: calls) (first.1 :: others.1) =
        (call.written? first.1).toList ++ writtenBy calls others.1 := by
      rw [writtenBy, List.zip_cons_cons, List.filterMap_cons]
      cases call.written? first.1 <;> rfl
    rw [hcalls, hwritten]
    exact (overwritten_make call s).trans (ih first.2)

/-! ### The disk -/

/-- **Artifacts that are put into files overwrite what is there.** To write one changes the file
that its path leads to, or nothing; to prepare the sink changes nothing that is there, and once it
succeeds it is done. After any sequence of these calls the files are those there were, overwritten
with what has been written, and of several contents at one place the latest stays. -/
theorem disk_overwrites :
    (∀ (root : Path) (a : Artifact) (s : Session),
      Writes root a s ((disk Session.host).write root a s)) ∧
    (∀ (root : Path) (s : Session), Prepares root s ((disk Session.host).prepare root s)) ∧
    ∀ (calls : List Call) (s s' : Session) (results : List (Except WriteError (Option Path))),
      makeAll (disk Session.host) calls s = (results, s') →
      Overwritten (writtenBy calls results) s s' ∧
        ∀ path content, latest? s.here (writtenBy calls results) path = some content →
          s'.files.file? (resolve s.here path) = some (Text.encode content) := by
  refine ⟨writes_disk, prepares_disk, fun calls s s' results hmade => ?_⟩
  have hoverwritten := overwritten_makeAll calls s
  rw [hmade] at hoverwritten
  refine ⟨hoverwritten, fun path content hlatest => ?_⟩
  rw [hoverwritten.files]
  exact overwrite_of_latest? hlatest _

/-- An artifact that is written too early is refused, and one that is written twice, under paths
that lead to one place, is there as it was written last. -/
theorem disk_overwrites_same_place :
    let older : Artifact := ⟨.dtos, "NDTO.cs", "a"⟩
    let newer : Artifact := ⟨.dtos, "NDTO.cs", "b"⟩
    let calls : List Call := [.write ⟨"r"⟩ older, .prepare ⟨"r"⟩, .write ⟨"r"⟩ older,
      .write ⟨"./r/"⟩ newer, .prepare ⟨"r"⟩]
    let results : List (Except WriteError (Option Path)) :=
      [.error ⟨⟨"r/DTOs/NDTO.cs"⟩, .noEntry⟩, .ok none, .ok (some ⟨"r/DTOs/NDTO.cs"⟩),
        .ok (some ⟨"./r/DTOs/NDTO.cs"⟩), .ok none]
    ∃ s', makeAll (disk Session.host) calls {} = (results, s') ∧
      s'.files.file? (resolve [] ⟨"r/DTOs/NDTO.cs"⟩) = some (Text.encode "b") := by
  intro older newer calls results
  have hresults : (makeAll (disk Session.host) calls {}).1 = results := by decide +kernel
  have hlatest : latest? [] (writtenBy calls results) ⟨"r/DTOs/NDTO.cs"⟩ = some "b" := by
    decide +kernel
  cases hmade : makeAll (disk Session.host) calls {} with
  | mk made s' =>
  rw [hmade] at hresults
  obtain rfl : made = results := hresults
  exact ⟨s', rfl, (disk_overwrites.2.2 calls {} s' results hmade).2 ⟨"r/DTOs/NDTO.cs"⟩ "b" hlatest⟩

end Sink

end Scaffold
