import Scaffold.Artifact
import Scaffold.Host

/-!
# Sinks

A sink is where artifacts go. It is prepared once for a service root and then takes artifacts one
by one; either step can fail. Writing a list of artifacts stops at the first failure and reports
what reached the sink by then.

* `Sink.disk`: puts artifacts into the files of a host.
* `Sink.memory`: keeps artifacts in a list, for a run that is only tried out.
* `Sink.failing`: keeps artifacts in a list but fails at a chosen step.
* `Sink.writeAll`: prepares the sink and writes a list of artifacts.
-/

namespace Scaffold

open Text (Bytes)

/-- The failure of a step at a path. -/
structure WriteError where
  path : Path
  fault : Fault
  deriving DecidableEq, Repr

/-- The wording of a write error. -/
def WriteError.message (e : WriteError) : String :=
  "Failed to write " ++ e.path.text ++ ": " ++ e.fault.message

/-- Where artifacts go. -/
structure Sink (m : Type → Type) where
  /-- Gets ready for artifacts below a service root. -/
  prepare : Path → m (Except WriteError Unit)
  /-- Takes an artifact and says where it is kept. -/
  write : Path → Artifact → m (Except WriteError Path)

/-! ### Writing a list -/

/-- An artifact that has been written: where it is kept and its size in bytes. -/
structure Written where
  path : Path
  bytes : Nat
  deriving DecidableEq, Repr

/-- What became of a list of artifacts: those written, and the failure that stopped the rest. -/
structure WriteReport where
  written : List Written := []
  failure : Option WriteError := none
  deriving DecidableEq, Repr

namespace WriteReport

/-- Whether everything has been written. -/
def isSuccess (r : WriteReport) : Bool := r.failure.isNone

/-- Everything that has been written, or the failure. -/
def toExcept (r : WriteReport) : Except WriteError (List Written) :=
  match r.failure with
  | some e => .error e
  | none => .ok r.written

end WriteReport

namespace Sink

variable {m : Type → Type} [Monad m]

/-- Writes artifacts one by one up to the first failure. -/
def writeEach (sink : Sink m) (root : Path) : List Artifact → m WriteReport
  | [] => pure {}
  | a :: rest => do
    match ← sink.write root a with
    | .error e => return { failure := some e }
    | .ok path =>
      let report ← sink.writeEach root rest
      return { report with written := ⟨path, a.content.utf8ByteSize⟩ :: report.written }

/-- Prepares the sink and writes artifacts up to the first failure. -/
def writeAll (sink : Sink m) (root : Path) (artifacts : List Artifact) : m WriteReport := do
  match ← sink.prepare root with
  | .error e => return { failure := some e }
  | .ok () => sink.writeEach root artifacts

/-! ### The files of a host -/

/-- Makes the given folders below a root one after the other. -/
def makeFolders (host : Host m) (root : Path) : List Folder → m (Except WriteError Unit)
  | [] => return .ok ()
  | f :: folders => do
    match ← host.makeDirectories (f.under root) with
    | .error fault => return .error ⟨f.under root, fault⟩
    | .ok () => makeFolders host root folders

/-- Puts artifacts into files; preparing makes the folders. -/
def disk (host : Host m) : Sink m where
  prepare root := makeFolders host root Folder.all
  write root a := do
    let path := a.under root
    match ← host.write path (Text.encode a.content) with
    | .error fault => return .error ⟨path, fault⟩
    | .ok () => return .ok path

/-! ### A list in memory -/

/-- The artifacts that a sink in memory has been given, the earliest first. -/
structure Memory where
  files : List (Path × String) := []
  deriving DecidableEq, Repr

namespace Memory

/-- The content kept under a path, however it is spelled; of several the earliest. -/
def get? (mem : Memory) (p : Path) : Option String :=
  (mem.files.find? (·.1.same p)).map (·.2)

/-- Keeps another artifact. -/
def add (mem : Memory) (p : Path) (content : String) : Memory :=
  ⟨mem.files ++ [(p, content)]⟩

end Memory

/-- Keeps artifacts in memory and never fails. -/
def memory : Sink (StateT Memory m) where
  prepare _ := return .ok ()
  write root a := do
    modify (·.add (a.under root) a.content)
    return .ok (a.under root)

/-! ### A sink that fails -/

/-- The state of a sink that fails: the artifacts kept and the number of writes asked for. -/
structure Failing where
  kept : Memory := {}
  attempts : Nat := 0
  deriving DecidableEq, Repr

/-- Keeps artifacts in memory, except that the step with the given number fails: preparing is
step 0, the first write is step 1. -/
def failing (failAt : Nat) (fault : Fault) : Sink (StateT Failing m) where
  prepare root := return if failAt = 0 then .error ⟨root, fault⟩ else .ok ()
  write root a := do
    let s ← get
    let attempt := s.attempts + 1
    let path := a.under root
    if attempt = failAt then
      set { s with attempts := attempt }
      return .error ⟨path, fault⟩
    else
      set (⟨s.kept.add path a.content, attempt⟩ : Failing)
      return .ok path

end Sink

end Scaffold
