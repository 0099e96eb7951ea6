import Scaffold.Config
import Scaffold.Entity.Definition
import Scaffold.Family
import Scaffold.Log.File
import Scaffold.Sink

/-!
# Runs

A run collects what it needs, reads the definition, and writes the family of the entity. It asks
at the terminal for what it is not given, in a fixed order: the solution name, the definition, the
output path. A definition that cannot be read stops it before anything is written; a failed write
stops it where it happens.

With a log, every step is recorded as it is known: that the definition has been read, each
artifact that has been written, the failure if there is one, and the end of the run. A log that
cannot be written to gives a warning and changes nothing else.

* `Run.into`: a run into a given sink.
* `Run.generate`: a run into files, or into memory when it is only tried out.
* `Run.interactive`: a run that asks for what it is not given.
-/

namespace Scaffold

/-- Why a run fails. -/
inductive RunError where
  /-- The file with the definition cannot be read. -/
  | input (fault : Fault)
  /-- The terminal cannot be used. -/
  | terminal (fault : Fault)
  /-- No output path is given and there is no working directory. -/
  | outputPath (fault : Fault)
  | parse (error : ParseError)
  | write (error : WriteError)
  deriving DecidableEq, Repr

/-- What a successful run has done. -/
structure Summary where
  entity : Entity
  config : Config
  root : Path
  written : List Written
  deriving DecidableEq, Repr

namespace Run

/-- What runs are called in the log. -/
def source : String := "cqrsgen"

/-- Where the service of an entity goes. -/
def root (config : Config) (e : Entity) : Path :=
  config.output.join (e.serviceRoot config.solution)

/-- How a run went, by what became of its artifacts. -/
def status (report : WriteReport) : Status :=
  match report.failure, report.written with
  | none, _ => .success
  | some _, [] => .failed
  | some _, _ :: _ => .incomplete

/-- What is recorded once the artifacts have been dealt with. -/
def closing (config : Config) (report : WriteReport) : List (Operation × Status) :=
  report.written.map (fun w => (.artifactWritten w.path w.bytes, .success)) ++
  (report.failure.toList.map fun e => (.artifactFailed e.path e.fault.message, .failed)) ++
  [(.runCompleted report.written.length config.dryRun, status report)]

variable {m n : Type → Type} [Monad m] [Monad n] [MonadLiftT m n]

/-- Records an operation in the log, if there is one. -/
def record (host : Host m) (config : Config) (started : Nat) :
    Operation × Status → m Unit
  | (operation, status) =>
    match config.log with
    | none => pure ()
    | some log => do
      let metadata : Metadata :=
        ⟨source, some config.solution, some ((← host.uptime) - started), status⟩
      match ← Log.add host log (.stamped operation metadata (← host.now)) with
      | .ok () => pure ()
      | .error fault =>
        host.warn ("Warning: failed to write generation log entry: " ++ fault.message ++ "\n")

/-- Records operations one after the other. -/
def recordAll (host : Host m) (config : Config) (started : Nat) :
    List (Operation × Status) → m Unit
  | [] => pure ()
  | entry :: entries => do
    record host config started entry
    recordAll host config started entries

/-- Generates the family of the entity that a definition describes into a sink. -/
def into (host : Host m) (sink : Sink n) (definition : String) (config : Config) :
    n (Except RunError Summary) := do
  let started ← host.uptime
  match Entity.parse definition with
  | .error e =>
    (record host config started (.parseFailed e.message, .failed) : m Unit)
    return .error (.parse e)
  | .ok entity =>
    (record host config started (.entityParsed entity, .success) : m Unit)
    let root := root config entity
    let report ← sink.writeAll root (entity.family config.solution)
    (recordAll host config started (closing config report) : m Unit)
    match report.toExcept with
    | .error e => return .error (.write e)
    | .ok written => return .ok ⟨entity, config, root, written⟩

/-- Generates the family of an entity into files, or into memory when the run is only tried out.
What is kept in memory is dropped. -/
def generate (host : Host m) (definition : String) (config : Config) :
    m (Except RunError Summary) :=
  if config.dryRun then
    (into host (Sink.memory (m := m)) definition config).run' {}
  else into host (Sink.disk host) definition config

/-! ### Asking -/

/-- The question for the solution name. -/
def solutionQuestion : String := "Enter solution name (e.g., SCT): "

/-- The invitation to enter a definition. -/
def definitionInvitation : String :=
  "\nEnter your entity class definition (type 'END' on a new line when finished):\n"

/-- The question for the output path. -/
def outputQuestion : String := "\nEnter output path: "

/-- What is given, or else the answer to a question. The end of the input is a blank answer. -/
def givenOrAsked (host : Host m) (given question : String) : m (Except RunError String) := do
  if Text.isBlankText given then
    match ← host.ask question with
    | .error fault => return .error (.terminal fault)
    | .ok answer => return .ok (answer.getD "")
  else return .ok given

/-- The definition: the text of the given file, or else what is entered. -/
def definition (host : Host m) (input : String) : m (Except RunError String) := do
  if Text.isBlankText input then
    match ← host.say definitionInvitation with
    | .error fault => return .error (.terminal fault)
    | .ok () =>
      match ← host.readDefinition with
      | .error fault => return .error (.terminal fault)
      | .ok text => return .ok text
  else
    match ← host.readText ⟨Text.trim input⟩ with
    | .error fault => return .error (.input fault)
    | .ok text => return .ok text

/-- Runs with what is given and asks for the rest. -/
def interactive (host : Host m) (overrides : Overrides) : m (Except RunError Summary) := do
  match ← givenOrAsked host overrides.solution solutionQuestion with
  | .error e => return .error e
  | .ok solution =>
    match ← definition host overrides.input with
    | .error e => return .error e
    | .ok text =>
      match ← givenOrAsked host overrides.output outputQuestion with
      | .error e => return .error e
      | .ok output =>
        match Config.resolve solution output overrides.log overrides.dryRun
            (← host.workingDirectory) with
        | .error fault => return .error (.outputPath fault)
        | .ok config => generate host text config

end Run

end Scaffold
