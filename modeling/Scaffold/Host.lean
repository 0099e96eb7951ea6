import Scaffold.Instant
import Scaffold.Storage.FileSystem
import Scaffold.Terminal

/-!
# The host of a run

A run touches the machine it runs on in a few ways: it reads and writes files, talks to a
terminal, warns on a second channel, and looks at the clock. A host offers these in some monad,
and every program of this library is written against a host.

A *session* is the host that is a value: a file system with a working directory, a terminal, the
warnings given so far, and the time. What a program does in a session is a function of the session
it starts from; `Session.host` says what each access does to it.

The clock of a session stands still. All stamps of a run coincide, what a run measures takes no
time, and runs that are compared with each other share one reading of the clock. Warnings always
arrive.
-/

namespace Scaffold

open Text (Bytes)

/-- What a run needs from the machine. -/
structure Host (m : Type → Type) where
  /-- The content of a file. -/
  read : Path → m (Except Fault Bytes)
  /-- Whether something is found at a path. -/
  holds : Path → m Bool
  /-- Whether a directory is found at a path. -/
  isDirectory : Path → m Bool
  /-- Makes one directory in a directory that exists. -/
  makeDirectory : Path → m (Except Fault Unit)
  /-- Makes a file or replaces its content. -/
  write : Path → Bytes → m (Except Fault Unit)
  /-- Makes a file or adds to its end. -/
  append : Path → Bytes → m (Except Fault Unit)
  /-- The directory that relative paths start from. -/
  workingDirectory : m (Except Fault Path)
  /-- Writes to the terminal. -/
  say : String → m (Except Fault Unit)
  /-- Asks a question at the terminal and takes a line as the answer. -/
  ask : String → m (Except Fault (Option String))
  /-- Takes a definition from the terminal. -/
  readDefinition : m (Except Fault String)
  /-- Takes everything that is left of the terminal's input. -/
  readAll : m Bytes
  /-- Writes to the channel for warnings and errors. -/
  warn : String → m Unit
  /-- The time. -/
  now : m Instant
  /-- Milliseconds on a clock that never goes back. -/
  uptime : m Nat

namespace Host

variable {m : Type → Type} [Monad m]

/-- The text of a file. -/
def readText (host : Host m) (p : Path) : m (Except Fault String) := do
  match ← host.read p with
  | .error fault => return .error fault
  | .ok bytes =>
    match Text.decode? bytes with
    | some text => return .ok text
    | none => return .error .notText

/-- A directory that is there already need not be made. -/
def excuse (host : Host m) (p : Path) (fault : Fault) : m (Except Fault Unit) := do
  if fault = .alreadyThere then
    if ← host.isDirectory p then return .ok () else return .error fault
  else return .error fault

/-- Makes the directory at the head of some paths, each of which lies in the next one. Those it
lies in are made only when they turn out to be missing; what has been made stays, even if the rest
cannot be made. -/
def makeChain (host : Host m) : List Path → m (Except Fault Unit)
  | [] => return .ok ()
  | p :: parents => do
    match ← host.makeDirectory p with
    | .ok () => return .ok ()
    | .error fault =>
      if fault = .noEntry then
        match ← host.makeChain parents with
        | .error fault => return .error fault
        | .ok () =>
          match ← host.makeDirectory p with
          | .ok () => return .ok ()
          | .error fault => host.excuse p fault
      else host.excuse p fault

/-- Makes a directory together with those it lies in. -/
def makeDirectories (host : Host m) (p : Path) : m (Except Fault Unit) := host.makeChain p.chain

end Host

/-- A machine as a value. -/
structure Session where
  files : FileSystem := {}
  /-- The location of the working directory. -/
  here : Location := []
  terminal : Terminal := {}
  /-- What has been written to the channel for warnings and errors. -/
  warnings : String := ""
  now : Instant := default
  uptime : Nat := 0

namespace Session

/-- The path of the working directory. It is a fault when the directory is gone. -/
def workingDirectory (s : Session) : Except Fault Path := do
  s.files.checkDirectory s.here
  return ⟨"/" ++ "/".intercalate s.here⟩

/-- The files after a step that may have failed, and what came of it. -/
def settle (s : Session) : Except Fault FileSystem → Except Fault Unit × Session
  | .ok files => (.ok (), { s with files })
  | .error fault => (.error fault, s)

/-- The terminal after a step, and what came of it. -/
def atTerminal {α : Type} (step : Terminal → α × Terminal) (s : Session) : α × Session :=
  ((step s.terminal).1, { s with terminal := (step s.terminal).2 })

/-- The host that is a session. -/
def host : Host (StateM Session) where
  read p := fun s => (s.files.read s.here p, s)
  holds p := fun s => (s.files.holds s.here p, s)
  isDirectory p := fun s => (s.files.isDirectory s.here p, s)
  makeDirectory p := fun s => s.settle (s.files.makeDirectory s.here p)
  write p bytes := fun s => s.settle (s.files.write s.here p bytes)
  append p bytes := fun s => s.settle (s.files.append s.here p bytes)
  workingDirectory := fun s => (s.workingDirectory, s)
  say text := atTerminal (·.say text)
  ask question := atTerminal (·.ask question)
  readDefinition := atTerminal (·.readDefinition)
  readAll := atTerminal fun t => (t.input, { t with input := [] })
  warn text := fun s => ((), { s with warnings := s.warnings ++ text })
  now := fun s => (s.now, s)
  uptime := fun s => (s.uptime, s)

end Session

end Scaffold
