import Scaffold.CommandLine.Usage
import Scaffold.Entity.Yaml
import Scaffold.Report

/-!
# The programs

Three programs share the definitions of entities: one generates the family of an entity, one
prints an entity as YAML or JSON, and one checks whether files hold definitions. Each reads its
command line, does its work on a host, and ends with an exit code. A command line that is not
canonical is a mistake of whoever starts the program, and ends it on the spot. So does a text that
cannot be printed: a program does not go on as if it had been.

* `Program.print`: printing a text, and what the program goes on with.
* `Program.run`: a program on a host.
-/

namespace Scaffold

open CommandLine (Arguments Manual Switch)

/-- How a program ends. -/
inductive Ending where
  /-- With an exit code. -/
  | exit (code : Nat)
  /-- On the spot, with a message. -/
  | abort (message : String)
  deriving DecidableEq, Repr

/-- The programs. -/
inductive Program where
  /-- Generates the family of an entity. -/
  | generator
  /-- Prints an entity. -/
  | printer
  /-- Checks files. -/
  | checker
  deriving DecidableEq, Repr

namespace Program

/-- The name that a program is started by. -/
def name : Program → String
  | generator => "cqrsgen"
  | printer => "entity2yaml"
  | checker => "validate-entity"

/-- The program with the given name. -/
def ofName? (s : String) : Option Program := [generator, printer, checker].find? (·.name == s)

/-- What the command line of a program is made of. -/
def manual : Program → Manual
  | generator =>
    ⟨"USAGE: cqrsgen [options]",
      [⟨"solution-name", true, "Solution name used for namespaces and folders (default: SCT)"⟩,
       ⟨"input", true, "Read the entity class definition from this file"⟩,
       ⟨"output-path", true, "Base directory for generated files (default: current directory)"⟩,
       ⟨"log", true, "Append a JSONL generation log to this file"⟩,
       ⟨"dry-run", false, "Render and list the files without writing them"⟩]⟩
  | printer =>
    ⟨"USAGE: entity2yaml [--json] < class.cs", [⟨"json", false, "Print JSON instead of YAML"⟩]⟩
  | checker =>
    ⟨"USAGE: validate-entity [--verbose] <file>...",
      [⟨"verbose", false, "Enable verbose output showing pass/fail for each file"⟩]⟩

variable {m : Type → Type} [Monad m]

/-- The message of a program that cannot print. -/
def cannotPrintText (fault : Fault) : String := "failed printing to stdout: " ++ fault.message

/-- Prints a text and goes on. A program that cannot print ends on the spot. -/
def print (host : Host m) (text : String) (next : m Ending) : m Ending := do
  match ← host.say text with
  | .ok () => next
  | .error fault => return .abort (cannotPrintText fault)

/-! ### Generating -/

/-- What a run of the generator is told by its command line. -/
def overrides (a : Arguments) : Overrides where
  solution := a.value "solution-name"
  input := a.value "input"
  output := a.value "output-path"
  log := a.value "log"
  dryRun := a.has "dry-run"

/-- How to call the generator. -/
def generatorUsage : String :=
  unlines
    ["Usage: cqrsgen [options]",
     "",
     "Options:",
     "  --solution-name <name>   Solution name used for namespaces and folders (default: SCT)",
     "  --input <file>           Read the entity class definition from this file",
     "  --output-path <dir>      Base directory for generated files (default: current directory)",
     "  --log <file>             Append a JSONL generation log to this file",
     "  --dry-run                Render and list the files without writing them",
     "",
     "Anything not given as an option is asked for interactively."]

/-- What the generator calls out first. -/
def banner : String := unlines ["CQRS Generator", "--------------"]

/-- What the generator prints about a successful run. -/
def summaryText (s : Summary) : String :=
  let count := toString s.written.length
  if s.config.dryRun then
    "\n" ++ unlines (s.written.map (·.path.text)) ++
      "\nDry run: " ++ count ++ " files would be written under " ++ s.root.text ++ "\n"
  else
    "\nCQRS components generated successfully! (" ++ count ++ " files under " ++ s.root.text ++
      ")\n"

/-- Generates the family of an entity. A run that fails is reported and exits like any other. -/
def generate (host : Host m) (a : Arguments) : m Ending :=
  match a.free with
  | arg :: _ => do
    host.warn ("Error: Unexpected argument '" ++ arg ++ "'\n" ++ generatorUsage)
    return .exit 1
  | [] =>
    print host banner do
      match ← Run.interactive host (overrides a) with
      | .ok summary => print host (summaryText summary) (return .exit 0)
      | .error e =>
        print host "\n" do
          host.warn e.report.text
          return .exit 0

/-! ### Printing -/

/-- What is printed of an entity. -/
def entityText (a : Arguments) (entity : Entity) : String :=
  if a.has "json" then entity.json.pretty ++ "\n" else entity.yaml

/-- Prints the entity that is described at the terminal. -/
def printEntity (host : Host m) (a : Arguments) : m Ending := do
  match Text.decode? (← host.readAll) with
  | none =>
    host.warn ("Failed to read stdin: " ++ Fault.notText.message ++ "\n")
    return .exit 1
  | some text =>
    match Entity.parse text with
    | .error e =>
      host.warn ("Failed to parse entity: " ++ e.message ++ "\n")
      return .exit 1
    | .ok entity => print host (entityText a entity) (return .exit 0)

/-! ### Checking -/

/-- Whether a file holds a definition. -/
def isValid (host : Host m) (file : String) : m Bool := do
  match ← host.readText ⟨file⟩ with
  | .error _ => return false
  | .ok text => return (Entity.parse text).isOk

/-- The line about a file. -/
def verdictText (file : String) (valid : Bool) : String :=
  file ++ (if valid then " pass\n" else " fail\n")

/-- Checks files one after the other, given whether all files before them are valid. -/
def checkEach (host : Host m) (verbose allValid : Bool) : List String → m Ending
  | [] => return .exit (if allValid then 0 else 1)
  | file :: files => do
    let valid ← isValid host file
    let others := checkEach host verbose (allValid && valid) files
    if verbose then print host (verdictText file valid) others else others

/-- Checks the files that are given. -/
def check (host : Host m) (a : Arguments) : m Ending :=
  if a.free.isEmpty then return .exit 1 else checkEach host (a.has "verbose") true a.free

/-! ### Starting -/

/-- What a program does once its arguments are known. -/
def work : Program → Host m → Arguments → m Ending
  | generator => generate
  | printer => printEntity
  | checker => check

/-- The message for a command line that is not canonical. -/
def notCanonicalText (provided expected : List String) : String :=
  "non-canonical commandline specified:\nprovided: " ++ Text.listing provided ++
    "\nexpected: " ++ Text.listing expected ++ "\ncheck argument order amongst other differences"

/-- Runs a program. -/
def run (p : Program) (host : Host m) (args : List String) : m Ending := do
  match p.manual.read args with
  | .ready a => p.work host a
  | .helpWanted =>
    host.warn (p.manual.usage ++ "\n")
    return .exit 1
  | .misused misuse =>
    host.warn ("could not parse command line: " ++ misuse.message ++ "\n")
    return .exit 64
  | .notCanonical provided expected => return .abort (notCanonicalText provided expected)

end Program

end Scaffold
