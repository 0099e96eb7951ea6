import Scaffold.Run

/-!
# Reports of failures

What a user is told when something fails: a message and, where there is advice to give, a hint.
The hint depends on the sort of the fault only. Some failures are put in other words for a user
than they are in the chain of their causes.

* `RunError.message`: the wording of a failed run.
* `RunError.causes`: the wordings of what lies behind it, the nearest first.
* `RunError.report`: what the user is told.
-/

namespace Scaffold

/-- What a user is told about a failure. -/
structure Report where
  message : String
  hint : Option String := none
  deriving DecidableEq, Repr

/-- The advice on a fault of the given sort. -/
def FaultKind.hint : FaultKind → Option String
  | .notFound => some "The specified file was not found. Check the file path."
  | .permissionDenied => some "Permission denied. Check file permissions."
  | .invalidData => some "The file contains invalid data."
  | _ => none

/-- The report of a fault by itself. -/
def Fault.report (f : Fault) : Report := ⟨"File operation error: " ++ f.message, f.kind.hint⟩

/-- The report of a definition that cannot be read. -/
def ParseError.report (e : ParseError) : Report :=
  ⟨e.message, some "The definition must contain a declaration such as 'public class Order'"⟩

/-- The report of a step that failed at a path. -/
def WriteError.report (e : WriteError) : Report :=
  ⟨"Generation failed while writing " ++ e.path.text ++ ": " ++ e.fault.message,
    e.fault.kind.hint⟩

/-- What lies behind a step that failed at a path. -/
def WriteError.causes (e : WriteError) : List String := [e.fault.message]

namespace RunError

/-- The wording of a failed run. -/
def message : RunError → String
  | input fault => "Failed to read input: " ++ fault.message
  | terminal fault => "Terminal I/O failed: " ++ fault.message
  | outputPath fault => "Failed to resolve output path: " ++ fault.message
  | parse error => error.message
  | write error => error.message

/-- The wordings of what lies behind a failed run, the nearest first. -/
def causes : RunError → List String
  | input fault | terminal fault | outputPath fault => [fault.message]
  | parse error => [error.message]
  | write error => error.message :: error.causes

/-- What the user is told about a failed run. -/
def report : RunError → Report
  | input fault => ⟨(input fault).message, fault.kind.hint⟩
  | terminal fault => ⟨(terminal fault).message, fault.kind.hint⟩
  | outputPath fault => ⟨(outputPath fault).message, fault.kind.hint⟩
  | parse error => error.report
  | write error => error.report

end RunError

/-- The lines that a report is printed as. -/
def Report.text (r : Report) : String :=
  "Error: " ++ r.message ++ "\n" ++ r.hint.elim "" (· ++ "\n")

end Scaffold
