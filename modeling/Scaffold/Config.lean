import Scaffold.Path
import Scaffold.Storage.Fault
import Scaffold.Text.Blank

/-!
# Settings of a run

What a run can be told beforehand, and the settings it works with once every answer is known.
Answers are trimmed; a blank one stands for a default.

* `Config.resolve`: the settings that answers lead to.
-/

namespace Scaffold

/-- What is given instead of being asked for. A blank text means that nothing is given. -/
structure Overrides where
  solution : String := ""
  /-- The file that holds the definition. -/
  input : String := ""
  output : String := ""
  /-- The file that the log is added to. -/
  log : String := ""
  dryRun : Bool := false
  deriving DecidableEq, Repr

/-- The settings of a run. -/
structure Config where
  /-- What the names of all namespaces and the service directory start with. -/
  solution : String
  /-- The directory below which the service is generated. -/
  output : Path
  /-- The log, if there is one. -/
  log : Option Path
  /-- Whether files are only listed and not written. -/
  dryRun : Bool
  deriving DecidableEq, Repr

/-- The solution name when none is given. -/
def defaultSolution : String := "SCT"

/-- The settings that the answers lead to. The working directory is looked at only when no output
path is given. -/
def Config.resolve (solution output log : String) (dryRun : Bool)
    (workingDirectory : Except Fault Path) : Except Fault Config := do
  let solution := Text.trim solution
  let log := Text.trim log
  let output : Path ←
    if Text.isBlankText output then workingDirectory else pure ⟨Text.trim output⟩
  return {
    solution := if solution.isEmpty then defaultSolution else solution
    output
    log := if log.isEmpty then none else some ⟨log⟩
    dryRun }

end Scaffold
