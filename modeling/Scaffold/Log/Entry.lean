import Scaffold.Entity
import Scaffold.Instant.Text
import Scaffold.Path

/-!
# Log entries

A run leaves a trace of what it did: entries that say what happened, how it went, and when. An
entry is named after its time, by the count of nanoseconds as far as that can be counted.
-/

namespace Scaffold

/-- What an entry reports. -/
inductive Operation where
  /-- The definition has been read. -/
  | entityParsed (entity : Entity)
  /-- The definition could not be read. -/
  | parseFailed (error : String)
  /-- An artifact has been written. -/
  | artifactWritten (path : Path) (bytes : Nat)
  /-- Writing stopped at a path. -/
  | artifactFailed (path : Path) (error : String)
  /-- The run is over. -/
  | runCompleted (artifactCount : Nat) (dryRun : Bool)
  deriving DecidableEq, Repr

namespace Operation

/-- The name of the kind of operation. -/
def name : Operation → String
  | entityParsed _ => "EntityParsed"
  | parseFailed _ => "ParseFailed"
  | artifactWritten _ _ => "ArtifactWritten"
  | artifactFailed _ _ => "ArtifactFailed"
  | runCompleted _ _ => "RunCompleted"

/-- The entity that the operation is about, if it names one. -/
def entityName? : Operation → Option String
  | entityParsed entity => some entity.name
  | _ => none

end Operation

/-- How an operation went. -/
inductive Status where
  | success
  | failed
  /-- Some of the work was done before it failed. -/
  | incomplete
  deriving DecidableEq, Repr

/-- The name of a status. -/
def Status.name : Status → String
  | success => "Success"
  | failed => "Failed"
  | incomplete => "Partial"

/-- What accompanies an operation. -/
structure Metadata where
  source : String
  solution : Option String := none
  /-- Milliseconds since the run began. -/
  duration : Option Nat := none
  status : Status := .success
  deriving DecidableEq, Repr

/-- An entry of the log. -/
structure LogEntry where
  id : String
  time : Instant
  operation : Operation
  metadata : Metadata
  deriving DecidableEq

/-- A number in decimal digits, with a hyphen in front when it is negative. -/
def signedDecimal (n : Int) : List Char :=
  if n < 0 then '-' :: decimal n.natAbs else decimal n.natAbs

/-- The name of an entry that is made at a time. -/
def Instant.entryId (t : Instant) : String :=
  "gen_" ++ String.ofList (signedDecimal (t.nanoCount?.getD 0))

namespace LogEntry

/-- An entry made at a time. -/
def stamped (operation : Operation) (metadata : Metadata) (time : Instant) : LogEntry :=
  ⟨time.entryId, time, operation, metadata⟩

/-- Whether the entry reports success. -/
def isSuccess (e : LogEntry) : Bool := e.metadata.status = .success

end LogEntry

end Scaffold
