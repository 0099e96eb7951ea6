import Scaffold.Entity.Json
import Scaffold.Log.Entry

/-!
# Log entries as JSON

An entry is one object on one line. Its operation is an object whose only member is named after
the kind of the operation; a time is written as text; what the metadata leave out is `null`.
Reading takes fields in any order and skips those it does not know.
-/

namespace Scaffold

open Json (Reader)

/-! ### Writing -/

/-- What an operation carries, as JSON. -/
def Operation.contentJson : Operation → Json
  | .entityParsed entity => .object [("entity", entity.json)]
  | .parseFailed error => .object [("error", .text error)]
  | .artifactWritten path bytes => .object [("path", .text path.text), ("bytes", .number bytes)]
  | .artifactFailed path error => .object [("path", .text path.text), ("error", .text error)]
  | .runCompleted artifactCount dryRun =>
    .object [("artifact_count", .number artifactCount), ("dry_run", .bool dryRun)]

/-- An operation as JSON. -/
def Operation.json (o : Operation) : Json := .object [(o.name, o.contentJson)]

/-- Metadata as JSON. -/
def Metadata.json (m : Metadata) : Json :=
  .object
    [("source", .text m.source),
     ("solution_name", m.solution.elim .null .text),
     ("duration_ms", m.duration.elim .null .number),
     ("status", .text m.status.name)]

/-- An entry as JSON. -/
def LogEntry.json (e : LogEntry) : Json :=
  .object
    [("id", .text e.id), ("timestamp", .text e.time.text), ("operation", e.operation.json),
     ("metadata", e.metadata.json)]

/-! ### Reading -/

/-- Reads a path. -/
def Path.reader : Reader Path := Path.mk <$> Reader.text

/-- Reads a time. -/
def Instant.reader : Reader Instant := do
  match Instant.ofText? (← Reader.text) with
  | some t => return t
  | none => throw .mismatched

/-- Reads a record with a single field. -/
def Json.Reader.single {α : Type} (name : String) (read : Reader α) : Reader α :=
  Reader.record [⟨name, Option.isSome, fun _ => some <$> read⟩] none id

/-- Reads a record with two fields. -/
def Json.Reader.pair {α β : Type} (first : String) (readFirst : Reader α) (second : String)
    (readSecond : Reader β) : Reader (α × β) :=
  Reader.record
    [⟨first, (·.1.isSome), fun (_, b) => do return (some (← readFirst), b)⟩,
     ⟨second, (·.2.isSome), fun (a, _) => do return (a, some (← readSecond))⟩]
    (none, none)
    fun (a, b) => do return (← a, ← b)

/-- Reads an operation. -/
def Operation.reader : Reader Operation :=
  Reader.choice
    [⟨"EntityParsed", none, entityParsed <$> Reader.single "entity" Entity.reader⟩,
     ⟨"ParseFailed", none, parseFailed <$> Reader.single "error" Reader.text⟩,
     ⟨"ArtifactWritten", none,
       (fun (path, bytes) => artifactWritten path bytes) <$>
         Reader.pair "path" Path.reader "bytes" Reader.count⟩,
     ⟨"ArtifactFailed", none,
       (fun (path, error) => artifactFailed path error) <$>
         Reader.pair "path" Path.reader "error" Reader.text⟩,
     ⟨"RunCompleted", none,
       (fun (artifactCount, dryRun) => runCompleted artifactCount dryRun) <$>
         Reader.pair "artifact_count" Reader.count "dry_run" Reader.bool⟩]

/-- Reads a status. -/
def Status.reader : Reader Status :=
  Reader.choice <| [Status.success, .failed, .incomplete].map fun s =>
    ⟨s.name, some s, do Reader.null; return s⟩

/-- Metadata of which some fields may not have been read yet. -/
structure Metadata.Reading where
  source : Option String := none
  solution : Option (Option String) := none
  duration : Option (Option Nat) := none
  status : Option Status := none

/-- The fields of metadata. -/
def Metadata.jsonFields : List (Reader.Field Metadata.Reading) :=
  [⟨"source", (·.source.isSome), fun r => do return { r with source := some (← Reader.text) }⟩,
   ⟨"solution_name", (·.solution.isSome), fun r => do
     return { r with solution := some (← Reader.optional Reader.text) }⟩,
   ⟨"duration_ms", (·.duration.isSome), fun r => do
     return { r with duration := some (← Reader.optional Reader.count) }⟩,
   ⟨"status", (·.status.isSome), fun r => do return { r with status := some (← Status.reader) }⟩]

/-- The metadata, when the source and the status have been read. What else has not been read is
left out. -/
def Metadata.Reading.complete (r : Metadata.Reading) : Option Metadata := do
  return ⟨← r.source, r.solution.join, r.duration.join, ← r.status⟩

/-- Reads metadata. -/
def Metadata.reader : Reader Metadata :=
  Reader.record Metadata.jsonFields {} Metadata.Reading.complete

/-- An entry of which some fields may not have been read yet. -/
structure LogEntry.Reading where
  id : Option String := none
  time : Option Instant := none
  operation : Option Operation := none
  metadata : Option Metadata := none

/-- The fields of an entry. -/
def LogEntry.jsonFields : List (Reader.Field LogEntry.Reading) :=
  [⟨"id", (·.id.isSome), fun r => do return { r with id := some (← Reader.text) }⟩,
   ⟨"timestamp", (·.time.isSome), fun r => do return { r with time := some (← Instant.reader) }⟩,
   ⟨"operation", (·.operation.isSome), fun r => do
     return { r with operation := some (← Operation.reader) }⟩,
   ⟨"metadata", (·.metadata.isSome), fun r => do
     return { r with metadata := some (← Metadata.reader) }⟩]

/-- The entry, when all of its fields have been read. -/
def LogEntry.Reading.complete (r : LogEntry.Reading) : Option LogEntry := do
  return ⟨← r.id, ← r.time, ← r.operation, ← r.metadata⟩

/-- Reads an entry. -/
def LogEntry.reader : Reader LogEntry :=
  Reader.record LogEntry.jsonFields {} LogEntry.Reading.complete

/-- The entry that a line of a log describes. -/
def LogEntry.ofJson (text : String) : Except Json.Failure LogEntry := LogEntry.reader.run text

end Scaffold
