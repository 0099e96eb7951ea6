import Scaffold.Entity
import Scaffold.Json
import Scaffold.Json.Reader

/-!
# Entities as JSON

An entity is written as an object with its name and its properties, a property with its name, its
type and whether it is a key candidate. Reading asks for names and types only: whether a property
is a key candidate follows from its name, whatever the text says about it.
-/

namespace Scaffold

open Json (Reader)

/-- A property as JSON. -/
def Property.json (p : Property) : Json :=
  .object [("name", .text p.name), ("type", .text p.type), ("is_primary_key", .bool p.isKey)]

/-- An entity as JSON. -/
def Entity.json (e : Entity) : Json :=
  .object [("name", .text e.name), ("properties", .array (e.properties.map Property.json))]

namespace Property

/-- A property of which some fields may not have been read yet. -/
structure Reading where
  name : Option String := none
  type : Option String := none

/-- The fields of a property that are read. -/
def jsonFields : List (Reader.Field Reading) :=
  [⟨"name", (·.name.isSome), fun r => do return { r with name := some (← Reader.text) }⟩,
   ⟨"type", (·.type.isSome), fun r => do return { r with type := some (← Reader.text) }⟩]

/-- The property, when both of its fields have been read. -/
def Reading.complete (r : Reading) : Option Property := do
  return .of (← r.name) (← r.type)

theorem Reading.complete_eq (p : Property) : Reading.complete ⟨some p.name, some p.type⟩ = some p :=
  congrArg some p.of_name_type

/-- Reads a property. -/
def reader : Reader Property := Reader.record jsonFields {} Reading.complete

end Property

namespace Entity

/-- An entity of which some fields may not have been read yet. -/
structure Reading where
  name : Option String := none
  properties : Option (List Property) := none

/-- The fields of an entity that are read. -/
def jsonFields : List (Reader.Field Reading) :=
  [⟨"name", (·.name.isSome), fun r => do return { r with name := some (← Reader.text) }⟩,
   ⟨"properties", (·.properties.isSome), fun r => do
     return { r with properties := some (← Reader.list Property.reader) }⟩]

/-- The entity, when both of its fields have been read. -/
def Reading.complete (r : Reading) : Option Entity := do
  return ⟨← r.name, ← r.properties⟩

/-- Reads an entity. -/
def reader : Reader Entity := Reader.record jsonFields {} Reading.complete

/-- The entity that a JSON text describes. -/
def ofJson (text : String) : Except Json.Failure Entity := reader.run text

end Entity

end Scaffold
