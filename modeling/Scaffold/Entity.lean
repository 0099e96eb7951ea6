import Scaffold.Text.Search

/-!
# Entities

An entity is what a class definition describes: a class name and a list of typed properties, in
the order in which they were declared, duplicates kept. A property whose name ends in `Id` is a
key candidate. The first candidate is the key of the entity; without one the key is made up from
the class name.

* `Property.of`: every property is made of a name and a type.
* `Property.isKey_iff`: being a key candidate is a matter of the name alone.
* `Entity.key_of_find`, `Entity.key_of_no_candidate`: which key an entity has.
-/

namespace Scaffold

/-- The ending of a name that marks a key candidate. -/
def keySuffix : String := "Id"

/-- The type of a key that no property declares. -/
def fallbackKeyType : String := "Guid"

/-- A property of an entity: a name and the type it is declared with, both taken verbatim, and
whether it is a key candidate, which is settled by its name. -/
structure Property where
  name : String
  type : String
  isKey : Bool
  isKey_eq : isKey = Text.endsIn keySuffix.toList name.toList
  deriving DecidableEq, Repr

namespace Property

/-- The property with a name and a type. -/
def of (name type : String) : Property :=
  ⟨name, type, Text.endsIn keySuffix.toList name.toList, rfl⟩

@[simp] theorem name_of (name type : String) : (of name type).name = name := rfl

@[simp] theorem type_of (name type : String) : (of name type).type = type := rfl

@[simp] theorem of_name_type (p : Property) : of p.name p.type = p := by
  obtain ⟨name, type, _, rfl⟩ := p
  rfl

/-- A property is its name and its type. -/
@[ext] theorem ext {p q : Property} (hname : p.name = q.name) (htype : p.type = q.type) :
    p = q := by
  rw [← of_name_type p, ← of_name_type q, hname, htype]

theorem isKey_iff {p : Property} : p.isKey = true ↔ keySuffix.toList <:+ p.name.toList := by
  rw [p.isKey_eq, Text.endsIn_iff]

end Property

/-- A class with its properties, in declaration order. -/
structure Entity where
  name : String
  properties : List Property
  deriving DecidableEq, Repr, Inhabited

namespace Entity

/-- The properties that are not key candidates. -/
def nonKey (e : Entity) : List Property := e.properties.filter (!·.isKey)

/-- The key: the first candidate, or else a property named after the class. -/
def key (e : Entity) : Property :=
  (e.properties.find? (·.isKey)).getD (.of (e.name ++ keySuffix) fallbackKeyType)

theorem key_of_find {e : Entity} {p : Property} (h : e.properties.find? (·.isKey) = some p) :
    e.key = p := by
  rw [key, h]; rfl

theorem key_of_no_candidate {e : Entity} (h : ∀ p ∈ e.properties, p.isKey = false) :
    e.key = .of (e.name ++ keySuffix) fallbackKeyType := by
  have : e.properties.find? (·.isKey) = none :=
    List.find?_eq_none.mpr fun p hp => by simp [h p hp]
  rw [key, this]; rfl

end Entity

end Scaffold
