import Scaffold.Entity
import Scaffold.Text.Lowercase

/-!
# What a property turns into

Every decision that depends on a single property: the initializer of its generated field, whether
commands carry it, and the rules that validate it. A type is recognized by its lower-cased name, a
part of a property's name as it is spelled.

* `initializer_cases`: where an initializer comes from.
* `Entity.mem_commandFields_iff`: commands carry what is neither a key candidate nor an audit field.
-/

namespace Scaffold

/-! ### Types that are recognized -/

/-- The types that have an initializer of their own, with that initializer. -/
def initializers : List (String × String) :=
  [("string", "string.Empty"), ("int", "0"), ("long", "0L"), ("decimal", "0m"), ("double", "0d"),
   ("float", "0f"), ("datetime", "DateTime.MinValue"), ("guid", "Guid.Empty"), ("bool", "false")]

/-- The initializer of every other type. -/
def fallbackInitializer : String := "default"

/-- The name by which a type is recognized: letter case plays no part. -/
def canonicalType (type : String) : String := String.ofList (Text.lowercase type.toList)

/-- The initializer of a field of the given type. -/
def initializer (type : String) : String :=
  (initializers.lookup (canonicalType type)).getD fallbackInitializer

/-- An initializer is that of the entry for the type, or else it is that of every other type. -/
theorem initializer_cases (type : String) :
    (∃ entry ∈ initializers, canonicalType type = entry.1 ∧ initializer type = entry.2) ∨
      (∀ entry ∈ initializers, canonicalType type ≠ entry.1) ∧
        initializer type = fallbackInitializer := by
  unfold initializer
  cases hlookup : initializers.lookup (canonicalType type) with
  | none =>
    have hother := List.lookup_eq_none_iff.mp hlookup
    exact Or.inr ⟨fun entry h => by simpa using hother entry h, rfl⟩
  | some value =>
    obtain ⟨l₁, l₂, hparts, -⟩ := List.lookup_eq_some_iff.mp hlookup
    refine Or.inl ⟨(canonicalType type, value), ?_, rfl, rfl⟩
    rw [hparts]
    exact List.mem_append_right _ List.mem_cons_self

/-! ### Fields of commands -/

/-- The properties that are filled in by the service and not by its callers. -/
def auditFields : List String := ["CreatedDate", "UpdatedDate"]

/-- Whether the create and update commands carry the property. -/
def Property.isCommandField (p : Property) : Bool := !p.isKey && !auditFields.contains p.name

/-- The properties that commands carry. -/
def Entity.commandFields (e : Entity) : List Property := e.properties.filter (·.isCommandField)

theorem Entity.mem_commandFields_iff {e : Entity} {p : Property} :
    p ∈ e.commandFields ↔ p ∈ e.nonKey ∧ p.name ∉ auditFields := by
  simp [commandFields, nonKey, Property.isCommandField, and_assoc]

/-! ### Validation -/

/-- One requirement on a validated property. -/
inductive Rule where
  | notEmpty
  | emailAddress
  | maximumLength (limit : Nat)
  /-- The value is `Active` or `Inactive`. -/
  | activeOrInactive
  /-- The date is not before the day on which it is validated. -/
  | todayOrLater
  deriving DecidableEq, Repr

/-- The length limit of names. -/
def maximumNameLength : Nat := 100

/-- What a caller is told about a status that is neither of the two. -/
def statusMessage : String := "Status must be either Active or Inactive"

/-- The calls by which a validator states the rule. -/
def Rule.calls : Rule → List String
  | .notEmpty => [".NotEmpty()"]
  | .emailAddress => [".EmailAddress()"]
  | .maximumLength limit => [".MaximumLength(" ++ toString limit ++ ")"]
  | .activeOrInactive =>
    [".Must(status => status is \"Active\" or \"Inactive\")",
     ".WithMessage(\"" ++ statusMessage ++ "\")"]
  | .todayOrLater => [".Must(date => date >= DateTime.Today)"]

/-- Whether a part stands in the name of the property. -/
def Property.mentions (p : Property) (part : String) : Bool :=
  Text.occursIn part.toList p.name.toList

/-- The rules on a property besides being present. Texts and dates get further ones by what their
name mentions. -/
def Property.extraRules (p : Property) : List Rule :=
  match canonicalType p.type with
  | "string" =>
    (if p.mentions "Email" then [.emailAddress] else []) ++
    (if p.mentions "Name" then [.maximumLength maximumNameLength] else []) ++
    (if p.mentions "Status" then [.activeOrInactive] else [])
  | "datetime" =>
    if p.mentions "Date" && !p.mentions "Created" && !p.mentions "Updated" then [.todayOrLater]
    else []
  | _ => []

/-- The rules on a property, in the order in which they are stated. -/
def Property.rules (p : Property) : List Rule := .notEmpty :: p.extraRules

end Scaffold
