import Scaffold.Entity
import Scaffold.Source
import Scaffold.Yaml.Scalar

/-!
# Entities as YAML

An entity is written with the same fields and in the same order as in JSON. The entries of the
property list are not indented.
-/

namespace Scaffold

/-- The lines of a property in a list. -/
def Property.yamlLines (p : Property) : List String :=
  ["- name: " ++ Yaml.scalar p.name,
   "  type: " ++ Yaml.scalar p.type,
   "  is_primary_key: " ++ (if p.isKey then "true" else "false")]

/-- An entity as YAML. -/
def Entity.yaml (e : Entity) : String :=
  unlines <|
    ("name: " ++ Yaml.scalar e.name) ::
      (if e.properties.isEmpty then ["properties: []"]
      else "properties:" :: e.properties.flatMap Property.yamlLines)

end Scaffold
