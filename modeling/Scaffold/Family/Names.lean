import Scaffold.Artifact
import Scaffold.Entity

/-!
# Names in a family

Everything that is generated for one entity shares a scheme of names: a verb or `Get` in front of
the class name, the kind of the class behind it. The directory of a service and the namespaces of
its files are named in the same way.
-/

namespace Scaffold

/-- What a command does to an entity. -/
inductive Verb where
  | create
  | update
  | delete
  deriving DecidableEq, Repr

namespace Verb

/-- The verb as it stands in a class name. -/
def word : Verb → String
  | .create => "Create"
  | .update => "Update"
  | .delete => "Delete"

/-- The verb as it stands in a message about what was done. -/
def past : Verb → String
  | .create => "created"
  | .update => "updated"
  | .delete => "deleted"

end Verb

namespace Entity

variable (e : Entity)

/-- The command that carries out a verb. -/
def commandName (v : Verb) : String := v.word ++ e.name ++ "Command"

/-- The response to a command. -/
def responseName (v : Verb) : String := v.word ++ e.name ++ "Response"

/-- The query for one entity by its key. -/
def byIdName : String := "Get" ++ e.name ++ "ByIdQuery"

/-- The query for all entities. -/
def allName : String := "GetAll" ++ e.name ++ "Query"

/-- The class that carries an entity to callers. -/
def dtoName : String := e.name ++ "DTO"

/-- The namespace of a folder of the service. -/
def space (solution : String) (f : Folder) : String :=
  solution ++ ".Shared.Services." ++ e.name ++ "." ++ f.name

/-- The directory of the service, relative to the output path. -/
def serviceRoot (solution : String) : Path :=
  (Path.join ⟨solution ++ ".Shared"⟩ ⟨"Services"⟩).join ⟨e.name⟩

end Entity

/-- The class that validates a request. -/
def validatorName (request : String) : String := request ++ "Validator"

/-- The class that handles a request. -/
def handlerName (request : String) : String := request ++ "Handler"

end Scaffold
