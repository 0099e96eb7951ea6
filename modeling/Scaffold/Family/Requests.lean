import Scaffold.Family.Names
import Scaffold.Rule
import Scaffold.Source

/-!
# Requests and what they carry

The files that declare data: the three commands with their responses, the two queries, and the
class that carries an entity. Create and update carry the command fields with initializers;
whatever names an entity carries its key, which has none.
-/

namespace Scaffold

/-- A field for a property, with the initializer of its type. -/
def Property.field (p : Property) : Member := .field p.type p.name (some (initializer p.type))

/-- The fields by which every command reports its outcome. -/
def outcomeFields : List Member :=
  [.plain "bool" "Success", .field "string" "Message" (some "string.Empty")]

namespace Entity

variable (e : Entity)

/-- The field for the key. -/
def keyField : Member := .plain e.key.type e.key.name

/-- The fields of the request that carries out a verb. -/
def requestFields : Verb → List Member
  | .create => e.commandFields.map Property.field
  | .update => e.keyField :: e.commandFields.map Property.field
  | .delete => [e.keyField]

/-- The fields of the response to a command. Creating reports the key of what was created. -/
def responseFields : Verb → List Member
  | .create => e.keyField :: outcomeFields
  | .update => outcomeFields
  | .delete => outcomeFields

/-- The file of a command: the request and its response. -/
def commandFile (solution : String) (v : Verb) : SourceFile where
  uses := ["MediatR"]
  home := e.space solution .commands
  classes :=
    [⟨true, e.commandName v, some (.request (.one (e.responseName v))), e.requestFields v⟩,
     ⟨false, e.responseName v, none, e.responseFields v⟩]

/-- The file of a query that gives the response and has the given members. -/
def queryFile (solution name : String) (response : ResponseType) (members : List Member) :
    SourceFile where
  uses := ["MediatR", e.space solution .dtos]
  home := e.space solution .queries
  classes := [⟨true, name, some (.request response), members⟩]

/-- The query for one entity. -/
def byIdFile (solution : String) : SourceFile :=
  e.queryFile solution e.byIdName (.one e.dtoName) [e.keyField]

/-- What the query for all entities can be narrowed by. -/
def filterFields : List Member :=
  [.plain "string?" "Status", .plain "DateTime?" "StartDate", .plain "DateTime?" "EndDate"]

/-- The query for all entities. -/
def allFile (solution : String) : SourceFile :=
  e.queryFile solution e.allName (.many e.dtoName) filterFields

/-- The class that carries an entity, with all its properties. -/
def dtoFile (solution : String) : SourceFile where
  uses := []
  home := e.space solution .dtos
  classes := [⟨false, e.dtoName, none, e.properties.map Property.field⟩]

end Entity

end Scaffold
