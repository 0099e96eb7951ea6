import Scaffold.Family.Names
import Scaffold.Source

/-!
# Handlers

Every request has one handler, which answers in the type that the request promises: a command
reports success, a query gives an empty response.
-/

namespace Scaffold

namespace Entity

variable (e : Entity)

/-- The file of a handler that uses the given folders of the service. -/
def handlerFile (solution : String) (folders : List Folder) (request : String)
    (response : ResponseType) (reply : Reply) : SourceFile where
  uses := "MediatR" :: folders.map (e.space solution)
  home := e.space solution .handlers
  classes :=
    [⟨true, handlerName request, some (.handler request response),
      [.handle request response reply]⟩]

/-- The handler of a command. -/
def commandHandlerFile (solution : String) (v : Verb) : SourceFile :=
  e.handlerFile solution [.commands] (e.commandName v) (.one (e.responseName v))
    (.success (e.name ++ " " ++ v.past ++ " successfully"))

/-- The handler of the query for one entity. -/
def byIdHandlerFile (solution : String) : SourceFile :=
  e.handlerFile solution [.dtos, .queries] e.byIdName (.one e.dtoName) .blank

/-- The handler of the query for all entities. -/
def allHandlerFile (solution : String) : SourceFile :=
  e.handlerFile solution [.dtos, .queries] e.allName (.many e.dtoName) .blank

end Entity

end Scaffold
