import Scaffold.Family.Handlers
import Scaffold.Family.Validators

/-!
# The family of an entity

All files that are generated for an entity, in the order in which they are written: commands,
queries, the class that carries the entity, validators, handlers. The family depends on the
solution and the entity only.

* `family_length`: there are fourteen.
-/

namespace Scaffold

/-- A file of the family before it is written down: its folder, the name it is filed under, and
its contents. -/
structure Draft where
  folder : Folder
  title : String
  source : SourceFile
  deriving DecidableEq, Repr

/-- The artifact that a draft becomes. -/
def Draft.artifact (d : Draft) : Artifact :=
  ⟨d.folder, d.title ++ "." ++ Artifact.extension, d.source.text⟩

namespace Entity

/-- The drafts of the family. -/
def drafts (solution : String) (e : Entity) : List Draft :=
  [⟨.commands, e.commandName .create, e.commandFile solution .create⟩,
   ⟨.commands, e.commandName .update, e.commandFile solution .update⟩,
   ⟨.commands, e.commandName .delete, e.commandFile solution .delete⟩,
   ⟨.queries, e.byIdName, e.byIdFile solution⟩,
   ⟨.queries, e.allName, e.allFile solution⟩,
   ⟨.dtos, e.dtoName, e.dtoFile solution⟩,
   ⟨.validators, validatorName (e.commandName .create), e.createValidatorFile solution⟩,
   ⟨.validators, validatorName (e.commandName .update), e.updateValidatorFile solution⟩,
   ⟨.validators, validatorName e.byIdName, e.byIdValidatorFile solution⟩,
   ⟨.handlers, handlerName (e.commandName .create), e.commandHandlerFile solution .create⟩,
   ⟨.handlers, handlerName (e.commandName .update), e.commandHandlerFile solution .update⟩,
   ⟨.handlers, handlerName (e.commandName .delete), e.commandHandlerFile solution .delete⟩,
   ⟨.handlers, handlerName e.byIdName, e.byIdHandlerFile solution⟩,
   ⟨.handlers, handlerName e.allName, e.allHandlerFile solution⟩]

/-- The artifacts generated for an entity. -/
def family (solution : String) (e : Entity) : List Artifact :=
  (e.drafts solution).map Draft.artifact

theorem family_length (solution : String) (e : Entity) : (e.family solution).length = 14 := rfl

end Entity

end Scaffold
