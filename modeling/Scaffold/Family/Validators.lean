import Scaffold.Family.Requests

/-!
# Validators

A validator states the rules on the members of one request. Create and update state the rules of
every property that is not a key candidate; whatever names an entity asks for its key.
-/

namespace Scaffold

/-- The rules on a property, as a validator states them. -/
def Property.chain (p : Property) : RuleChain := ⟨p.name, p.rules.flatMap Rule.calls⟩

namespace Entity

variable (e : Entity)

/-- The rule on the key. -/
def keyChain : RuleChain := ⟨e.key.name, Rule.notEmpty.calls⟩

/-- The rules on every property that is not a key candidate. -/
def propertyChains : List RuleChain := e.nonKey.map Property.chain

/-- The file of a validator of a request that is declared in `folder`. -/
def validatorFile (solution : String) (folder : Folder) (request : String)
    (chains : List RuleChain) : SourceFile where
  uses := ["FluentValidation", e.space solution folder]
  home := e.space solution .validators
  classes :=
    [⟨false, validatorName request, some (.validator request),
      [.rules (validatorName request) chains]⟩]

/-- The validator of the create command. -/
def createValidatorFile (solution : String) : SourceFile :=
  e.validatorFile solution .commands (e.commandName .create) e.propertyChains

/-- The validator of the update command. -/
def updateValidatorFile (solution : String) : SourceFile :=
  e.validatorFile solution .commands (e.commandName .update) (e.keyChain :: e.propertyChains)

/-- The validator of the query for one entity. -/
def byIdValidatorFile (solution : String) : SourceFile :=
  e.validatorFile solution .queries e.byIdName [e.keyChain]

end Entity

end Scaffold
