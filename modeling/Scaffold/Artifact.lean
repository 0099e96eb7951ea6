import Scaffold.Path

/-!
# Artifacts

An artifact is one generated source file: the folder it belongs to, its file name and its
content. Where an artifact ends up below a service root is decided here, once for every place
that keeps artifacts.
-/

namespace Scaffold

/-- The folders of a service, one for each kind of artifact. -/
inductive Folder where
  | commands
  | queries
  | dtos
  | validators
  | handlers
  deriving DecidableEq, Repr

namespace Folder

/-- Every folder, in the order in which they are made. -/
def all : List Folder := [.commands, .queries, .dtos, .validators, .handlers]

/-- The name of the folder. -/
def name : Folder → String
  | .commands => "Commands"
  | .queries => "Queries"
  | .dtos => "DTOs"
  | .validators => "Validators"
  | .handlers => "Handlers"

/-- The folder with the given name. -/
def ofName? (s : String) : Option Folder := all.find? (·.name == s)

theorem mem_all (f : Folder) : f ∈ all := by cases f <;> decide

theorem name_injective : ∀ {f g : Folder}, f.name = g.name → f = g := by
  intro f g; cases f <;> cases g <;> decide

/-- The directory of the folder below a service root. -/
def under (f : Folder) (root : Path) : Path := root.join ⟨f.name⟩

end Folder

/-- A generated source file. -/
structure Artifact where
  folder : Folder
  fileName : String
  content : String
  deriving DecidableEq, Repr

/-- The extension of every artifact. -/
def Artifact.extension : String := "cs"

/-- The place of an artifact relative to its service root. -/
def Artifact.relativePath (a : Artifact) : Path := ⟨a.folder.name ++ "/" ++ a.fileName⟩

/-- The place of an artifact below a service root. -/
def Artifact.under (a : Artifact) (root : Path) : Path :=
  (a.folder.under root).join ⟨a.fileName⟩

end Scaffold
