/-!
# Generated source files

A generated file is described before it is written down: which namespaces it uses, which one it
declares, and its classes with what they derive from and what they contain. Writing it down gives
a list of lines; the content of an artifact is those lines, each ended by a newline.

* `unlines_append`: the text of lines is put together line by line.
* `SourceFile.lines`, `ClassDecl.lines`, `Member.lines`: how each part is laid out.
-/

namespace Scaffold

/-- The text of some lines, each ended by a newline. -/
def unlines : List String → String
  | [] => ""
  | line :: lines => line ++ "\n" ++ unlines lines

theorem unlines_append (xs ys : List String) : unlines (xs ++ ys) = unlines xs ++ unlines ys := by
  induction xs with
  | nil => simp [unlines]
  | cons x xs ih => simp [unlines, ih, String.append_assoc]

/-! ### Types -/

/-- A type that answers a request. -/
inductive ResponseType where
  | one (name : String)
  | many (name : String)
  deriving DecidableEq, Repr

/-- The type as it is written. -/
def ResponseType.text : ResponseType → String
  | .one name => name
  | .many name => "List<" ++ name ++ ">"

/-- What a class derives from. -/
inductive Base where
  /-- A request with its response. -/
  | request (response : ResponseType)
  /-- A validator of a request. -/
  | validator (target : String)
  /-- A handler of a request with the response it gives. -/
  | handler (request : String) (response : ResponseType)
  deriving DecidableEq, Repr

/-- The base as it is written. -/
def Base.text : Base → String
  | .request response => "IRequest<" ++ response.text ++ ">"
  | .validator target => "AbstractValidator<" ++ target ++ ">"
  | .handler asked response =>
    "IRequestHandler<" ++ asked ++ ", " ++ response.text ++ ">"

/-! ### Members -/

/-- The rules on one member of a validated class, as the calls that state them. -/
structure RuleChain where
  member : String
  calls : List String
  deriving DecidableEq, Repr

/-- The lines of a chain: one call a line, a semicolon behind the last. -/
def RuleChain.lines (chain : RuleChain) : List String :=
  let opening := "        RuleFor(x => x." ++ chain.member ++ ")"
  close (opening :: chain.calls.map ("            " ++ ·))
where
  /-- Puts a semicolon behind the last line. -/
  close : List String → List String
    | [] => []
    | [line] => [line ++ ";"]
    | line :: lines => line :: close lines

/-- What a generated handler answers. -/
inductive Reply where
  /-- A response that reports success. -/
  | success (message : String)
  /-- An empty response. -/
  | blank
  deriving DecidableEq, Repr

/-- The statements that answer with a response of the given type. -/
def Reply.lines (response : ResponseType) : Reply → List String
  | .success message =>
    ["        var response = new " ++ response.text,
     "        \x7b",
     "            Success = true,",
     "            Message = \"" ++ message ++ "\"",
     "        \x7d;",
     "",
     "        return Task.FromResult(response);"]
  | .blank => ["        return Task.FromResult(new " ++ response.text ++ "());"]

/-- A member of a generated class. -/
inductive Member where
  /-- A property with accessors, and an initializer if it has one. -/
  | field (type name : String) (initial : Option String)
  /-- A constructor that states rules. -/
  | rules (className : String) (chains : List RuleChain)
  /-- The method that handles a request. -/
  | handle (request : String) (response : ResponseType) (reply : Reply)
  deriving DecidableEq, Repr

/-- A property without initializer. -/
def Member.plain (type name : String) : Member := .field type name none

/-- The lines of a member. -/
def Member.lines : Member → List String
  | .field type name initial =>
    let accessors := "    public " ++ type ++ " " ++ name ++ " \x7b get; set; \x7d"
    match initial with
    | none => [accessors]
    | some value => [accessors ++ " = " ++ value ++ ";"]
  | .rules className chains =>
    ["    public " ++ className ++ "()", "    \x7b"] ++
      List.intercalate [""] (chains.map RuleChain.lines) ++ ["    \x7d"]
  | .handle request response reply =>
    ["    public Task<" ++ response.text ++ "> Handle(" ++ request ++
        " request, CancellationToken cancellationToken)",
      "    \x7b"] ++ reply.lines response ++ ["    \x7d"]

/-! ### Classes and files -/

/-- A generated class. -/
structure ClassDecl where
  isSealed : Bool
  name : String
  base : Option Base
  members : List Member
  deriving DecidableEq, Repr

/-- The line that declares a class. -/
def ClassDecl.header (c : ClassDecl) : String :=
  (if c.isSealed then "public sealed class " else "public class ") ++ c.name ++
    (match c.base with
      | none => ""
      | some base => " : " ++ base.text)

/-- The lines of a class. -/
def ClassDecl.lines (c : ClassDecl) : List String :=
  [c.header, "\x7b"] ++ c.members.flatMap Member.lines ++ ["\x7d"]

/-- A generated file: the namespaces it uses, the one it declares, and its classes. -/
structure SourceFile where
  uses : List String
  home : String
  classes : List ClassDecl
  deriving DecidableEq, Repr

/-- The line that opens a namespace for use. -/
def useLine (space : String) : String := "using " ++ space ++ ";"

/-- The line that declares the namespace of a file. -/
def homeLine (space : String) : String := "namespace " ++ space ++ ";"

/-- The lines of a file. The parts are set off by empty lines. -/
def SourceFile.lines (f : SourceFile) : List String :=
  (if f.uses.isEmpty then [] else f.uses.map useLine ++ [""]) ++
    [homeLine f.home, ""] ++ List.intercalate [""] (f.classes.map ClassDecl.lines)

/-- The content of a file. -/
def SourceFile.text (f : SourceFile) : String := unlines f.lines

end Scaffold
