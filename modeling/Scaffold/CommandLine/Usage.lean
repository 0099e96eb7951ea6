import Scaffold.CommandLine

/-!
# Usage of a program

The usage names every switch with its description. Descriptions stand in a column of their own and
are broken between words where a line would become too long.

* `wrap_append`: breaking into lines loses no word and keeps their order.
-/

namespace Scaffold.CommandLine

/-- Where the column of descriptions begins. -/
def descriptionColumn : Nat := 24

/-- How many characters a line of a description has at most. -/
def descriptionWidth : Nat := 54

/-- Some words with a blank between each two. -/
def spaced (words : List String) : String := " ".intercalate words

/-- Breaks words into lines. A word goes on the current line as long as there is room for it. -/
def wrap (width : Nat) : List String → List String → List (List String)
  | line, [] => if line.isEmpty then [] else [line]
  | line, word :: words =>
    if line.isEmpty || (spaced (line ++ [word])).length ≤ width then
      wrap width (line ++ [word]) words
    else line :: wrap width [word] words

theorem wrap_append (width : Nat) (line words : List String) :
    (wrap width line words).flatten = line ++ words := by
  induction words generalizing line with
  | nil => by_cases h : line = [] <;> simp [wrap, h]
  | cons word words ih =>
    rw [wrap]
    split
    · rw [ih]; simp
    · rw [List.flatten_cons, ih]; simp

/-- As many blanks. -/
def blankRun (n : Nat) : String := String.ofList (List.replicate n ' ')

/-- The line break that leads to the column of descriptions. -/
def continuation : String := "\n" ++ blankRun descriptionColumn

namespace Switch

/-- The description of a switch, with its lines broken. -/
def brokenDescription (switch : Switch) : String :=
  continuation.intercalate <|
    (wrap descriptionWidth [] (switch.description.splitOn " ")).map spaced

/-- The row of a switch in the usage. -/
def row (letter : Option String) (switch : Switch) : String :=
  let names := "    " ++ letter.elim "    " (fun l => "-" ++ l ++ ", ") ++ "-" ++ switch.name ++ " "
  let gap :=
    if names.length < descriptionColumn then blankRun (descriptionColumn - names.length)
    else continuation
  names ++ gap ++ switch.brokenDescription ++ "\n"

end Switch

/-- The usage of a program. -/
def Manual.usage (manual : Manual) : String :=
  manual.brief ++ "\n\nOptions:\n" ++ help.row (some helpLetter) ++
    String.join (manual.switches.map (·.row none))

end Scaffold.CommandLine
