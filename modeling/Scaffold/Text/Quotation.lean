import Scaffold.Text.Invisible

/-!
# Quotations

A text is quoted so that a reader can tell exactly which characters it consists of: quotes,
backslashes and the common controls are escaped by a letter, invisible characters by their number.

* `quotation`, `listing`: a text in quotes, and several of them in brackets.
-/

namespace Scaffold.Text

namespace Quotation

/-- The number of a character in base sixteen. -/
def numberEscape (c : Char) : List Char :=
  '\\' :: 'u' :: '\x7b' :: Nat.toDigits 16 c.toNat ++ ['\x7d']

/-- A character inside quotes. -/
def escape (c : Char) : List Char :=
  match c with
  | '\x00' => ['\\', '0']
  | '\t' => ['\\', 't']
  | '\n' => ['\\', 'n']
  | '\r' => ['\\', 'r']
  | '"' => ['\\', '"']
  | '\\' => ['\\', '\\']
  | c => if isInvisible c then numberEscape c else [c]

end Quotation

/-- A text in quotes. -/
def quotation (s : String) : String :=
  "\"" ++ String.ofList (s.toList.flatMap Quotation.escape) ++ "\""

/-- Several texts, each in quotes, in brackets. -/
def listing (texts : List String) : String :=
  "[" ++ ", ".intercalate (texts.map quotation) ++ "]"

end Scaffold.Text
