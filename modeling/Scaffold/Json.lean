/-!
# JSON values and their texts

The values that are written as JSON, and two ways of writing them: on one line without blanks, and
over several lines, indented by two blanks a level.

* `quote`: a text in quotes. Quotes, backslashes and control characters are escaped, everything
  else stands for itself.
* `no_newline_quote`: a quoted text has no line break in it.
-/

namespace Scaffold

/-- A JSON value. Numbers are counts. -/
inductive Json where
  | null
  | bool (b : Bool)
  | number (n : Nat)
  | text (s : String)
  | array (items : List Json)
  | object (members : List (String × Json))

namespace Json

/-- A digit of a hexadecimal number. -/
def hexDigit (n : Nat) : Char :=
  if n < 10 then Char.ofNat ('0'.toNat + n) else Char.ofNat ('a'.toNat + (n - 10))

/-- A character inside quotes. -/
def escape (c : Char) : List Char :=
  match c with
  | '"' => ['\\', '"']
  | '\\' => ['\\', '\\']
  | '\x08' => ['\\', 'b']
  | '\x0c' => ['\\', 'f']
  | '\n' => ['\\', 'n']
  | '\r' => ['\\', 'r']
  | '\t' => ['\\', 't']
  | c =>
    if c.toNat < 0x20 then
      ['\\', 'u', '0', '0', hexDigit (c.toNat / 16), hexDigit (c.toNat % 16)]
    else [c]

/-- A text in quotes. -/
def quote (s : String) : String := "\"" ++ String.ofList (s.toList.flatMap escape) ++ "\""

theorem newline_not_mem_escape (c : Char) : '\n' ∉ escape c := by
  unfold escape
  split <;> try decide
  next h _ _ =>
    split
    · next hc =>
      have : ∀ n < 0x20, '\n' ∉ ['\\', 'u', '0', '0', hexDigit (n / 16), hexDigit (n % 16)] := by
        decide
      exact this _ hc
    · simp only [List.mem_singleton]
      exact fun e => h e.symm

/-- A quoted text stays on one line. -/
theorem no_newline_quote (s : String) : '\n' ∉ (quote s).toList := by
  simp only [quote, String.toList_append, String.toList_ofList, List.mem_append,
    List.mem_flatMap, not_or]
  exact ⟨⟨by decide, fun ⟨c, _, hc⟩ => newline_not_mem_escape c hc⟩, by decide⟩

/-! ### On one line -/

mutual

/-- A value on one line. -/
def compact : Json → String
  | .null => "null"
  | .bool true => "true"
  | .bool false => "false"
  | .number n => toString n
  | .text s => quote s
  | .array items => "[" ++ compactItems items ++ "]"
  | .object members => "\x7b" ++ compactMembers members ++ "\x7d"

/-- Values with commas between them. -/
def compactItems : List Json → String
  | [] => ""
  | [v] => v.compact
  | v :: w :: vs => v.compact ++ "," ++ compactItems (w :: vs)

/-- Members with commas between them. -/
def compactMembers : List (String × Json) → String
  | [] => ""
  | [(k, v)] => quote k ++ ":" ++ v.compact
  | (k, v) :: m :: ms => quote k ++ ":" ++ v.compact ++ "," ++ compactMembers (m :: ms)

end

/-! ### Over several lines -/

/-- A line break followed by the indentation of a level. -/
def lineBreak (level : Nat) : String := "\n" ++ String.ofList (List.replicate (2 * level) ' ')

mutual

/-- A value over several lines, at a level of indentation. Empty lists stay on one line. -/
def prettyAt (level : Nat) : Json → String
  | .null => "null"
  | .bool true => "true"
  | .bool false => "false"
  | .number n => toString n
  | .text s => quote s
  | .array [] => "[]"
  | .array (v :: vs) =>
    "[" ++ lineBreak (level + 1) ++ prettyItems (level + 1) (v :: vs) ++ lineBreak level ++ "]"
  | .object [] => "\x7b\x7d"
  | .object (m :: ms) =>
    "\x7b" ++ lineBreak (level + 1) ++ prettyMembers (level + 1) (m :: ms) ++ lineBreak level ++
      "\x7d"

/-- Values on lines of their own, with commas between them. -/
def prettyItems (level : Nat) : List Json → String
  | [] => ""
  | [v] => v.prettyAt level
  | v :: w :: vs => v.prettyAt level ++ "," ++ lineBreak level ++ prettyItems level (w :: vs)

/-- Members on lines of their own, with commas between them. -/
def prettyMembers (level : Nat) : List (String × Json) → String
  | [] => ""
  | [(k, v)] => quote k ++ ": " ++ v.prettyAt level
  | (k, v) :: m :: ms =>
    quote k ++ ": " ++ v.prettyAt level ++ "," ++ lineBreak level ++ prettyMembers level (m :: ms)

end

/-- A value over several lines. -/
def pretty (v : Json) : String := v.prettyAt 0

end Json

end Scaffold
