/-!
# YAML scalars

How a text without blanks is written as a YAML value. It stands for itself unless that would be
read as something else: then it is put in single quotes, in which only a quote is doubled. A text
with characters that cannot be printed is put in double quotes and those characters are escaped.

* `style_eq_double_iff`: double quotes are used exactly for texts with an unprintable character.
-/

namespace Scaffold.Yaml

/-- How a scalar is written. -/
inductive Style where
  | plain
  | single
  | double
  deriving DecidableEq, Repr

/-- Whether a character may be written as it is. -/
def isPrintable (c : Char) : Bool :=
  let n := c.toNat
  n == 0x0A || (0x20 ≤ n && n ≤ 0x7E) ||
    (0xA0 ≤ n && n != 0xFEFF && n != 0xFFFE && n != 0xFFFF)

/-- Words that are read as something other than a text, in any letter case. -/
def reservedWords : List String :=
  ["true", "false", "null", "nil", "~", "y", "yes", "n", "no", "on", "off", "nan"]

/-- Characters that mean something at the front of a value. -/
def indicators : List Char :=
  [',', '[', ']', '\x7b', '\x7d', '#', '&', '*', '!', '|', '>', '\'', '"', '%', '@', '\x60']

/-- Whether a value that starts like this could be read as a number, a date or a list entry. -/
def startsLikeNumber (c : Char) : Bool :=
  c.isDigit || c == '-' || c == '+' || c == '.'

/-- Whether a text would be read as something other than itself. -/
def isAmbiguous (s : List Char) : Bool :=
  reservedWords.contains (String.ofList (s.map Char.toLower)) ||
    (match s with
      | [] => true
      | c :: _ => startsLikeNumber c || indicators.contains c) ||
    s == ['?'] || s.getLast? == some ':'

/-- How a text is written. -/
def style (s : List Char) : Style :=
  if s.any (!isPrintable ·) then .double else if isAmbiguous s then .single else .plain

theorem style_eq_double_iff {s : List Char} :
    style s = .double ↔ ∃ c ∈ s, isPrintable c = false := by
  unfold style
  split
  · next h =>
    obtain ⟨c, hc, hp⟩ := List.any_eq_true.mp h
    exact ⟨fun _ => ⟨c, hc, by simpa using hp⟩, fun _ => rfl⟩
  · next h =>
    constructor
    · split <;> exact fun e => nomatch e
    · rintro ⟨c, hc, hp⟩
      exact absurd (List.any_eq_true.mpr ⟨c, hc, by simpa using hp⟩) h

/-- The digits of a code point in base sixteen, at the given width. -/
def hexDigits : Nat → Nat → List Char
  | 0, _ => []
  | width + 1, n =>
    let d := n / Nat.pow 16 width % 16
    (if d < 10 then Char.ofNat ('0'.toNat + d) else Char.ofNat ('A'.toNat + (d - 10))) ::
      hexDigits width n

/-- The letter that stands for a character behind a backslash, if there is one. -/
def escapeLetter? : Char → Option Char
  | '\x00' => some '0'
  | '\x07' => some 'a'
  | '\x08' => some 'b'
  | '\t' => some 't'
  | '\n' => some 'n'
  | '\x0b' => some 'v'
  | '\x0c' => some 'f'
  | '\r' => some 'r'
  | '\x1b' => some 'e'
  | '"' => some '"'
  | '\\' => some '\\'
  | '\u0085' => some 'N'
  | '\u2028' => some 'L'
  | '\u2029' => some 'P'
  | _ => none

/-- A character inside double quotes. -/
def escape (c : Char) : List Char :=
  match escapeLetter? c with
  | some letter => ['\\', letter]
  | none =>
    if isPrintable c then [c]
    else if c.toNat ≤ 0xFF then '\\' :: 'x' :: hexDigits 2 c.toNat
    else if c.toNat ≤ 0xFFFF then '\\' :: 'u' :: hexDigits 4 c.toNat
    else '\\' :: 'U' :: hexDigits 8 c.toNat

/-- A character inside single quotes. -/
def double (c : Char) : List Char := if c = '\'' then ['\'', '\''] else [c]

/-- A text as a YAML value. -/
def scalar (s : String) : String :=
  match style s.toList with
  | .plain => s
  | .single => "'" ++ String.ofList (s.toList.flatMap double) ++ "'"
  | .double => "\"" ++ String.ofList (s.toList.flatMap escape) ++ "\""

end Scaffold.Yaml
