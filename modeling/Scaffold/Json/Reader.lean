/-!
# Reading JSON into types

A reader takes what it needs from the front of a text and leaves the rest. It knows the type it
reads, so it can fail in three ways: the text ends too early, it is not JSON, or it is JSON of
another shape. What is met first while reading decides; a value of the wrong shape is still read
as far as it takes to tell whether it is JSON at all.

Records are read by their member names, in any order, or as arrays in the order of their fields.
Members that a record does not know are skipped: they have to be JSON, and nothing else is asked
of them.

Loops carry a number that bounds their rounds. Every round takes at least one character, and so
does every level of brackets, so a round for each character and one for the end of the text are
enough: a loop without rounds left has nothing left to read.
-/

namespace Scaffold.Json

/-- Why a text cannot be read. -/
inductive Failure where
  /-- The text is not JSON. -/
  | malformed
  /-- The text is JSON so far, but of another shape. -/
  | mismatched
  /-- The text ends too early. -/
  | truncated
  deriving DecidableEq, Repr

/-- A reader of one type. -/
abbrev Reader := StateT (List Char) (Except Failure)

namespace Reader

variable {α ρ : Type}

/-! ### Characters -/

/-- The blanks that may stand between parts. -/
def isSpace (c : Char) : Bool := c == ' ' || c == '\n' || c == '\t' || c == '\r'

/-- The next character behind blanks, which are taken. -/
def peek : Reader (Option Char) := fun s =>
  let s := s.dropWhile isSpace
  .ok (s.head?, s)

/-- Takes one character. -/
def skip : Reader Unit := fun s => .ok ((), s.tail)

/-- Takes the given characters. -/
def expect : List Char → Reader Unit
  | [] => pure ()
  | e :: es => fun s =>
    match s with
    | [] => .error .truncated
    | c :: s => if c = e then expect es s else .error .malformed

/-- Takes a run of digits. -/
def digits : Reader (List Char) := fun s =>
  .ok (s.takeWhile Char.isDigit, s.dropWhile Char.isDigit)

/-! ### Texts -/

/-- The value of a hexadecimal digit. -/
def hexValue? (c : Char) : Option Nat :=
  if '0' ≤ c ∧ c ≤ '9' then some (c.toNat - '0'.toNat)
  else if 'a' ≤ c ∧ c ≤ 'f' then some (c.toNat - 'a'.toNat + 10)
  else if 'A' ≤ c ∧ c ≤ 'F' then some (c.toNat - 'A'.toNat + 10)
  else none

/-- Takes four hexadecimal digits. Too few bytes for four are a text that ends early. -/
def codeUnit : Reader Nat := fun s =>
  match s with
  | a :: b :: c :: d :: s =>
    match hexValue? a, hexValue? b, hexValue? c, hexValue? d with
    | some a, some b, some c, some d => .ok (((a * 16 + b) * 16 + c) * 16 + d, s)
    | _, _, _, _ => .error .malformed
  | s => if (String.ofList s).utf8ByteSize < 4 then .error .truncated else .error .malformed

/-- Takes the character that an escape by number stands for. A character beyond the first 65536
is written as a pair of surrogates, which do not stand alone. -/
def numberedChar : Reader Char := do
  let high ← codeUnit
  if 0xDC00 ≤ high ∧ high ≤ 0xDFFF then throw .malformed
  if high < 0xD800 ∨ 0xDBFF < high then return Char.ofNat high
  expect ['\\', 'u']
  let low ← codeUnit
  if low < 0xDC00 ∨ 0xDFFF < low then throw .malformed
  return Char.ofNat (0x10000 + (high - 0xD800) * 0x400 + (low - 0xDC00))

/-- The character that a letter behind a backslash stands for. -/
def simpleEscape? : Char → Option Char
  | '"' => some '"'
  | '\\' => some '\\'
  | '/' => some '/'
  | 'b' => some '\x08'
  | 'f' => some '\x0c'
  | 'n' => some '\n'
  | 'r' => some '\r'
  | 't' => some '\t'
  | _ => none

/-- Takes one character of a text, or the quote that ends it. -/
def textChar : Reader (Option Char) := fun s =>
  match s with
  | [] => .error .truncated
  | '"' :: s => .ok (none, s)
  | '\\' :: 'u' :: s => (some <$> numberedChar) s
  | '\\' :: c :: s =>
    match simpleEscape? c with
    | some d => .ok (some d, s)
    | none => .error .malformed
  | ['\\'] => .error .truncated
  | c :: s => if c.toNat < 0x20 then .error .malformed else .ok (some c, s)

/-- Takes the characters of a text and the quote that ends it, in at most `n` rounds. -/
def textBody : Nat → Reader (List Char)
  | 0 => throw .truncated
  | n + 1 => do
    match ← textChar with
    | none => return []
    | some c => return c :: (← textBody n)

/-- Takes the rest of a text whose opening quote has been taken. -/
def quoted : Reader String := fun s => (String.ofList <$> textBody (s.length + 1)) s

/-! ### Numbers -/

/-- The largest count. -/
def countLimit : Nat := 0xFFFFFFFFFFFFFFFF

/-- The value of a digit. -/
def digitValue (c : Char) : Nat := c.toNat - '0'.toNat

/-- Puts digits behind a significand as long as it stays a count. Gives the significand and how
many digits are left over. -/
def absorb : Nat → List Char → Nat × Nat
  | significand, [] => (significand, 0)
  | significand, c :: cs =>
    let next := significand * 10 + digitValue c
    if next ≤ countLimit then absorb next cs else (significand, cs.length + 1)

/-- A number rounded to 53 binary digits, a tie to the even neighbour. -/
def roundTo53 (n : Nat) : Nat :=
  if n < 1 <<< 53 then n
  else
    let shift := n.log2 - 52
    let kept := n >>> shift
    let dropped := n % (1 <<< shift)
    let half := 1 <<< (shift - 1)
    let up := dropped > half ∨ (dropped = half ∧ kept % 2 = 1)
    (if up then kept + 1 else kept) <<< shift

/-- The first number that is too large to round to a floating-point number. -/
def floatLimit : Nat := (1 <<< 1024) - (1 <<< 970)

/-- Whether a significand with an exponent of ten is beyond the largest floating-point number. -/
def beyondRange (significand : Nat) (exponent : Int) : Bool :=
  significand ≠ 0 && exponent > 0 &&
    (exponent > 308 ||
      decide (floatLimit ≤ roundTo53 significand * roundTo53 (Nat.pow 10 exponent.toNat)))

/-- Takes an exponent behind its letter and checks the range of the number. -/
def exponent (significand : Nat) (start : Int) : Reader Unit := do
  let isNegative ← fun s =>
    match s with
    | '-' :: s => .ok (true, s)
    | '+' :: s => .ok (false, s)
    | s => .ok (false, s)
  let ds ← digits
  if ds.isEmpty then
    let s ← get
    throw (if s.isEmpty then .truncated else .malformed)
  let size : Int := ds.foldl (fun n c => n * 10 + digitValue c) 0
  if beyondRange significand (if isNegative then start - size else start + size) then
    throw .malformed

/-- Takes a number whose sign has been taken. Gives it if it is a count, that is, without
fraction and exponent and not too large. -/
def unsigned : Reader (Option Nat) := do
  let ds ← digits
  match ds with
  | [] =>
    let s ← get
    throw (if s.isEmpty then .truncated else .malformed)
  | '0' :: _ :: _ => throw .malformed
  | ds =>
    let (significand, extra) := absorb 0 ds
    match ← get with
    | '.' :: s =>
      set s
      let fraction ← digits
      if fraction.isEmpty then
        let s ← get
        throw (if s.isEmpty then .truncated else .malformed)
      let (precise, unused) := absorb significand fraction
      let start : Int := extra - (fraction.length - unused : Nat)
      match ← get with
      | c :: s =>
        if c = 'e' ∨ c = 'E' then
          set s
          exponent precise start
        else if beyondRange precise start then throw .malformed
      | [] => if beyondRange precise start then throw .malformed
      return none
    | c :: s =>
      if c = 'e' ∨ c = 'E' then
        set s
        exponent significand extra
        return none
      else if beyondRange significand extra then throw .malformed
      else return if extra = 0 then some significand else none
    | [] =>
      if beyondRange significand extra then throw .malformed
      return if extra = 0 then some significand else none

/-! ### Values of any shape -/

/-- Takes a value of which only the first character is looked at and which has the wrong shape
if it is one at all. -/
def mismatch : Reader α := do
  match ← peek with
  | some 'n' => expect "null".toList
  | some 't' => expect "true".toList
  | some 'f' => expect "false".toList
  | some '"' => skip; discard quoted
  | some '-' => skip; discard unsigned
  | some '[' => pure ()
  | some '\x7b' => pure ()
  | some c => if c.isDigit then discard unsigned else throw .malformed
  | none => throw .malformed
  throw .mismatched

/-- Skips the rest of a text, in at most `n` rounds. Escapes by number need not be characters. -/
def skipTextBody : Nat → Reader Unit
  | 0 => throw .truncated
  | n + 1 => fun s =>
    match s with
    | [] => .error .truncated
    | '"' :: s => .ok ((), s)
    | '\\' :: 'u' :: s => (do discard codeUnit; skipTextBody n) s
    | '\\' :: c :: s => if (simpleEscape? c).isSome then skipTextBody n s else .error .malformed
    | ['\\'] => .error .truncated
    | c :: s => if c.toNat < 0x20 then .error .malformed else skipTextBody n s

/-- Skips the rest of a text whose opening quote has been taken. -/
def skipText : Reader Unit := fun s => skipTextBody (s.length + 1) s

/-- Skips a run of digits, of which there has to be one. -/
def skipDigits : Reader Unit := do
  if (← digits).isEmpty then throw .malformed

/-- Skips an exponent if there is one. -/
def skipExponent : Reader Unit := fun s =>
  match s with
  | c :: s' =>
    if c = 'e' ∨ c = 'E' then
      match s' with
      | '+' :: s => skipDigits s
      | '-' :: s => skipDigits s
      | s => skipDigits s
    else .ok ((), s)
  | [] => .ok ((), s)

/-- Skips a number whose sign has been taken. Its size does not matter. -/
def skipNumber : Reader Unit := do
  match ← digits with
  | [] => throw .malformed
  | '0' :: _ :: _ => throw .malformed
  | _ =>
    match ← get with
    | '.' :: s =>
      set s
      skipDigits
      skipExponent
    | _ => skipExponent

/-- Takes the colon between the name and the value of a member. -/
def colon : Reader Unit := do
  match ← peek with
  | some ':' => skip
  | some _ => throw .malformed
  | none => throw .truncated

/-- What a bracket opens. -/
inductive Nesting where
  | array
  | object
  deriving DecidableEq, Repr

/-- The bracket at the end. -/
def Nesting.closing : Nesting → Char
  | .array => ']'
  | .object => '\x7d'

/-- Skips a value. `inside` skips what a bracket opens, up to the bracket at its end. -/
def skipValueWith (inside : Nesting → Reader Unit) : Reader Unit := do
  match ← peek with
  | none => throw .truncated
  | some 'n' => expect "null".toList
  | some 't' => expect "true".toList
  | some 'f' => expect "false".toList
  | some '"' => skip; skipText
  | some '-' => skip; skipNumber
  | some '[' => skip; inside .array
  | some '\x7b' => skip; inside .object
  | some c => if c.isDigit then skipNumber else throw .malformed

/-- Skips the name of a member and the colon behind it. -/
def skipName : Reader Unit := do
  match ← peek with
  | some '"' => skip
  | some _ => throw .malformed
  | none => throw .truncated
  skipText
  colon

/-- Skips the rest of an array or an object, in at most `n` rounds and as many levels below it;
`first` says that nothing in it has been skipped yet. -/
def skipInside : Nat → Bool → Nesting → Reader Unit
  | 0, _, _ => throw .truncated
  | n + 1, first, nesting => do
    match ← peek with
    | none => throw .truncated
    | some c =>
      if c = nesting.closing then skip
      else
        if !first then
          if c = ',' then skip else throw .malformed
        if nesting = .object then skipName
        skipValueWith (skipInside n true)
        skipInside n false nesting

/-- Skips a value of any shape. -/
def skipValue : Reader Unit := fun s => skipValueWith (skipInside (s.length + 1) true) s

/-! ### Values of a known shape -/

/-- Takes a text. -/
def text : Reader String := do
  match ← peek with
  | some '"' => skip; quoted
  | some _ => mismatch
  | none => throw .truncated

/-- Takes a count. -/
def count : Reader Nat := do
  match ← peek with
  | some '-' => mismatch
  | some c =>
    if c.isDigit then
      match ← unsigned with
      | some n => return n
      | none => throw .mismatched
    else mismatch
  | none => throw .truncated

/-- Takes a truth value. -/
def bool : Reader Bool := do
  match ← peek with
  | some 't' => expect "true".toList; return true
  | some 'f' => expect "false".toList; return false
  | some _ => mismatch
  | none => throw .truncated

/-- Takes `null`. -/
def null : Reader Unit := do
  match ← peek with
  | some 'n' => expect "null".toList
  | some _ => mismatch
  | none => throw .truncated

/-- Takes `null` as nothing, and otherwise a value. -/
def optional (read : Reader α) : Reader (Option α) := do
  match ← peek with
  | some 'n' => expect "null".toList; return none
  | _ => some <$> read

/-- Whether another item of an array follows; a comma in front of it is taken. The bracket at the
end is left. -/
def hasItem (first : Bool) : Reader Bool := do
  match ← peek with
  | none => throw .truncated
  | some ']' => return false
  | some c =>
    if first then return true
    if c ≠ ',' then throw .malformed
    skip
    match ← peek with
    | none => throw .truncated
    | some ']' => throw .malformed
    | some _ => return true

/-- Takes the bracket at the end of an array. -/
def endArray : Reader Unit := do
  match ← peek with
  | some ']' => skip
  | some _ => throw .malformed
  | none => throw .truncated

/-- Takes the items of an array, at most `n`. -/
def items (read : Reader α) : Nat → Bool → Reader (List α)
  | 0, _ => throw .truncated
  | n + 1, first => do
    if ← hasItem first then
      let a ← read
      return a :: (← items read n false)
    else return []

/-- Takes an array. -/
def list (read : Reader α) : Reader (List α) := do
  match ← peek with
  | some '[' =>
    skip
    let xs ← fun s => items read (s.length + 1) true s
    endArray
    return xs
  | some _ => mismatch
  | none => throw .truncated

/-! ### Records -/

/-- A field of a record that is put together in `ρ`. -/
structure Field (ρ : Type) where
  name : String
  /-- Whether the field has been read. -/
  isSet : ρ → Bool
  /-- Reads the field. -/
  read : ρ → Reader ρ

/-- Whether another member of an object follows; a comma in front of it is taken. The brace at
the end is left. -/
def hasMember (first : Bool) : Reader Bool := do
  match ← peek with
  | none => throw .truncated
  | some '\x7d' => return false
  | some c =>
    if first then
      if c = '"' then return true else throw .malformed
    if c ≠ ',' then throw .malformed
    skip
    match ← peek with
    | some '"' => return true
    | some _ => throw .malformed
    | none => throw .truncated

/-- Takes the members of an object, at most `n`. A field must not occur twice. -/
def members (fields : List (Field ρ)) : Nat → Bool → ρ → Reader ρ
  | 0, _, _ => throw .truncated
  | n + 1, first, r => do
    if ← hasMember first then
      let name ← text
      match fields.find? (·.name == name) with
      | some field =>
        if field.isSet r then throw .mismatched
        colon
        members fields n false (← field.read r)
      | none =>
        colon
        skipValue
        members fields n false r
    else return r

/-- Takes the fields of a record from an array. -/
def positional : List (Field ρ) → Bool → ρ → Reader ρ
  | [], _, r => pure r
  | field :: fields, first, r => do
    if ← hasItem first then
      positional fields false (← field.read r)
    else throw .mismatched

/-- Takes a record: its members in any order, or its fields in their order. `complete` gives the
record unless a field is missing. -/
def record (fields : List (Field ρ)) (empty : ρ) (complete : ρ → Option α) : Reader α := do
  match ← peek with
  | some '\x7b' =>
    skip
    let r ← fun s => members fields (s.length + 1) true empty s
    match complete r with
    | some a => skip; return a
    | none => throw .mismatched
  | some '[' =>
    skip
    let r ← positional fields true empty
    match complete r with
    | some a => endArray; return a
    | none => throw .mismatched
  | some _ => mismatch
  | none => throw .truncated

/-! ### Alternatives -/

/-- One of several shapes, told apart by a name. -/
structure Alternative (α : Type) where
  name : String
  /-- The value of the bare name, if the name alone is a value. -/
  bare : Option α
  /-- Reads what the name stands in front of. -/
  content : Reader α

/-- Takes one of the alternatives: a name alone, or an object with the name as its one member. -/
def choice (alternatives : List (Alternative α)) : Reader α := do
  match ← peek with
  | some '\x7b' =>
    skip
    let name ← text
    match alternatives.find? (·.name == name) with
    | none => throw .mismatched
    | some alternative =>
      colon
      let a ← alternative.content
      match ← peek with
      | some '\x7d' => skip; return a
      | some _ => throw .malformed
      | none => throw .truncated
  | some '"' =>
    let name ← text
    match (alternatives.find? (·.name == name)).bind (·.bare) with
    | some a => return a
    | none => throw .mismatched
  | some _ => throw .malformed
  | none => throw .truncated

/-- Reads a whole text, blanks around it apart. -/
def run (read : Reader α) (s : String) : Except Failure α := do
  let (a, s) ← read s.toList
  match s.dropWhile isSpace with
  | [] => return a
  | _ :: _ => throw .malformed

end Reader

end Scaffold.Json
