import Scaffold.Instant
import Scaffold.Text.Blank

/-!
# Instants as text

Instants are written by RFC 3339 in universal time: date, `T`, time of day, `Z`. Fractions of a
second have as many digits as are needed, three at a time; a year of other than four digits gets
a sign; a leap second is the second 60.

Reading accepts more: blanks around the parts, parts without leading zeros, a blank or a small
letter between date and time, any number of digits in the fraction, and, in place of `Z`, the
letters `UTC` or an offset in hours and minutes, which is taken off.

* `Instant.text`, `Instant.ofText?`: writing and reading.
-/

namespace Scaffold

open Calendar (Date)

/-! ### Writing -/

/-- A number in decimal digits. -/
def decimal (n : Nat) : List Char := Nat.toDigits 10 n

/-- A number in decimal digits, with zeros in front up to a width. -/
def padded (width n : Nat) : List Char :=
  List.replicate (width - (decimal n).length) '0' ++ decimal n

namespace Instant

/-- A year: four digits, or a sign and at least four digits. -/
def yearText (year : Int) : List Char :=
  if 0 ≤ year ∧ year ≤ 9999 then padded 4 year.toNat
  else (if year < 0 then '-' else '+') :: padded 4 year.natAbs

/-- The fraction of a second: nothing, or a point and three, six or nine digits. -/
def fractionText (nanos : Nat) : List Char :=
  if nanos = 0 then []
  else if nanos % 1000000 = 0 then '.' :: padded 3 (nanos / 1000000)
  else if nanos % 1000 = 0 then '.' :: padded 6 (nanos / 1000)
  else '.' :: padded 9 nanos

/-- An instant in universal time. -/
def text (t : Instant) : String :=
  let date := Date.ofDayNumber (t.seconds / secondsInDay)
  let second := (t.seconds % secondsInDay).toNat
  let leap := t.nanos / nanosInSecond
  String.ofList <|
    yearText date.year ++ '-' :: padded 2 date.month ++ '-' :: padded 2 date.day ++
    'T' :: padded 2 (second / 3600) ++ ':' :: padded 2 (second / 60 % 60) ++
    ':' :: padded 2 (second % 60 + leap) ++ fractionText (t.nanos % nanosInSecond) ++ ['Z']

/-! ### Reading -/

/-- The value of a run of digits. -/
def digitsValue (ds : List Char) : Nat :=
  ds.foldl (fun n c => n * 10 + (c.toNat - '0'.toNat)) 0

/-- A number of at least one digit and at most `width` digits in front, and what follows. It has
to fit into 64 bits with a sign. -/
def number? (width : Nat) (s : List Char) : Option (Nat × List Char) :=
  let ds := (s.take width).takeWhile Char.isDigit
  let n := digitsValue ds
  if ds.isEmpty || n ≥ wordLimit then none else some (n, s.drop ds.length)

/-- A number of two digits or one, behind blanks. -/
def part? (s : List Char) : Option (Nat × List Char) := number? 2 (Text.trimStart s)

/-- A year, behind blanks. With a sign it may have any number of digits, without one four. -/
def year? (s : List Char) : Option (Int × List Char) :=
  match Text.trimStart s with
  | '-' :: s => (number? s.length s).map fun (n, s) => (-(n : Int), s)
  | '+' :: s => (number? s.length s).map fun (n, s) => ((n : Int), s)
  | s => (number? 4 s).map fun (n, s) => ((n : Int), s)

/-- What follows a mark, which may stand behind blanks. -/
def mark? (c : Char) (s : List Char) : Option (List Char) :=
  match Text.trimStart s with
  | d :: s => if d = c then some s else none
  | [] => none

/-- The nanoseconds that a fraction stands for. Digits beyond the ninth are read over. -/
def fraction? (s : List Char) : Option (Nat × List Char) :=
  match s with
  | '.' :: s => do
    let (n, rest) ← number? 9 s
    let used := s.length - rest.length
    return (n * Nat.pow 10 (9 - used), rest.dropWhile Char.isDigit)
  | s => some (0, s)

/-- Two digits in front, and what follows. -/
def twoDigits? : List Char → Option (Nat × List Char)
  | a :: b :: s => if a.isDigit && b.isDigit then some (digitsValue [a, b], s) else none
  | _ => none

/-- Hours and minutes of an offset, in seconds. Between them may stand colons and blanks. -/
def clock? (s : List Char) : Option (Int × List Char) := do
  let (hours, s) ← twoDigits? s
  let (minutes, s) ← twoDigits? (s.dropWhile fun c => c == ':' || Text.isBlank c)
  if minutes ≥ 60 then none
  return (hours * 3600 + minutes * 60, s)

/-- The offset from universal time, in seconds. The sign of a negative one is a hyphen or the
mathematical minus. -/
def offset? (s : List Char) : Option (Int × List Char) :=
  match s with
  | c :: s' =>
    if (s.take 3).map Char.toLower = ['u', 't', 'c'] then some (0, s.drop 3)
    else if c = 'Z' ∨ c = 'z' then some (0, s')
    else if c = '+' then clock? s'
    else if c = '-' ∨ c = '\u2212' then (clock? s').map fun (n, s) => (-n, s)
    else none
  | [] => none

/-- Whether hours, minutes and seconds are a time of day; the second 60 is a leap second. -/
def isTimeOfDay (hour minute second : Nat) : Bool :=
  hour ≤ 23 && minute ≤ 59 && second ≤ 60

/-- The instant at a date and a time of day, read on a clock with the given offset. -/
def atClock? (date : Date) (hour minute second nanos : Nat) (offset : Int) : Option Instant :=
  if firstYear ≤ date.year && date.year ≤ lastYear && date.isValid &&
      isTimeOfDay hour minute second && offset.natAbs < 86400 then
    let leap := second / 60
    of? (date.dayNumber * secondsInDay + (hour * 3600 + minute * 60 + (second - leap)) - offset)
      (nanos + leap * nanosInSecond)
  else none

/-- The instant that a text denotes. -/
def ofText? (text : String) : Option Instant := do
  let (year, s) ← year? text.toList
  let (month, s) ← part? (← mark? '-' s)
  let (day, s) ← part? (← mark? '-' s)
  let (separator, s) ← s.head?.map fun c => (c, s.tail)
  if separator ≠ 'T' ∧ separator ≠ 't' ∧ separator ≠ ' ' then none
  let (hour, s) ← part? s
  let (minute, s) ← part? (← mark? ':' s)
  let (second, s) ← part? (← mark? ':' s)
  let (nanos, s) ← fraction? s
  let (offset, s) ← offset? (Text.trimStart s)
  if !(Text.trimStart s).isEmpty then none
  atClock? ⟨year, month, day⟩ hour minute second nanos offset

end Instant

end Scaffold
