import Scaffold.Storage.Fault
import Scaffold.Text.Lines

/-!
# The terminal

A terminal is a value: the input that has not been read yet, the output written so far, and how
many more bytes the output takes, if it is limited. A limited output takes what still fits and
then reports that it is closed.

* `say`: writes a text.
* `readLine`: takes the next line; a line that is not text is taken too, and reported.
* `ask`: writes a question and reads the line that answers it.
* `readDefinition`: reads lines up to a line that says `END`, or to the end of the input.

`input_readLine` says what each reading of a line consumes: exactly one line. A definition is read
by reading lines, as `readDefinition_eq` says.
-/

namespace Scaffold

open Text (Bytes)

/-- The line that ends a definition. -/
def endMarker : String := "END"

/-- The two directions of a terminal. -/
structure Terminal where
  input : Bytes := []
  output : Bytes := []
  /-- How many more bytes are taken; without a number there is no limit. -/
  room : Option Nat := none
  deriving DecidableEq, Repr, Inhabited

namespace Terminal

/-- The fault that an output reports when it is closed. -/
def outputClosed : Fault := .described .other "output closed"

/-- Writes bytes. What does not fit is lost and reported. -/
def write (bytes : Bytes) (t : Terminal) : Except Fault Unit × Terminal :=
  match t.room with
  | none => (.ok (), { t with output := t.output ++ bytes })
  | some n =>
    let taken := { t with output := t.output ++ bytes.take n, room := some (n - bytes.length) }
    if bytes.length ≤ n then (.ok (), taken)
    else (.error outputClosed, taken)

/-- Writes a text. -/
def say (text : String) (t : Terminal) : Except Fault Unit × Terminal :=
  t.write (Text.encode text)

/-- Takes the next line and gives it without its ending, or nothing at the end of the input. -/
def readLine (t : Terminal) : Except Fault (Option String) × Terminal :=
  if t.input = [] then (.ok none, t)
  else
    let after := { t with input := Text.rest t.input }
    match Text.decode? (Text.line t.input) with
    | none => (.error .notText, after)
    | some line => (.ok (some (Text.withoutEnding line)), after)

/-- Every reading of a line consumes the first line of the input. -/
theorem input_readLine (t : Terminal) : (t.readLine).2.input = Text.rest t.input := by
  unfold readLine
  by_cases h : t.input = []
  · simp [h, Text.rest]
  · simp only [h, if_false]
    split <;> rfl

/-- Asks a question and takes the next line as the answer. Nothing is read when the question
cannot be written. -/
def ask (question : String) (t : Terminal) : Except Fault (Option String) × Terminal :=
  match t.say question with
  | (.error fault, t) => (.error fault, t)
  | (.ok (), t) => t.readLine

/-- Takes lines up to the end marker or the end of the input, and gives those before it, each
with a newline. -/
def readDefinition (t : Terminal) : Except Fault String × Terminal :=
  if h : t.input = [] then (.ok "", t)
  else
    match hr : t.readLine with
    | (.error fault, t') => (.error fault, t')
    | (.ok none, t') => (.ok "", t')
    | (.ok (some line), t') =>
      if line = endMarker then (.ok "", t')
      else
        have : t'.input.length < t.input.length := by
          have e := input_readLine t
          rw [hr] at e
          rw [e]; exact Text.rest_length_lt h
        match t'.readDefinition with
        | (.error fault, t'') => (.error fault, t'')
        | (.ok text, t'') => (.ok (line ++ "\n" ++ text), t'')
termination_by t.input.length

/-- A definition is read line by line. -/
theorem readDefinition_eq (t : Terminal) :
    t.readDefinition =
      match t.readLine with
      | (.error fault, t') => (.error fault, t')
      | (.ok none, t') => (.ok "", t')
      | (.ok (some line), t') =>
        if line = endMarker then (.ok "", t')
        else match t'.readDefinition with
          | (.error fault, t'') => (.error fault, t'')
          | (.ok text, t'') => (.ok (line ++ "\n" ++ text), t'') := by
  rw [readDefinition]
  split
  · next hnil => rw [readLine, if_pos hnil]
  · split
    · next hread => rw [hread]
    · next hread => rw [hread]
    · next hread => simp only [hread]

end Terminal

end Scaffold
