import Scaffold.Text.Quotation

/-!
# Command lines

The arguments of a program are switches, some with a value, followed by free arguments. The first
argument that does not look like a switch ends the switches, and so does a double hyphen, which is
dropped. A switch may be spelled with one hyphen or two, and its value may follow an equals sign.

One spelling is the canonical one: switches in the order in which the program declares them, two
hyphens, values as arguments of their own, empty values left out. Only that is accepted in the
end, so that a command line can be read in one way only.

* `Manual.scan`: the switches and free arguments in some arguments.
* `Manual.read`: what becomes of a command line.
* `canonical_of_ready`: an accepted command line is its own canonical form, double hyphens apart.
-/

namespace Scaffold.CommandLine

/-- A switch that a program declares. -/
structure Switch where
  name : String
  /-- Whether a value belongs to the switch. -/
  takesValue : Bool := false
  description : String
  deriving DecidableEq, Repr

/-- What a program declares: how it is called, and its switches. -/
structure Manual where
  brief : String
  switches : List Switch
  deriving DecidableEq, Repr

/-- What has been given: switches with their values, and free arguments. -/
structure Arguments where
  given : List (String × Option String) := []
  free : List String := []
  deriving DecidableEq, Repr

namespace Arguments

/-- Whether a switch has been given. -/
def has (a : Arguments) (name : String) : Bool := a.given.any (·.1 == name)

/-- The value given with a switch, empty when there is none. -/
def value (a : Arguments) (name : String) : String := ((a.given.lookup name).join).getD ""

/-- The arguments behind one more switch. -/
def behind (a : Arguments) (name : String) (value : Option String) : Arguments :=
  { a with given := (name, value) :: a.given }

end Arguments

/-- Why arguments cannot be read. -/
inductive Misuse where
  | unknown (name : String)
  | unexpectedValue (name : String)
  | missingValue (name : String)
  | repeated (name : String)
  deriving DecidableEq, Repr

/-- The wording of a misuse. -/
def Misuse.message : Misuse → String
  | unknown name => "Unrecognized option: '" ++ name ++ "'"
  | unexpectedValue name => "Option '" ++ name ++ "' does not take an argument"
  | missingValue name => "Argument to option '" ++ name ++ "' missing"
  | repeated name => "Option '" ++ name ++ "' given more than once"

/-! ### Reading -/

/-- The argument behind which all arguments are free. -/
def separator : String := "--"

/-- The switch that asks for the usage. Every program has it. -/
def help : Switch := ⟨"help", false, "Print this help menu."⟩

/-- The short name of that switch. -/
def helpLetter : String := "h"

/-- Whether an argument looks like a switch: a hyphen and something behind it. -/
def looksLikeSwitch (arg : String) : Bool :=
  match arg.toList with
  | '-' :: _ :: _ => true
  | _ => false

/-- The name and the value in an argument that looks like a switch. -/
def nameAndValue (arg : String) : String × Option String :=
  let text :=
    match arg.toList with
    | '-' :: '-' :: text => text
    | _ :: text => text
    | [] => []
  (String.ofList (text.takeWhile (· ≠ '=')),
    match text.dropWhile (· ≠ '=') with
    | _ :: value => some (String.ofList value)
    | [] => none)

/-- The canonical spelling of a switch. Nothing is written for one that has not been given or has
an empty value. -/
def Switch.canonical (switch : Switch) (a : Arguments) : List String :=
  if switch.takesValue then
    if (a.value switch.name).isEmpty then [] else ["--" ++ switch.name, a.value switch.name]
  else if a.has switch.name then ["--" ++ switch.name]
  else []

/-- What came of reading a command line. -/
inductive Outcome where
  /-- The arguments are fine. -/
  | ready (a : Arguments)
  /-- The usage is asked for. -/
  | helpWanted
  | misused (m : Misuse)
  /-- The arguments are understood but spelled in another way than expected. -/
  | notCanonical (provided expected : List String)
  deriving DecidableEq, Repr

namespace Manual

/-- The switch with the given name. -/
def find? (manual : Manual) (name : String) : Option Switch :=
  if name = helpLetter then some help else (help :: manual.switches).find? (·.name == name)

/-- The switches and the free arguments in some arguments. -/
def scan (manual : Manual) : List String → Except Misuse Arguments
  | [] => .ok {}
  | arg :: args =>
    if arg = separator then .ok { free := args }
    else if !looksLikeSwitch arg then .ok { free := arg :: args }
    else
      match manual.find? (nameAndValue arg).1 with
      | none => .error (.unknown (nameAndValue arg).1)
      | some switch =>
        match switch.takesValue, (nameAndValue arg).2, args with
        | false, none, args => do return (← manual.scan args).behind switch.name none
        | false, some _, _ => .error (.unexpectedValue (nameAndValue arg).1)
        | true, some value, args => do return (← manual.scan args).behind switch.name (some value)
        | true, none, value :: args => do
          return (← manual.scan args).behind switch.name (some value)
        | true, none, [] => .error (.missingValue (nameAndValue arg).1)

/-- A switch that is given more than once, if there is one. -/
def repeated? (manual : Manual) (a : Arguments) : Option Switch :=
  (help :: manual.switches).find? fun switch => 1 < a.given.countP (·.1 == switch.name)

/-- The canonical spelling of arguments. -/
def canonical (manual : Manual) (a : Arguments) : List String :=
  manual.switches.flatMap (·.canonical a) ++ a.free

/-- Arguments without double hyphens. They play no part when spellings are compared. -/
def withoutSeparators (args : List String) : List String := args.filter (· ≠ separator)

/-- What becomes of a command line. -/
def read (manual : Manual) (args : List String) : Outcome :=
  match manual.scan args with
  | .error m => .misused m
  | .ok a =>
    match manual.repeated? a with
    | some switch => .misused (.repeated switch.name)
    | none =>
      if a.has help.name then .helpWanted
      else
        let provided := withoutSeparators args
        let expected := withoutSeparators (manual.canonical a)
        if provided = expected then .ready a else .notCanonical provided expected

theorem canonical_of_ready {manual : Manual} {args : List String} {a : Arguments}
    (h : manual.read args = .ready a) :
    withoutSeparators args = withoutSeparators (manual.canonical a) := by
  unfold read at h
  split at h
  · exact nomatch h
  · split at h
    · exact nomatch h
    · split at h
      · exact nomatch h
      · simp only at h
        split at h
        · next e => cases h; exact e
        · exact nomatch h

end Manual

end Scaffold.CommandLine
