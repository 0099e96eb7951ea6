import Scaffold.Entity
import Scaffold.Text.Blank
import Scaffold.Text.Word

/-!
# Reading a class definition

A class definition is any text. Two shapes are looked for in it, anywhere, even inside a longer
word or a comment:

* a class header, `public class` and a name of word characters;
* a property declaration, `public` *type* *name* and the accessors `get;` and `set;` in braces.

Blanks separate the words; they may stand or be left out around the braces and the accessors. A
type or a name is any run without blanks, and a name may have the opening brace glued to it. When
the run after the type can be split into name and accessors in several ways, the longest name
wins.

`declarationAt?` decides whether a declaration starts at the front of a text, and `declarations`
lists those found from the left, each starting where the one before it has ended or later. The
first class header gives the entity its name.

* `name?_length_lt`, `declarationAt?_length_lt`: what follows a match is shorter than the text,
  so the scan ends.
* `Entity.parse_eq_ok_iff`, `Entity.parse_eq_error_iff`: what reading a definition gives.
-/

namespace Scaffold.Definition

open Scaffold.Text

/-! ### Words, blanks and accessors -/

/-- What follows at least one blank. -/
def afterBlanks? : List Char → Option (List Char)
  | [] => none
  | c :: s => if isBlank c then some (trimStart s) else none

/-- What follows the accessors in braces, blanks allowed in front of each part. -/
def afterAccessors? (s : List Char) : Option (List Char) := do
  let s ← after? "\x7b".toList (trimStart s)
  let s ← after? "get;".toList (trimStart s)
  let s ← after? "set;".toList (trimStart s)
  after? "\x7d".toList (trimStart s)

/-- The longest name in front of which accessors follow, and what follows those. A longer name is
tried before a shorter one. -/
def name? : List Char → Option (List Char × List Char)
  | [] => none
  | c :: s =>
    if isBlank c then none
    else match name? s with
      | some (name, rest) => some (c :: name, rest)
      | none => (afterAccessors? s).map fun rest => ([c], rest)

/-- The run of characters without blanks in front, and what follows it; the run is not empty. -/
def token? (s : List Char) : Option (List Char × List Char) :=
  match s.takeWhile (!isBlank ·) with
  | [] => none
  | c :: run => some (c :: run, s.dropWhile (!isBlank ·))

/-! ### Declarations -/

/-- The property declared at the front of the text, and what follows the declaration. -/
def declarationAt? (s : List Char) : Option (Property × List Char) := do
  let s ← after? "public".toList s
  let s ← afterBlanks? s
  let (type, s) ← token? s
  let s ← afterBlanks? s
  let (name, rest) ← name? s
  return (.of (String.ofList name) (String.ofList type), rest)

theorem after?_length_le {expected s rest : List Char} (h : after? expected s = some rest) :
    rest.length ≤ s.length := by
  rw [after?_eq_some_iff.mp h, List.length_append]; omega

theorem trimStart_length_le (s : List Char) : (trimStart s).length ≤ s.length :=
  (List.dropWhile_sublist _).length_le

theorem afterBlanks?_length_lt {s rest : List Char} (h : afterBlanks? s = some rest) :
    rest.length < s.length := by
  cases s with
  | nil => exact nomatch h
  | cons c s =>
    rw [afterBlanks?] at h
    split at h
    · rw [← Option.some.inj h]; exact Nat.lt_succ_of_le (trimStart_length_le s)
    · exact nomatch h

theorem afterAccessors?_length_le {s rest : List Char} (h : afterAccessors? s = some rest) :
    rest.length ≤ s.length := by
  simp only [afterAccessors?, Option.bind_eq_bind, Option.bind_eq_some_iff] at h
  obtain ⟨a, ha, b, hb, c, hc, hd⟩ := h
  have := after?_length_le ha
  have := after?_length_le hb
  have := after?_length_le hc
  have := after?_length_le hd
  have := trimStart_length_le s
  have := trimStart_length_le a
  have := trimStart_length_le b
  have := trimStart_length_le c
  omega

/-- What follows a name and its accessors is shorter than the text. -/
theorem name?_length_lt {s name rest : List Char} (h : name? s = some (name, rest)) :
    rest.length < s.length := by
  induction s generalizing name with
  | nil => exact nomatch h
  | cons c s ih =>
    rw [name?] at h
    split at h
    · exact nomatch h
    · split at h
      · next hn =>
        cases h
        exact Nat.lt_succ_of_lt (ih hn)
      · obtain ⟨r, hr, he⟩ := Option.map_eq_some_iff.mp h
        cases he
        exact Nat.lt_succ_of_le (afterAccessors?_length_le hr)

theorem token?_length_le {s run rest : List Char} (h : token? s = some (run, rest)) :
    rest.length ≤ s.length := by
  rw [token?] at h
  split at h
  · exact nomatch h
  · cases h; exact (List.dropWhile_sublist _).length_le

/-- What follows a declaration is shorter than the text. -/
theorem declarationAt?_length_lt {s : List Char} {p : Property} {rest : List Char}
    (h : declarationAt? s = some (p, rest)) : rest.length < s.length := by
  simp only [declarationAt?, Option.bind_eq_bind, Option.bind_eq_some_iff] at h
  obtain ⟨a, ha, b, hb, ⟨type, c⟩, hc, d, hd, ⟨name, r⟩, hn, he⟩ := h
  obtain ⟨rfl, rfl⟩ := Prod.mk.inj (Option.some.inj he)
  dsimp only at hd ⊢
  have := after?_length_le ha
  have := afterBlanks?_length_lt hb
  have := token?_length_le hc
  have := afterBlanks?_length_lt hd
  have := name?_length_lt hn
  omega

/-- The declarations of a text from left to right. After a declaration the search goes on behind
it, otherwise one character further on. -/
def declarations (s : List Char) : List Property :=
  match h : declarationAt? s with
  | some (p, rest) =>
    have := declarationAt?_length_lt h
    p :: declarations rest
  | none =>
    match s with
    | [] => []
    | _ :: s => declarations s
termination_by s.length

/-! ### The class header -/

/-- The name in a class header at the front of the text. -/
def classNameAt? (s : List Char) : Option (List Char) := do
  let s ← after? "public".toList s
  let s ← afterBlanks? s
  let s ← after? "class".toList s
  let s ← afterBlanks? s
  match s.takeWhile isWord with
  | [] => none
  | c :: name => some (c :: name)

/-- The name in the leftmost class header. -/
def className? : List Char → Option (List Char)
  | [] => none
  | c :: s =>
    match classNameAt? (c :: s) with
    | some name => some name
    | none => className? s

end Scaffold.Definition

namespace Scaffold

/-- Why a definition cannot be read. -/
inductive ParseError where
  /-- The text has no class header. -/
  | noClassName
  deriving DecidableEq, Repr

/-- The wording of a parse error. -/
def ParseError.message : ParseError → String
  | .noClassName => "no class name found"

/-- The entity that a class definition describes. Only a missing class header is an error; a text
without property declarations gives an entity without properties. -/
def Entity.parse (definition : String) : Except ParseError Entity :=
  match Definition.className? definition.toList with
  | none => .error .noClassName
  | some name => .ok ⟨String.ofList name, Definition.declarations definition.toList⟩

/-- A definition describes an entity exactly when it has a class header. -/
theorem Entity.parse_eq_ok_iff {definition : String} {e : Entity} :
    Entity.parse definition = .ok e ↔
      ∃ name, Definition.className? definition.toList = some name ∧
        e = ⟨String.ofList name, Definition.declarations definition.toList⟩ := by
  unfold parse
  cases Definition.className? definition.toList with
  | none => simp
  | some name =>
    constructor
    · intro h
      exact ⟨name, rfl, (Except.ok.inj h).symm⟩
    · rintro ⟨_, hname, rfl⟩
      rw [Option.some.inj hname]

theorem Entity.parse_eq_error_iff {definition : String} {error : ParseError} :
    Entity.parse definition = .error error ↔
      Definition.className? definition.toList = none := by
  unfold parse
  cases Definition.className? definition.toList with
  | none => cases error; simp
  | some name => simp

end Scaffold
