/-!
# Paths

A path is kept as the text it was given as; joining never normalizes it. Two things can be read
off a path:

* its *steps*, the pieces between slashes, which is what is walked through one by one when a
  place in a file system is looked up;
* its *components*, the steps without those that change nothing: repeated slashes and dots go,
  except a dot in front. Two paths with equal components are the same path.

Main statements:

* `join_of_isAbsolute`: joining an absolute path forgets what it is joined to.
* `text_join_of_relative`: otherwise exactly one slash is put between two texts, unless the first
  is empty or brings its own.
-/

namespace Scaffold

/-- A path, as written. -/
structure Path where
  text : String
  deriving DecidableEq, Repr, Inhabited

/-- Cuts a text at every slash. The pieces between neighbouring slashes are empty. -/
def splitAtSlashes : List Char → List (List Char)
  | [] => [[]]
  | c :: s =>
    if c = '/' then [] :: splitAtSlashes s
    else match splitAtSlashes s with
      | [] => [[c]]
      | piece :: pieces => (c :: piece) :: pieces

/-- One component of a path. -/
inductive Path.Component where
  /-- The slash of an absolute path. -/
  | root
  /-- A dot in front of a relative path. -/
  | here
  /-- Two dots, which are not resolved. -/
  | parent
  /-- Any other name. -/
  | name (text : String)
  deriving DecidableEq, Repr

namespace Path

/-- Whether the path starts at the root. -/
def isAbsolute (p : Path) : Bool := p.text.toList.head? == some '/'

/-- Whether a slash ends the path, so that it can name a directory only. -/
def endsInSlash (p : Path) : Bool := p.text.toList.getLast? == some '/'

/-- The path `q`, taken from `p` when it is relative. -/
def join (p q : Path) : Path :=
  if q.isAbsolute || p.text.isEmpty then q
  else if p.endsInSlash then ⟨p.text ++ q.text⟩
  else ⟨p.text ++ "/" ++ q.text⟩

/-- The pieces between slashes, without the empty ones. -/
def steps (p : Path) : List String :=
  ((splitAtSlashes p.text.toList).filter (!·.isEmpty)).map String.ofList

/-- The component that a step is. -/
def Component.ofStep : String → Component
  | ".." => .parent
  | s => .name s

/-- The components of a path. -/
def components (p : Path) : List Component :=
  if p.isAbsolute then .root :: (p.steps.filter (· ≠ ".")).map Component.ofStep
  else
    match p.steps with
    | "." :: rest => .here :: (rest.filter (· ≠ ".")).map Component.ofStep
    | steps => (steps.filter (· ≠ ".")).map Component.ofStep

/-- Whether two paths are the same, component by component. -/
def same (p q : Path) : Bool := decide (p.components = q.components)

/-- The text of a component. -/
def Component.text : Component → String
  | .root => "/"
  | .here => "."
  | .parent => ".."
  | .name s => s

/-- The path with the given components. -/
def ofComponents (cs : List Component) : Path :=
  cs.foldl (fun p c => p.join ⟨c.text⟩) ⟨""⟩

/-- The path without its last component. The root and the empty path have no parent. -/
def parent? (p : Path) : Option Path :=
  match p.components.getLast? with
  | none => none
  | some .root => none
  | some _ => some (ofComponents p.components.dropLast)

/-- The path and those it lies in, the nearest first, without the root and the empty path. -/
def chain (p : Path) : List Path := go p.components.length p
where
  /-- At most `n` paths of the chain. -/
  go : Nat → Path → List Path
    | 0, _ => []
    | n + 1, p =>
      match p.parent? with
      | none => []
      | some parent => p :: go n parent

theorem join_of_isAbsolute (p : Path) {q : Path} (h : q.isAbsolute = true) : p.join q = q := by
  simp [join, h]

theorem text_join_of_relative {p q : Path} (hq : q.isAbsolute = false) (hp : p.text ≠ "") :
    (p.join q).text = p.text ++ (if p.endsInSlash then "" else "/") ++ q.text := by
  by_cases hs : p.endsInSlash = true <;> simp [join, hq, hp, hs]

end Path

end Scaffold
