import Scaffold.Path
import Scaffold.Storage.Fault
import Scaffold.Text.Bytes

/-!
# File systems

A file system is a value: what stands at each location below its root. A location is the list of
names that leads to it. There are no links, so a location is reached in one way only.

A path is looked up step by step from the root or, when it is relative, from a working directory.
Every step has to start from a directory, a dot stays, two dots go up, and a name leads to what
stands there. The operations follow from the look-up of a whole path (`locate`) and of the place
where the last step of a path would go (`target`).

Writing and appending fail in the look-up of the path and nowhere else. A file system is never full
and knows no quotas, and a content is there as a whole or not at all.

* `get?_put`: `put` changes what stands at one location and nothing else.
* `read`, `write`, `append`, `makeDirectory`: each operation gives its result or the changed file
  system, or else the fault that stopped it.
-/

namespace Scaffold

open Text (Bytes)

/-- What stands at a location. -/
inductive Entry where
  | file (content : Bytes)
  | directory
  deriving DecidableEq, Repr

/-- A location: the names that lead to it from the root. -/
abbrev Location := List String

/-- A file system: its entries below the root, each location listed once. -/
structure FileSystem where
  entries : List (Location × Entry) := []
  deriving Repr, Inhabited

namespace FileSystem

/-! ### The view -/

/-- What stands at a location. The root is a directory. -/
def get? (fs : FileSystem) (l : Location) : Option Entry :=
  if l = [] then some .directory else fs.entries.lookup l

/-- The file system with another entry at a location. -/
def put (fs : FileSystem) (l : Location) (e : Entry) : FileSystem :=
  ⟨(l, e) :: fs.entries.filter (·.1 ≠ l)⟩

/-- The file system without what stands at a location and below it. -/
def remove (fs : FileSystem) (l : Location) : FileSystem :=
  ⟨fs.entries.filter fun (m, _) => !l.isPrefixOf m⟩

theorem lookup_filter_ne {l m : Location} (entries : List (Location × Entry)) (h : m ≠ l) :
    (entries.filter (·.1 ≠ l)).lookup m = entries.lookup m := by
  induction entries with
  | nil => rfl
  | cons x xs ih =>
    obtain ⟨k, e⟩ := x
    by_cases hk : k = l
    · subst hk
      have : (m == k) = false := by simpa using h
      simp [List.lookup_cons, this] at ih ⊢
      exact ih
    · by_cases hm : m = k
      · subst hm; simp [hk]
      · have hm' : (m == k) = false := by simpa using hm
        simp [List.lookup_cons, hk, hm'] at ih ⊢
        exact ih

/-- `put` changes one location only. -/
theorem get?_put {fs : FileSystem} {l : Location} {e : Entry} (m : Location) (hl : l ≠ []) :
    (fs.put l e).get? m = if m = l then some e else fs.get? m := by
  unfold get? put
  by_cases hm : m = l
  · subst hm; simp [hl]
  · by_cases h0 : m = []
    · subst h0; simp [hm]
    · have hm' : (m == l) = false := by simpa using hm
      simp only [hm, h0, if_false, List.lookup_cons, hm']
      exact lookup_filter_ne _ hm

/-! ### Looking a path up -/

/-- The longest name, in bytes. -/
def nameLimit : Nat := 255

/-- The longest path, in bytes. -/
def pathLimit : Nat := 4095

/-- Whether a directory stands at a location, or the fault of starting a step there. -/
def checkDirectory (fs : FileSystem) (l : Location) : Except Fault Unit :=
  match fs.get? l with
  | some .directory => .ok ()
  | some (.file _) => .error .notADirectory
  | none => .error .noEntry

/-- The place that a name in a directory denotes, whether something stands there or not. -/
def child (l : Location) (name : String) : Except Fault Location :=
  if name.utf8ByteSize > nameLimit then .error .nameTooLong else .ok (l ++ [name])

/-- Follows one step from a location. -/
def step (fs : FileSystem) (l : Location) (name : String) : Except Fault Location := do
  fs.checkDirectory l
  if name = "." then return l
  if name = ".." then return l.dropLast
  let m ← child l name
  if (fs.get? m).isSome then return m else throw .noEntry

/-- Follows steps one by one. -/
def walk (fs : FileSystem) : Location → List String → Except Fault Location
  | l, [] => .ok l
  | l, name :: names => do fs.walk (← fs.step l name) names

/-- The faults that a path has on its own. -/
def checkPath (p : Path) : Except Fault Unit := do
  if p.text.toList.contains '\x00' then throw .nulInPath
  if p.text.isEmpty then throw .noEntry
  if p.text.utf8ByteSize > pathLimit then throw .nameTooLong

/-- Where a path starts when the working directory is `here`. -/
def start (here : Location) (p : Path) : Location := if p.isAbsolute then [] else here

/-- The location that a path leads to. A slash at the end asks for a directory. -/
def locate (fs : FileSystem) (here : Location) (p : Path) : Except Fault Location := do
  checkPath p
  let l ← fs.walk (start here p) p.steps
  if p.endsInSlash then fs.checkDirectory l
  return l

/-- What the last step of a path does when something is to be made there. -/
inductive Target where
  /-- It names a place in an existing directory. -/
  | place (directory : Location) (name : String)
  /-- It leads back to a directory that exists. -/
  | existing

/-- The place that a path denotes, its last step apart: all steps before it have to lead to a
directory. -/
def target (fs : FileSystem) (here : Location) (p : Path) : Except Fault Target := do
  checkPath p
  match p.steps.getLast? with
  | none => return .existing
  | some name =>
    let l ← fs.walk (start here p) p.steps.dropLast
    fs.checkDirectory l
    if name = "." || name = ".." then return .existing
    return .place l name

/-! ### Operations -/

/-- Whether something stands where the path leads. -/
def holds (fs : FileSystem) (here : Location) (p : Path) : Bool :=
  match fs.locate here p with
  | .ok _ => true
  | .error _ => false

/-- Whether the path leads to a directory. -/
def isDirectory (fs : FileSystem) (here : Location) (p : Path) : Bool :=
  match fs.locate here p with
  | .ok l => fs.get? l == some .directory
  | .error _ => false

/-- The content of the file at a path. -/
def read (fs : FileSystem) (here : Location) (p : Path) : Except Fault Bytes := do
  match fs.get? (← fs.locate here p) with
  | some (.file content) => return content
  | some .directory => throw .isADirectory
  | none => throw .noEntry

/-- Where a file can be written: the path does not ask for a directory, and none stands there. -/
def writable (fs : FileSystem) (here : Location) (p : Path) : Except Fault Location := do
  match ← fs.target here p with
  | .existing => throw .isADirectory
  | .place directory name =>
    if p.endsInSlash then throw .isADirectory
    let l ← child directory name
    if fs.get? l == some .directory then throw .isADirectory
    return l

/-- Makes a file with the given content, or replaces the content of the one that is there. -/
def write (fs : FileSystem) (here : Location) (p : Path) (content : Bytes) :
    Except Fault FileSystem := do
  return fs.put (← fs.writable here p) (.file content)

/-- The content of a file, empty when there is none. -/
def contentAt (fs : FileSystem) (l : Location) : Bytes :=
  match fs.get? l with
  | some (.file content) => content
  | _ => []

/-- Adds to the end of a file, which is made when it is not there. -/
def append (fs : FileSystem) (here : Location) (p : Path) (content : Bytes) :
    Except Fault FileSystem := do
  let l ← fs.writable here p
  return fs.put l (.file (fs.contentAt l ++ content))

/-- Makes one directory in a directory that exists. -/
def makeDirectory (fs : FileSystem) (here : Location) (p : Path) : Except Fault FileSystem := do
  match ← fs.target here p with
  | .existing => throw .alreadyThere
  | .place directory name =>
    let l ← child directory name
    if (fs.get? l).isSome then throw .alreadyThere
    return fs.put l .directory

end FileSystem

end Scaffold
