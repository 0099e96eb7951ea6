import Scaffold.Family
import Scaffold.Proofs.Ancestors
import Scaffold.Proofs.ClassHeader

/-!
# Where the files of a family go

The files of a family have plain names with one extension, so each of them goes into a folder right
below the service root, and nothing else that has another extension goes there.

* `fileName_of_mem_family`: the names of the files. `fileName_fits`: how long they are.
* `resolve_under`: the place of an artifact is two steps below the service root.
* `not_onTheWay_of_no_parent`: it is not on the way to a folder if the root has no steps back.
-/

namespace Scaffold

/-- A title with the extension of artifacts is a plain name. -/
theorem isName_extension {title : String} (h : '/' ∉ title.toList) :
    Path.IsName (title ++ "." ++ Artifact.extension) := by
  have hlong : ∀ s : String, s.length < 3 → title ++ "." ++ Artifact.extension ≠ s := by
    intro s hs heq
    have hextension : ("." ++ Artifact.extension).length = 3 := by decide
    have hlen := congrArg String.length heq
    rw [String.append_assoc, String.length_append, hextension] at hlen
    omega
  refine ⟨hlong "" (by decide), ?_, hlong "." (by decide), hlong ".." (by decide)⟩
  simp [Artifact.extension, h]

namespace Entity

/-- The files of a family are named after its classes. -/
theorem fileName_of_mem_family {e : Entity} {solution : String} {a : Artifact}
    (hname : '/' ∉ e.name.toList) (ha : a ∈ e.family solution) :
    ∃ title : String, '/' ∉ title.toList ∧ a.fileName = title ++ "." ++ Artifact.extension := by
  obtain ⟨d, hd, rfl⟩ := List.mem_map.mp ha
  refine ⟨d.title, ?_, rfl⟩
  simp only [drafts, List.mem_cons, List.not_mem_nil, or_false] at hd
  rcases hd with rfl | rfl | rfl | rfl | rfl | rfl | rfl | rfl | rfl | rfl | rfl | rfl | rfl | rfl
  all_goals simp [commandName, byIdName, allName, dtoName, validatorName, handlerName, Verb.word,
    hname]

/-- What stands before and behind the name of an entity in the titles of its family. -/
def affixes : List (String × String) :=
  [("Create", "Command"), ("Update", "Command"), ("Delete", "Command"), ("Get", "ByIdQuery"),
    ("GetAll", "Query"), ("", "DTO"), ("Create", "CommandValidator"),
    ("Update", "CommandValidator"), ("Get", "ByIdQueryValidator"), ("Create", "CommandHandler"),
    ("Update", "CommandHandler"), ("Delete", "CommandHandler"), ("Get", "ByIdQueryHandler"),
    ("GetAll", "QueryHandler")]

theorem titles_drafts (e : Entity) (solution : String) :
    (e.drafts solution).map (·.title) = affixes.map fun x => x.1 ++ e.name ++ x.2 := by
  simp [drafts, affixes, commandName, byIdName, allName, dtoName, validatorName, handlerName,
    Verb.word, String.append_assoc]

/-- A file name adds 25 bytes at most to the name of the entity, and no NUL. -/
theorem fileName_fits {e : Entity} {solution : String} {a : Artifact}
    (hname : '\x00' ∉ e.name.toList) (ha : a ∈ e.family solution) :
    a.fileName.utf8ByteSize ≤ e.name.utf8ByteSize + 25 ∧ '\x00' ∉ a.fileName.toList := by
  have haffixes : ∀ x ∈ affixes, x.1.utf8ByteSize + x.2.utf8ByteSize ≤ 22 ∧
      '\x00' ∉ x.1.toList ∧ '\x00' ∉ x.2.toList := by
    decide
  have hextension : ("." ++ Artifact.extension).utf8ByteSize = 3 ∧
      '\x00' ∉ ("." ++ Artifact.extension).toList := by
    decide
  obtain ⟨d, hd, rfl⟩ := List.mem_map.mp ha
  have htitle := List.mem_map_of_mem (f := Draft.title) hd
  rw [titles_drafts] at htitle
  obtain ⟨x, hx, htitle⟩ := List.mem_map.mp htitle
  obtain ⟨hsize, hbefore, hbehind⟩ := haffixes x hx
  have hfile : d.artifact.fileName = x.1 ++ e.name ++ x.2 ++ ("." ++ Artifact.extension) := by
    rw [htitle, ← String.append_assoc]
    rfl
  rw [hfile]
  constructor
  · simp only [String.utf8ByteSize_append, hextension.1]
    omega
  · simp only [String.toList_append, List.mem_append, not_or] at hextension ⊢
    exact ⟨⟨⟨hbefore, hname⟩, hbehind⟩, hextension.2⟩

end Entity

/-- An artifact with a plain name is two steps below the service root. -/
theorem Artifact.resolve_under {a : Artifact} (here : Location) (root : Path)
    (hname : Path.IsName a.fileName) :
    FileSystem.resolve here (a.under root) =
      FileSystem.resolve here root ++ [a.folder.name] ++ [a.fileName] := by
  rw [Artifact.under, Folder.under, FileSystem.resolve_join_name here hname,
    FileSystem.resolve_join_name here a.folder.isName]

namespace FileSystem

/-! ### Places that are not on the way -/

variable {here l : Location} {root : Path} {names : List String}

/-- Without steps back one only gets further down. -/
theorem prefix_foldl_follow (h : ".." ∉ names) (l : Location) : l <+: names.foldl follow l := by
  induction names generalizing l with
  | nil => exact List.prefix_rfl
  | cons name names ih =>
    obtain ⟨hname, hnames⟩ := not_or.mp (mt List.mem_cons.mpr h)
    refine List.IsPrefix.trans ?_ (ih hnames _)
    by_cases hdot : name = "."
    · simp [follow, hdot]
    · rw [follow_name hdot (Ne.symm hname)]
      exact List.prefix_append l [name]

/-- The places on the way to a folder lie above the places of artifacts, unless the way there leads
back somewhere. -/
theorem not_onTheWay_of_no_parent {a : Artifact} {f : Folder} (hname : Path.IsName a.fileName)
    (hroot : ".." ∉ root.steps) : ¬ OnTheWay here (f.under root) (resolve here (a.under root)) := by
  rintro ⟨names, ⟨rest, hsteps⟩, hplace⟩
  have hback : ".." ∉ rest := by
    intro hmem
    have hmem' : ".." ∈ (f.under root).steps := by
      rw [← hsteps]
      exact List.mem_append_right names hmem
    rw [Folder.under, f.isName.isPiece.steps_join] at hmem'
    rcases List.mem_append.mp hmem' with hmem' | hmem'
    · exact hroot hmem'
    · exact f.isName.ne_parent (List.mem_singleton.mp hmem').symm
  have habove := prefix_foldl_follow hback (names.foldl follow (start here (f.under root)))
  rw [← List.foldl_append, hsteps, ← hplace] at habove
  have hfolder : (f.under root).steps.foldl follow (start here (f.under root)) =
      resolve here root ++ [f.name] := resolve_join_name here f.isName
  rw [hfolder, Artifact.resolve_under here root hname] at habove
  have hlength := habove.length_le
  simp only [List.length_append, List.length_singleton] at hlength
  omega

end FileSystem

/-- A place whose name has another extension is not the place of an artifact. -/
theorem resolve_under_ne_of_extension {definition solution : String} {e : Entity} {l : Location}
    (hparse : Entity.parse definition = .ok e)
    (hl : ∀ title : String, l.getLast? ≠ some (title ++ "." ++ Artifact.extension))
    (here : Location) (root : Path) : ∀ a ∈ e.family solution,
      FileSystem.resolve here (a.under root) ≠ l := by
  intro a ha heq
  have hslash := (Definition.isName_of_parse hparse).no_slash
  obtain ⟨title, htitle, hname⟩ := Entity.fileName_of_mem_family hslash ha
  rw [Artifact.resolve_under here root (hname ▸ isName_extension htitle)] at heq
  refine hl title ?_
  rw [← heq, List.getLast?_concat, hname]

end Scaffold
