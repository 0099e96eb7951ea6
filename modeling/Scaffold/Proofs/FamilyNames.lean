import Scaffold.Proofs.FamilyPaths

/-!
# The files of a family are apart

No two files of a family share a path, whatever the entity is called: in a folder they differ in
their names, and of the two queries, which both begin with `Get` and end in `Query`, one has the
longer name.

* `requestNames_nodup`: the requests that an entity is handled by have different names.
* `family_apart`: artifacts in one folder have different file names.
* `components_under_nodup`, `places_apart`: so their paths have different components, and lead to
  different places.
* `under_eq_join`: the path of an artifact is the root joined with its relative path.
-/

namespace Scaffold

theorem validatorName_inj {s t : String} : validatorName s = validatorName t ↔ s = t := by
  simp [validatorName]

theorem handlerName_inj {s t : String} : handlerName s = handlerName t ↔ s = t := by
  simp [handlerName]

namespace Entity

variable (e : Entity)

/-! ### Names -/

/-- The requests of an entity: its commands and its queries. -/
def requestNames : List String :=
  [e.commandName .create, e.commandName .update, e.commandName .delete, e.byIdName, e.allName]

/-- One of the two queries has the longer name. -/
theorem byIdName_ne_allName : e.byIdName ≠ e.allName := by
  intro h
  have hlength := congrArg String.length h
  have hGet : "Get".length = 3 := rfl
  have hGetAll : "GetAll".length = 6 := rfl
  have hById : "ByIdQuery".length = 9 := rfl
  have hQuery : "Query".length = 5 := rfl
  simp only [byIdName, allName, String.length_append] at hlength
  omega

theorem commandName_inj {v w : Verb} : e.commandName v = e.commandName w ↔ v = w := by
  refine ⟨fun h => ?_, congrArg e.commandName⟩
  -- The verbs differ in their first letters.
  have hhead := congrArg (·.toList.head?) h
  cases v <;> cases w <;> first | rfl | simp [commandName, Verb.word] at hhead

theorem commandName_ne_byIdName (v : Verb) : e.commandName v ≠ e.byIdName := by
  intro h
  have hhead := congrArg (·.toList.head?) h
  cases v <;> simp [commandName, byIdName, Verb.word] at hhead

theorem commandName_ne_allName (v : Verb) : e.commandName v ≠ e.allName := by
  intro h
  have hhead := congrArg (·.toList.head?) h
  cases v <;> simp [commandName, allName, Verb.word] at hhead

theorem requestNames_nodup : e.requestNames.Nodup := by
  simp [requestNames, commandName_inj, commandName_ne_byIdName, commandName_ne_allName,
    byIdName_ne_allName]

/-! ### Drafts -/

section

variable (solution : String)

theorem commandFile_mem_drafts (v : Verb) :
    ⟨.commands, e.commandName v, e.commandFile solution v⟩ ∈ e.drafts solution := by
  cases v <;> simp [drafts]

theorem byIdFile_mem_drafts : ⟨.queries, e.byIdName, e.byIdFile solution⟩ ∈ e.drafts solution := by
  simp [drafts]

theorem allFile_mem_drafts : ⟨.queries, e.allName, e.allFile solution⟩ ∈ e.drafts solution := by
  simp [drafts]

theorem dtoFile_mem_drafts : ⟨.dtos, e.dtoName, e.dtoFile solution⟩ ∈ e.drafts solution := by
  simp [drafts]

theorem createValidatorFile_mem_drafts :
    ⟨.validators, validatorName (e.commandName .create), e.createValidatorFile solution⟩ ∈
      e.drafts solution := by
  simp [drafts]

theorem updateValidatorFile_mem_drafts :
    ⟨.validators, validatorName (e.commandName .update), e.updateValidatorFile solution⟩ ∈
      e.drafts solution := by
  simp [drafts]

theorem byIdValidatorFile_mem_drafts :
    ⟨.validators, validatorName e.byIdName, e.byIdValidatorFile solution⟩ ∈ e.drafts solution := by
  simp [drafts]

theorem commandHandlerFile_mem_drafts (v : Verb) :
    ⟨.handlers, handlerName (e.commandName v), e.commandHandlerFile solution v⟩ ∈
      e.drafts solution := by
  cases v <;> simp [drafts]

theorem byIdHandlerFile_mem_drafts :
    ⟨.handlers, handlerName e.byIdName, e.byIdHandlerFile solution⟩ ∈ e.drafts solution := by
  simp [drafts]

theorem allHandlerFile_mem_drafts :
    ⟨.handlers, handlerName e.allName, e.allHandlerFile solution⟩ ∈ e.drafts solution := by
  simp [drafts]

end

/-- Drafts in one folder have different titles. -/
theorem drafts_apart (solution : String) :
    (e.drafts solution).Pairwise fun d d' => d.folder = d'.folder → d.title ≠ d'.title := by
  have hrequests := e.requestNames_nodup
  simp only [requestNames, List.nodup_cons, List.mem_cons, List.not_mem_nil, or_false, not_or]
    at hrequests
  simp [drafts, validatorName_inj, handlerName_inj, hrequests]

/-- Artifacts in one folder have different file names. -/
theorem family_apart (solution : String) :
    (e.family solution).Pairwise fun a b => a.folder = b.folder → a.fileName ≠ b.fileName := by
  refine List.pairwise_map.mpr ((e.drafts_apart solution).imp ?_)
  intro d d' h hfolder hname
  refine h hfolder ?_
  simpa [Draft.artifact] using hname

end Entity

/-! ### Paths -/

theorem Path.text_join_ne_empty {p q : Path} (hq : q.text ≠ "") : (p.join q).text ≠ "" := by
  unfold join
  split
  · exact hq
  · split
    · intro h
      exact hq (String.append_eq_empty_iff.mp h).2
    · intro h
      exact hq (String.append_eq_empty_iff.mp h).2

/-- The directory of the service of an entity has a text. -/
theorem Entity.text_join_serviceRoot {e : Entity} (he : Path.IsName e.name) (p : Path)
    (solution : String) : (p.join (e.serviceRoot solution)).text ≠ "" :=
  Path.text_join_ne_empty (Path.text_join_ne_empty he.ne_empty)

/-- It is written with single slashes. -/
theorem Entity.text_serviceRoot {e : Entity} (he : Path.IsName e.name) (solution : String) :
    (e.serviceRoot solution).text =
      solution ++ ".Shared" ++ "/" ++ "Services" ++ "/" ++ e.name := by
  have hservices : Path.IsPiece "Services" := ⟨by decide, by decide⟩
  have hslash : Path.endsInSlash ⟨solution ++ ".Shared"⟩ = false := by
    simp [Path.endsInSlash, List.getLast?_append]
  have hroot := Path.text_join_of_relative hservices.isAbsolute (p := ⟨solution ++ ".Shared"⟩)
    (by simp)
  have hentity := Path.text_join_of_relative he.isAbsolute
    (p := Path.join ⟨solution ++ ".Shared"⟩ ⟨"Services"⟩)
    (Path.text_join_ne_empty hservices.ne_empty)
  rw [hslash] at hroot
  rw [hservices.endsInSlash_join] at hentity
  rw [serviceRoot, hentity, hroot]
  rfl

namespace Artifact

variable {a b : Artifact} {root : Path}

/-- The path of an artifact is the root joined with its relative path. -/
theorem under_eq_join (hroot : root.text ≠ "") (hname : Path.IsName a.fileName) :
    a.under root = root.join a.relativePath := by
  have hrelative : a.relativePath.isAbsolute = false := by
    unfold relativePath Path.isAbsolute
    cases a.folder <;> simp [Folder.name]
  have hfolder : (a.folder.under root).text ≠ "" :=
    Path.text_join_ne_empty a.folder.isName.ne_empty
  have hslash : (a.folder.under root).endsInSlash = false := by
    unfold Path.endsInSlash Folder.under
    rw [Path.text_join_of_relative a.folder.isName.isAbsolute hroot]
    cases a.folder <;> simp [Folder.name, List.getLast?_append]
  have htext : (a.under root).text = (root.join a.relativePath).text := by
    rw [under, Path.text_join_of_relative hname.isAbsolute hfolder, hslash, Folder.under,
      Path.text_join_of_relative a.folder.isName.isAbsolute hroot,
      Path.text_join_of_relative hrelative hroot, relativePath]
    simp [String.append_assoc]
  exact congrArg Path.mk htext

theorem components_under (root : Path) (hname : Path.IsName a.fileName) :
    (a.under root).components =
      root.components ++ [.name a.folder.name] ++ [.name a.fileName] := by
  rw [under, Path.components_join_name hname, Folder.under,
    Path.components_join_name a.folder.isName]

end Artifact

namespace Entity

variable {e : Entity} {solution : String}

theorem isName_of_mem_family (he : Path.IsName e.name) {a : Artifact}
    (ha : a ∈ e.family solution) : Path.IsName a.fileName := by
  obtain ⟨title, htitle, hname⟩ := fileName_of_mem_family he.no_slash ha
  rw [hname]
  exact isName_extension htitle

/-- What is read off the folder and the file name of every artifact of a family tells the
artifacts apart. -/
theorem pairwise_family {α : Type} {f : Artifact → α} (he : Path.IsName e.name)
    (hf : ∀ a b, Path.IsName a.fileName → Path.IsName b.fileName → f a = f b →
      a.folder = b.folder ∧ a.fileName = b.fileName) :
    (e.family solution).Pairwise fun a b => f a ≠ f b := by
  refine (e.family_apart solution).imp_of_mem ?_
  intro a b ha hb h heq
  obtain ⟨hfolder, hname⟩ :=
    hf a b (isName_of_mem_family he ha) (isName_of_mem_family he hb) heq
  exact h hfolder hname

/-- The paths of a family have different components. -/
theorem components_under_nodup (he : Path.IsName e.name) (solution : String) (root : Path) :
    ((e.family solution).map fun a => (a.under root).components).Nodup := by
  refine List.pairwise_map.mpr (pairwise_family he ?_)
  intro a b ha hb h
  rw [Artifact.components_under root ha, Artifact.components_under root hb] at h
  simp only [List.append_assoc, List.append_cancel_left_eq, List.cons_append, List.nil_append,
    List.cons.injEq, Path.Component.name.injEq, and_true] at h
  exact ⟨Folder.name_injective h.1, h.2⟩

/-- The paths of a family lead to different places. -/
theorem places_apart (he : Path.IsName e.name) (here : Location) (root : Path) :
    (e.family solution).Pairwise fun a b =>
      FileSystem.resolve here (a.under root) ≠ FileSystem.resolve here (b.under root) := by
  refine pairwise_family he ?_
  intro a b ha hb h
  rw [Artifact.resolve_under here root ha, Artifact.resolve_under here root hb] at h
  simp only [List.append_assoc, List.append_cancel_left_eq, List.cons_append, List.nil_append,
    List.cons.injEq, and_true] at h
  exact ⟨Folder.name_injective h.1, h.2⟩

end Entity

end Scaffold
