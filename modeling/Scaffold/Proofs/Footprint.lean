import Mathlib.Data.List.Forall2
import Scaffold.Proofs.FamilyNames
import Scaffold.Proofs.Outline

/-!
# How far a change reaches

A family is generated anew when its entity or its solution changes, and most of it comes out as it
was. What does not name properties is decided by the class name and the key. The create and update
commands depend on the command fields as well, their validators on what the rules of the properties
are, and only the class that carries the entity on all properties. The solution is in front of the
namespaces and nowhere else.

* `Entity.SameAt`: two families have the same at a place. `Entity.sameAt_command` and those behind
  it say what each artifact depends on.
* `SourceFile.Renamed`: files that differ in namespaces. `SourceFile.Renamed.sameTexts` compares
  their texts line by line, where a line for one solution and for the other are `SameBut`.
* `Entity.renamed_drafts`: the drafts of an entity for two solutions.
* `family_footprint`: how far both changes reach.
-/

namespace Scaffold

/-! ### Files that two families share -/

/-- What has a place to itself is all there is at this place. -/
theorem filter_eq_singleton_of_apart {artifacts : List Artifact} {a : Artifact}
    (h : artifacts.Pairwise fun a b => a.folder = b.folder → a.fileName ≠ b.fileName)
    (ha : a ∈ artifacts) :
    (artifacts.filter fun b => b.folder = a.folder ∧ b.fileName = a.fileName) = [a] := by
  induction h with
  | nil => cases ha
  | @cons first rest hfirst _ ih =>
    rcases List.mem_cons.mp ha with rfl | ha
    · rw [List.filter_cons_of_pos (by simp)]
      have hrest : rest.filter (fun b => b.folder = a.folder ∧ b.fileName = a.fileName) = [] := by
        refine List.filter_eq_nil_iff.mpr fun b hb hplace => ?_
        obtain ⟨hfolder, hname⟩ := of_decide_eq_true hplace
        exact hfirst b hb hfolder.symm hname.symm
      rw [hrest]
    · rw [List.filter_cons_of_neg, ih ha]
      intro hplace
      obtain ⟨hfolder, hname⟩ := of_decide_eq_true hplace
      exact hfirst a ha hfolder hname

namespace Entity

/-- The contents of the artifacts that a family has in a folder under a title. -/
def contentsAt (solution : String) (e : Entity) (folder : Folder) (title : String) : List String :=
  ((e.family solution).filter fun a =>
    a.folder = folder ∧ a.fileName = title ++ "." ++ Artifact.extension).map (·.content)

/-- Both families have one artifact at the place, with the same content. -/
def SameAt (solution : String) (e e' : Entity) (folder : Folder) (title : String) : Prop :=
  ∃ content, contentsAt solution e folder title = [content] ∧
    contentsAt solution e' folder title = [content]

variable {solution : String} {e e' : Entity}

theorem contentsAt_of_mem_drafts {d : Draft} (hd : d ∈ e.drafts solution) :
    contentsAt solution e d.folder d.title = [d.source.text] := by
  have hmem : d.artifact ∈ e.family solution := List.mem_map_of_mem hd
  have hplace := filter_eq_singleton_of_apart (e.family_apart solution) hmem
  exact congrArg (List.map (·.content)) hplace

theorem sameAt_of_drafts {folder : Folder} {title title' : String} {source source' : SourceFile}
    (h : ⟨folder, title, source⟩ ∈ e.drafts solution)
    (h' : ⟨folder, title', source'⟩ ∈ e'.drafts solution) (htitle : title = title')
    (hsource : source = source') : SameAt solution e e' folder title := by
  subst htitle hsource
  exact ⟨source.text, contentsAt_of_mem_drafts h, contentsAt_of_mem_drafts h'⟩

section

variable {name : String} {ps ps' : List Property}

/-- Besides the fields of its request and its response a command is made of names. -/
theorem sameAt_command {v : Verb}
    (hrequest : requestFields ⟨name, ps⟩ v = requestFields ⟨name, ps'⟩ v)
    (hresponse : responseFields ⟨name, ps⟩ v = responseFields ⟨name, ps'⟩ v) :
    SameAt solution ⟨name, ps⟩ ⟨name, ps'⟩ .commands (commandName ⟨name, ps⟩ v) := by
  refine sameAt_of_drafts (commandFile_mem_drafts _ _ v) (commandFile_mem_drafts _ _ v) rfl ?_
  rw [commandFile, commandFile, hrequest, hresponse]
  rfl

theorem sameAt_byId (hkey : key ⟨name, ps⟩ = key ⟨name, ps'⟩) :
    SameAt solution ⟨name, ps⟩ ⟨name, ps'⟩ .queries (byIdName ⟨name, ps⟩) := by
  refine sameAt_of_drafts (byIdFile_mem_drafts _ _) (byIdFile_mem_drafts _ _) rfl ?_
  rw [byIdFile, byIdFile, keyField, keyField, hkey]
  rfl

theorem sameAt_all : SameAt solution ⟨name, ps⟩ ⟨name, ps'⟩ .queries (allName ⟨name, ps⟩) :=
  sameAt_of_drafts (allFile_mem_drafts _ _) (allFile_mem_drafts _ _) rfl rfl

theorem sameAt_byIdValidator (hkey : key ⟨name, ps⟩ = key ⟨name, ps'⟩) :
    SameAt solution ⟨name, ps⟩ ⟨name, ps'⟩ .validators (validatorName (byIdName ⟨name, ps⟩)) := by
  refine sameAt_of_drafts (byIdValidatorFile_mem_drafts _ _) (byIdValidatorFile_mem_drafts _ _)
    rfl ?_
  rw [byIdValidatorFile, byIdValidatorFile, keyChain, keyChain, hkey]
  rfl

/-- The rules on a property are stated with its name and not with its type. -/
theorem propertyChains_eq
    (h : (nonKey e).map (fun p => (p.name, p.rules)) = (nonKey e').map fun p => (p.name, p.rules)) :
    e.propertyChains = e'.propertyChains := by
  have hstated : ∀ e : Entity, e.propertyChains =
      (e.nonKey.map fun p => (p.name, p.rules)).map fun p => ⟨p.1, p.2.flatMap Rule.calls⟩ := by
    intro e
    rw [List.map_map]
    rfl
  rw [hstated, h, ← hstated]

theorem sameAt_createValidator
    (hchains : propertyChains ⟨name, ps⟩ = propertyChains ⟨name, ps'⟩) :
    SameAt solution ⟨name, ps⟩ ⟨name, ps'⟩ .validators
      (validatorName (commandName ⟨name, ps⟩ .create)) := by
  refine sameAt_of_drafts (createValidatorFile_mem_drafts _ _) (createValidatorFile_mem_drafts _ _)
    rfl ?_
  rw [createValidatorFile, createValidatorFile, hchains]
  rfl

theorem sameAt_updateValidator (hkey : key ⟨name, ps⟩ = key ⟨name, ps'⟩)
    (hchains : propertyChains ⟨name, ps⟩ = propertyChains ⟨name, ps'⟩) :
    SameAt solution ⟨name, ps⟩ ⟨name, ps'⟩ .validators
      (validatorName (commandName ⟨name, ps⟩ .update)) := by
  refine sameAt_of_drafts (updateValidatorFile_mem_drafts _ _) (updateValidatorFile_mem_drafts _ _)
    rfl ?_
  rw [updateValidatorFile, updateValidatorFile, keyChain, keyChain, hkey, hchains]
  rfl

/-- Handlers are made of names. -/
theorem sameAt_handlers : ∀ request ∈ requestNames ⟨name, ps⟩,
    SameAt solution ⟨name, ps⟩ ⟨name, ps'⟩ .handlers (handlerName request) := by
  have hcommand : ∀ v,
      SameAt solution ⟨name, ps⟩ ⟨name, ps'⟩ .handlers (handlerName (commandName ⟨name, ps⟩ v)) :=
    fun v => sameAt_of_drafts (commandHandlerFile_mem_drafts _ _ v)
      (commandHandlerFile_mem_drafts _ _ v) rfl rfl
  simp only [requestNames, List.forall_mem_cons]
  refine ⟨hcommand _, hcommand _, hcommand _, ?_, ?_, List.forall_mem_nil _⟩
  · exact sameAt_of_drafts (byIdHandlerFile_mem_drafts _ _) (byIdHandlerFile_mem_drafts _ _) rfl rfl
  · exact sameAt_of_drafts (allHandlerFile_mem_drafts _ _) (allHandlerFile_mem_drafts _ _) rfl rfl

end

end Entity

/-! ### Lines that two solutions share -/

/-- The words in front of the name of a namespace. -/
def spaceWords : List String := ["using ", "namespace "]

/-- The same line, or one that names a namespace, with one solution or the other in front of the
name. -/
def SameBut (solution solution' : String) (l l' : List Char) : Prop :=
  l = l' ∨ ∃ word ∈ spaceWords, ∃ rest, l = word.toList ++ solution.toList ++ rest ∧
    l' = word.toList ++ solution'.toList ++ rest

variable {s s' : String}

theorem forall₂_sameBut_same (ls : List (List Char)) : List.Forall₂ (SameBut s s') ls ls :=
  List.forall₂_same.mpr fun _ _ => Or.inl rfl

/-- What stands in front of the first newline stands in the first line. -/
theorem splitOn_append_of_not_mem {u : List Char} (h : '\n' ∉ u) (v : List Char) :
    (u ++ v).splitOn '\n' = (v.splitOn '\n').modifyHead (u ++ ·) := by
  induction u with
  | nil =>
    rw [List.nil_append]
    exact (congrFun List.modifyHead_id _).symm
  | cons c u ih =>
    obtain ⟨hc, hu⟩ := not_or.mp (mt List.mem_cons.mpr h)
    have hne : (c == '\n') = false := beq_eq_false_iff_ne.mpr (Ne.symm hc)
    rw [List.cons_append, List.splitOn_cons_eq_if_modifyHead, hne, ih hu]
    cases v.splitOn '\n' <;> rfl

theorem sameBut_textLines {word : String} (hword : word ∈ spaceWords) (hs : OneLine s)
    (hs' : OneLine s') (rest : String) :
    List.Forall₂ (SameBut s s') (textLines (word ++ s ++ rest))
      (textLines (word ++ s' ++ rest)) := by
  have hline : OneLine word := by
    have hwords : ∀ word ∈ spaceWords, OneLine word := by decide
    exact hwords word hword
  have hfront : ∀ t, OneLine t → textLines (word ++ t ++ rest) =
      (textLines rest).modifyHead (word.toList ++ t.toList ++ ·) := by
    intro t ht
    have hnot : '\n' ∉ word.toList ++ t.toList := by
      simpa [OneLine, String.toList_append] using hline.append ht
    rw [textLines, String.toList_append, String.toList_append, splitOn_append_of_not_mem hnot]
    rfl
  rw [hfront s hs, hfront s' hs']
  cases textLines rest with
  | nil => exact .nil
  | cons l ls => exact .cons (Or.inr ⟨word, hword, l, rfl, rfl⟩) (forall₂_sameBut_same ls)

/-- The texts have as many lines, and each is the same but for the solution. -/
def SameTexts (s s' : String) (x x' : String) : Prop :=
  List.Forall₂ (SameBut s s') (textLines x) (textLines x')

theorem sameTexts_unlines {lines lines' : List String}
    (h : List.Forall₂ (SameTexts s s') lines lines') :
    SameTexts s s' (unlines lines) (unlines lines') := by
  induction h with
  | nil => exact forall₂_sameBut_same _
  | cons hline _ ih =>
    unfold SameTexts
    rw [textLines_unlines_cons, textLines_unlines_cons]
    exact List.rel_append hline ih

/-! ### Files of two solutions -/

/-- The name of a namespace, the same or with one solution or the other in front. -/
def SpaceRenamed (s s' : String) (x x' : String) : Prop :=
  x = x' ∨ ∃ rest, x = s ++ rest ∧ x' = s' ++ rest

/-- The files are the same but for the names of namespaces. -/
structure SourceFile.Renamed (s s' : String) (f f' : SourceFile) : Prop where
  uses : List.Forall₂ (SpaceRenamed s s') f.uses f'.uses
  home : SpaceRenamed s s' f.home f'.home
  classes : f.classes = f'.classes

theorem SpaceRenamed.sameTexts {x x' word : String} (h : SpaceRenamed s s' x x')
    (hword : word ∈ spaceWords) (hs : OneLine s) (hs' : OneLine s') :
    SameTexts s s' (word ++ x ++ ";") (word ++ x' ++ ";") := by
  rcases h with rfl | ⟨rest, rfl, rfl⟩
  · exact forall₂_sameBut_same _
  · have hlines := sameBut_textLines hword hs hs' (rest ++ ";")
    simpa only [SameTexts, String.append_assoc] using hlines

theorem SourceFile.Renamed.sameTexts {f f' : SourceFile} (h : f.Renamed s s' f') (hs : OneLine s)
    (hs' : OneLine s') : SameTexts s s' f.text f'.text := by
  refine sameTexts_unlines ?_
  have hsame : ∀ lines, List.Forall₂ (SameTexts s s') lines lines :=
    fun lines => List.forall₂_same.mpr fun _ _ => forall₂_sameBut_same _
  have huse : ∀ x x', SpaceRenamed s s' x x' → SameTexts s s' (useLine x) (useLine x') :=
    fun x x' hx => hx.sameTexts (by decide) hs hs'
  have hhome : SameTexts s s' (homeLine f.home) (homeLine f'.home) :=
    h.home.sameTexts (by decide) hs hs'
  have huses : ∀ us us', List.Forall₂ (SpaceRenamed s s') us us' →
      List.Forall₂ (SameTexts s s') (if us.isEmpty then [] else us.map useLine ++ [""])
        (if us'.isEmpty then [] else us'.map useLine ++ [""]) := by
    intro us us' hus
    cases hus with
    | nil => exact .nil
    | cons hx hxs => exact List.rel_append (List.rel_map @huse (.cons hx hxs)) (hsame [""])
  rw [lines, lines, h.classes]
  exact List.rel_append (List.rel_append (huses _ _ h.uses) (.cons hhome (hsame [""]))) (hsame _)

namespace Entity

variable (e : Entity)

theorem spaceRenamed_space (folder : Folder) :
    SpaceRenamed s s' (e.space s folder) (e.space s' folder) := by
  refine Or.inr ⟨".Shared.Services." ++ e.name ++ "." ++ folder.name, ?_, ?_⟩
  · simp only [space, String.append_assoc]
  · simp only [space, String.append_assoc]

theorem renamed_commandFile (v : Verb) : (e.commandFile s v).Renamed s s' (e.commandFile s' v) where
  uses := .cons (Or.inl rfl) .nil
  home := e.spaceRenamed_space _
  classes := rfl

theorem renamed_queryFile (name : String) (response : ResponseType) (members : List Member) :
    (e.queryFile s name response members).Renamed s s' (e.queryFile s' name response members) where
  uses := .cons (Or.inl rfl) (.cons (e.spaceRenamed_space _) .nil)
  home := e.spaceRenamed_space _
  classes := rfl

theorem renamed_dtoFile : (e.dtoFile s).Renamed s s' (e.dtoFile s') where
  uses := .nil
  home := e.spaceRenamed_space _
  classes := rfl

theorem renamed_validatorFile (folder : Folder) (request : String) (chains : List RuleChain) :
    (e.validatorFile s folder request chains).Renamed s s'
      (e.validatorFile s' folder request chains) where
  uses := .cons (Or.inl rfl) (.cons (e.spaceRenamed_space _) .nil)
  home := e.spaceRenamed_space _
  classes := rfl

theorem renamed_handlerFile (folders : List Folder) (request : String) (response : ResponseType)
    (reply : Reply) :
    (e.handlerFile s folders request response reply).Renamed s s'
      (e.handlerFile s' folders request response reply) where
  uses := by
    refine .cons (Or.inl rfl) (List.forall₂_map_left_iff.mpr (List.forall₂_map_right_iff.mpr ?_))
    exact List.forall₂_same.mpr fun folder _ => e.spaceRenamed_space folder
  home := e.spaceRenamed_space _
  classes := rfl

/-- The drafts for two solutions are filed alike and differ in the names of namespaces. -/
theorem renamed_drafts : List.Forall₂
    (fun d d' => d.folder = d'.folder ∧ d.title = d'.title ∧ d.source.Renamed s s' d'.source)
    (e.drafts s) (e.drafts s') := by
  have hcommand : ∀ v, (e.commandFile s v).Renamed s s' (e.commandFile s' v) :=
    e.renamed_commandFile
  have hquery := @renamed_queryFile s s' e
  have hvalidator := @renamed_validatorFile s s' e
  have hhandler := @renamed_handlerFile s s' e
  simp only [drafts, List.forall₂_cons, true_and]
  exact ⟨hcommand _, hcommand _, hcommand _, hquery _ _ _, hquery _ _ _, e.renamed_dtoFile,
    hvalidator _ _ _, hvalidator _ _ _, hvalidator _ _ _, hhandler _ _ _ _, hhandler _ _ _ _,
    hhandler _ _ _ _, hhandler _ _ _ _, hhandler _ _ _ _, .nil⟩

end Entity

/-! ### What a change shows in -/

open Entity (SameAt)

/-- **A change shows in few files.** For two entities with the same name and the same key the
command that deletes, both queries, the validator of the query by the key and all handlers are the
same. If their command fields are the same, so are the other commands; if the names and the rules
of their properties are the same, key candidates apart, so are the other validators. For two
solutions without a newline in their names the files of an entity are filed alike, and line by line
they are the same, except that in a line that opens or declares a namespace one solution may stand
for the other. -/
theorem family_footprint (s s' : String) (e e' : Entity) :
    (e.name = e'.name → e.key = e'.key →
      SameAt s e e' .commands (e.commandName .delete) ∧
      SameAt s e e' .queries e.byIdName ∧ SameAt s e e' .queries e.allName ∧
      SameAt s e e' .validators (validatorName e.byIdName) ∧
      (∀ request ∈ e.requestNames, SameAt s e e' .handlers (handlerName request)) ∧
      (e.commandFields = e'.commandFields → ∀ v ∈ [Verb.create, .update],
        SameAt s e e' .commands (e.commandName v)) ∧
      (e.nonKey.map (fun p => (p.name, p.rules)) = e'.nonKey.map (fun p => (p.name, p.rules)) →
        ∀ v ∈ [Verb.create, .update],
          SameAt s e e' .validators (validatorName (e.commandName v)))) ∧
    (OneLine s → OneLine s' → (e.family s).length = 14 ∧
      List.Forall₂
        (fun a a' => a.folder = a'.folder ∧ a.fileName = a'.fileName ∧
          SameTexts s s' a.content a'.content)
        (e.family s) (e.family s')) := by
  constructor
  · intro hname hkey
    obtain ⟨name, ps⟩ := e
    obtain ⟨name', ps'⟩ := e'
    obtain rfl : name = name' := hname
    have hkeyField : Entity.keyField ⟨name, ps⟩ = Entity.keyField ⟨name, ps'⟩ := by
      rw [Entity.keyField, Entity.keyField, hkey]
    refine ⟨Entity.sameAt_command ?_ rfl, Entity.sameAt_byId hkey, Entity.sameAt_all,
      Entity.sameAt_byIdValidator hkey, Entity.sameAt_handlers, fun hfields => ?_, fun hrules => ?_⟩
    · rw [Entity.requestFields, Entity.requestFields, hkeyField]
    · refine List.forall_mem_cons.mpr ⟨?_, List.forall_mem_singleton.mpr ?_⟩
      · refine Entity.sameAt_command ?_ ?_
        · rw [Entity.requestFields, Entity.requestFields, hfields]
        · rw [Entity.responseFields, Entity.responseFields, hkeyField]
      · refine Entity.sameAt_command ?_ rfl
        rw [Entity.requestFields, Entity.requestFields, hkeyField, hfields]
    · have hchains := Entity.propertyChains_eq hrules
      exact List.forall_mem_cons.mpr ⟨Entity.sameAt_createValidator hchains,
        List.forall_mem_singleton.mpr (Entity.sameAt_updateValidator hkey hchains)⟩
  · intro hs hs'
    refine ⟨e.family_length s, ?_⟩
    refine List.rel_map ?_ e.renamed_drafts
    rintro d d' ⟨hfolder, htitle, hsource⟩
    exact ⟨hfolder, congrArg (· ++ "." ++ Artifact.extension) htitle, hsource.sameTexts hs hs'⟩

theorem family_footprint_of_edits :
    let product : Entity := ⟨"Product", [.of "Id" "Guid", .of "Price" "int"]⟩
    let audited : Entity :=
      ⟨"Product", [.of "Price" "int", .of "Id" "Guid", .of "CreatedDate" "DateTime"]⟩
    let retyped : Entity := ⟨"Product", [.of "Id" "Guid", .of "Price" "decimal"]⟩
    SameAt "SCT" product audited .handlers (handlerName product.byIdName) ∧
    SameAt "SCT" product audited .commands (product.commandName .create) ∧
    SameAt "SCT" product retyped .validators (validatorName (product.commandName .update)) ∧
    List.Forall₂
      (fun a a' => a.folder = a'.folder ∧ a.fileName = a'.fileName ∧
        SameTexts "SCT" "Shop" a.content a'.content)
      (product.family "SCT") (product.family "Shop") := by
  intro product audited retyped
  obtain ⟨-, -, -, -, hhandlers, hcommands, -⟩ :=
    (family_footprint "SCT" "Shop" product audited).1 rfl (by decide)
  obtain ⟨hentity, hsolution⟩ := family_footprint "SCT" "Shop" product retyped
  obtain ⟨-, -, -, -, -, -, hvalidators⟩ := hentity rfl (by decide)
  exact ⟨hhandlers _ (by simp [Entity.requestNames]), hcommands (by decide) _ (by decide),
    hvalidators (by decide +kernel) _ (by decide), (hsolution (by decide) (by decide)).2⟩

end Scaffold
