import Scaffold.Proofs.Drafts
import Scaffold.Proofs.FamilyNames

/-!
# How the files of a family are wired

A family is closed: what one of its files names, another one declares, in a namespace that is
opened there. Classes do not collide, files are named after their classes, namespaces follow the
directories, and every request has its one handler. All of this is said about what is read off the
texts of the artifacts.

* `IsWired`: what it means for some artifacts to be wired.
* `Entity.classNames_nodup`: the classes of a family have different names.
* `Entity.isSupplied_of_mem_drafts`: what classes derive from is declared within reach.
* `Entity.filter_handles_classes`: every request has one handler.
* `Entity.dotted_under_serviceRoot`: namespaces follow directories.
* `family_wired`: every family is wired.
-/

namespace Scaffold

open Text

/-! ### Wiring -/

/-- The outline of an artifact. -/
def Artifact.outline (a : Artifact) : Outline := Scaffold.outline a.content

/-- The names of the classes that are declared. -/
def Outline.classNames (o : Outline) : List String := o.headers.map Header.name

/-- The types of the library's own that are named: by the headers, by the signatures, and behind
`new`. -/
def Outline.types (o : Outline) : List String :=
  o.headers.flatMap (fun h => (h.base?.map Base.types).getD []) ++
    o.signatures.flatMap (fun sig => [sig.asked, sig.response.name]) ++
      o.created.map ResponseType.name

/-- Whether a class handles a request. -/
def Header.handles (request : String) (h : Header) : Bool :=
  match h.base? with
  | some (.handler asked _) => asked = request
  | _ => false

/-- The namespace that a directory stands for. -/
def dotted (p : Path) : String :=
  String.ofList (p.text.toList.map fun c => if c = '/' then '.' else c)

/-- Some artifacts below a service root are closed and fit together. -/
structure IsWired (root : Path) (artifacts : List Artifact) : Prop where
  /-- No two classes have the same name. -/
  apart : (artifacts.flatMap fun a => a.outline.classNames).Nodup
  /-- Every file is named after its first class. -/
  named : ∀ a ∈ artifacts, ∃ name, a.outline.classNames.head? = some name ∧
    a.fileName = name ++ "." ++ Artifact.extension
  /-- Every file declares the one namespace that its directory stands for. -/
  placed : ∀ a ∈ artifacts, a.outline.homes = [dotted (a.folder.under root)]
  /-- What a class derives from can be read. -/
  readable : ∀ a ∈ artifacts, ∀ h ∈ a.outline.headers, h.tail = "" ∨ ∃ b, h.base? = some b
  /-- What a file names is declared in its namespace or in one that it uses. -/
  closed : ∀ a ∈ artifacts, ∀ type ∈ a.outline.types, ∃ b ∈ artifacts,
    type ∈ b.outline.classNames ∧
      ∃ home ∈ b.outline.homes, home ∈ a.outline.homes ++ a.outline.uses
  /-- Every request has one handler, which gives the response that the request asks for. -/
  handled : ∀ a ∈ artifacts, ∀ h ∈ a.outline.headers, ∀ response,
    h.base? = some (.request response) → ∃ handler,
      (artifacts.flatMap fun a => a.outline.headers).filter (Header.handles h.name) = [handler] ∧
        handler.base? = some (.handler h.name response)
  /-- A handler has the signature that its header announces, and creates its response. -/
  answered : ∀ a ∈ artifacts, ∀ h ∈ a.outline.headers, ∀ asked response,
    h.base? = some (.handler asked response) →
      a.outline.signatures = [⟨asked, response⟩] ∧ a.outline.created = [response]

/-! ### What is read of a file -/

/-- The signatures that a class announces by what it derives from. -/
def ClassDecl.announced (c : ClassDecl) : List Signature :=
  match c.base with
  | some (.handler asked response) => [⟨asked, response⟩]
  | _ => []

/-- Whether a class is written to handle a request. -/
def ClassDecl.handles (request : String) (c : ClassDecl) : Bool :=
  match c.base with
  | some (.handler asked _) => asked = request
  | _ => false

theorem ClassDecl.handles_heading {c : ClassDecl} (h : c.IsPlain) (request : String) :
    Header.handles request c.heading = c.handles request := by
  rw [Header.handles, base?_heading h.base, handles]

namespace SourceFile

variable {f : SourceFile}

theorem classNames_parts (f : SourceFile) : f.parts.classNames = f.classes.map ClassDecl.name := by
  simp [Outline.classNames, parts, ClassDecl.heading]

/-- A header that is read is that of a class, with what the class derives from. -/
theorem exists_of_mem_headers (hf : f.IsPlain) {h : Header} (hh : h ∈ f.parts.headers) :
    ∃ c ∈ f.classes, h = c.heading ∧ h.base? = c.base := by
  obtain ⟨c, hc, rfl⟩ := List.mem_map.mp hh
  exact ⟨c, hc, rfl, ClassDecl.base?_heading (hf.classes c hc).base⟩

/-- In a file whose handlers do what they announce, every type that is named is named in the
header of a class. -/
theorem exists_of_mem_types (hf : f.IsPlain)
    (hannounced : f.parts.signatures = f.classes.flatMap ClassDecl.announced) {type : String}
    (h : type ∈ f.parts.types) : ∃ c ∈ f.classes, ∃ b, c.base = some b ∧ type ∈ b.types := by
  have hsignature : ∀ sig ∈ f.parts.signatures, ∃ c ∈ f.classes,
      c.base = some (.handler sig.asked sig.response) := by
    intro sig hsig
    rw [hannounced] at hsig
    obtain ⟨c, hc, hsig⟩ := List.mem_flatMap.mp hsig
    refine ⟨c, hc, ?_⟩
    unfold ClassDecl.announced at hsig
    split at hsig
    · next hbase => rw [List.mem_singleton.mp hsig, hbase]
    · cases hsig
  rw [Outline.types, parts_created] at h
  rcases List.mem_append.mp h with h | h
  · rcases List.mem_append.mp h with h | h
    · obtain ⟨header, hheader, h⟩ := List.mem_flatMap.mp h
      obtain ⟨c, hc, -, hbase⟩ := exists_of_mem_headers hf hheader
      rw [hbase] at h
      cases hb : c.base with
      | none =>
        rw [hb] at h
        cases h
      | some b =>
        rw [hb] at h
        exact ⟨c, hc, b, hb, h⟩
    · obtain ⟨sig, hsig, h⟩ := List.mem_flatMap.mp h
      obtain ⟨c, hc, hbase⟩ := hsignature sig hsig
      exact ⟨c, hc, _, hbase, h⟩
  · obtain ⟨response, hresponse, rfl⟩ := List.mem_map.mp h
    obtain ⟨sig, hsig, rfl⟩ := List.mem_map.mp hresponse
    obtain ⟨c, hc, hbase⟩ := hsignature sig hsig
    exact ⟨c, hc, _, hbase, by simp [Base.types]⟩

end SourceFile

/-! ### Names -/

/-- The third character from the end, which tells the kinds of names apart. -/
def kind (s : String) : Option Char := s.toList.reverse[2]?

theorem ne_of_kind {s t : String} (h : kind s ≠ kind t) : s ≠ t := by
  rintro rfl
  exact h rfl

namespace Entity

variable (e : Entity)

theorem responseName_inj {v w : Verb} : e.responseName v = e.responseName w ↔ v = w := by
  refine ⟨fun h => ?_, congrArg e.responseName⟩
  have hhead := congrArg (·.toList.head?) h
  cases v <;> cases w <;> first | rfl | simp [responseName, Verb.word] at hhead

/-- The classes of a family, file by file. -/
def classes (solution : String) : List ClassDecl :=
  (e.drafts solution).flatMap fun d => d.source.classes

/-- The classes of a family have different names. -/
theorem classNames_nodup (solution : String) :
    ((e.classes solution).map ClassDecl.name).Nodup := by
  have hcommand : ∀ v, kind (e.commandName v) = some 'a' := by
    simp [kind, commandName]
  have hresponse : ∀ v, kind (e.responseName v) = some 'n' := by
    simp [kind, responseName]
  have hbyId : kind e.byIdName = some 'e' := by simp [kind, byIdName]
  have hall : kind e.allName = some 'e' := by simp [kind, allName]
  have hdto : kind e.dtoName = some 'D' := by simp [kind, dtoName]
  have hvalidator : ∀ request, kind (validatorName request) = some 't' := by
    simp [kind, validatorName]
  have hhandler : ∀ request, kind (handlerName request) = some 'l' := by
    simp [kind, handlerName]
  have hne : ∀ s t : String, kind s ≠ kind t → (s = t) = False :=
    fun s t h => eq_false (ne_of_kind h)
  simp [classes, drafts, commandFile, byIdFile, allFile, queryFile, dtoFile, createValidatorFile,
    updateValidatorFile, byIdValidatorFile, validatorFile, commandHandlerFile, byIdHandlerFile,
    allHandlerFile, handlerFile, validatorName_inj, handlerName_inj, commandName_inj,
    responseName_inj, byIdName_ne_allName, hne, hcommand, hresponse, hbyId, hall, hdto, hvalidator,
    hhandler]

/-! ### The drafts of a family -/

variable {e} {solution : String}

/-- What holds of every kind of draft holds of the drafts of a family. -/
theorem forall_mem_drafts {P : Draft → Prop}
    (hcommand : ∀ v, P ⟨.commands, e.commandName v, e.commandFile solution v⟩)
    (hquery : ∀ name response members, members.flatMap Member.signatures = [] →
      P ⟨.queries, name, e.queryFile solution name response members⟩)
    (hdto : P ⟨.dtos, e.dtoName, e.dtoFile solution⟩)
    (hvalidator : ∀ folder request chains,
      P ⟨.validators, validatorName request, e.validatorFile solution folder request chains⟩)
    (hhandler : ∀ folders request response reply,
      P ⟨.handlers, handlerName request, e.handlerFile solution folders request response reply⟩) :
    ∀ d ∈ e.drafts solution, P d := by
  simp only [drafts, List.forall_mem_cons]
  exact ⟨hcommand _, hcommand _, hcommand _, hquery _ _ _ rfl, hquery _ _ _ rfl, hdto,
    hvalidator _ _ _, hvalidator _ _ _, hvalidator _ _ _, hhandler _ _ _ _, hhandler _ _ _ _,
    hhandler _ _ _ _, hhandler _ _ _ _, hhandler _ _ _ _, List.forall_mem_nil _⟩

/-- Every draft is filed under the name of its first class. -/
theorem head?_classNames_of_mem_drafts : ∀ d ∈ e.drafts solution,
    (d.source.classes.map ClassDecl.name).head? = some d.title := by
  apply forall_mem_drafts <;> intros <;> rfl

/-- The namespace of a draft is that of its folder. -/
theorem home_of_mem_drafts : ∀ d ∈ e.drafts solution, d.source.home = e.space solution d.folder := by
  apply forall_mem_drafts <;> intros <;> rfl

/-- A type that is declared in a folder of the family. -/
def IsDeclaredIn (e : Entity) (solution : String) (f : Folder) (type : String) : Prop :=
  ∃ d ∈ e.drafts solution, d.folder = f ∧ type ∈ d.source.classes.map ClassDecl.name

theorem isDeclaredIn_commands (v : Verb) : e.IsDeclaredIn solution .commands (e.commandName v) ∧
    e.IsDeclaredIn solution .commands (e.responseName v) := by
  have hmem := e.commandFile_mem_drafts solution v
  constructor
  · exact ⟨_, hmem, rfl, List.mem_cons_self⟩
  · exact ⟨_, hmem, rfl, List.mem_cons_of_mem _ List.mem_cons_self⟩

theorem isDeclaredIn_byIdName : e.IsDeclaredIn solution .queries e.byIdName :=
  ⟨_, e.byIdFile_mem_drafts solution, rfl, List.mem_cons_self⟩

theorem isDeclaredIn_allName : e.IsDeclaredIn solution .queries e.allName :=
  ⟨_, e.allFile_mem_drafts solution, rfl, List.mem_cons_self⟩

theorem isDeclaredIn_dtoName : e.IsDeclaredIn solution .dtos e.dtoName :=
  ⟨_, e.dtoFile_mem_drafts solution, rfl, List.mem_cons_self⟩

/-- What the classes of a file derive from is declared in the namespace of the file or in one that
it uses. -/
def IsSupplied (e : Entity) (solution : String) (f : SourceFile) : Prop :=
  ∀ c ∈ f.classes, ∀ b, c.base = some b → ∀ type ∈ b.types, ∃ folder,
    e.IsDeclaredIn solution folder type ∧ e.space solution folder ∈ f.home :: f.uses

theorem isSupplied_commandFile (v : Verb) : e.IsSupplied solution (e.commandFile solution v) := by
  intro c hc b hb type htype
  rcases List.mem_cons.mp hc with rfl | hc
  · cases hb
    rw [List.mem_singleton.mp htype]
    exact ⟨.commands, (isDeclaredIn_commands v).2, List.mem_cons_self⟩
  · rw [List.mem_singleton.mp hc] at hb
    cases hb

theorem isSupplied_queryFile {name : String} {response : ResponseType} {members : List Member}
    (hresponse : response.name = e.dtoName) :
    e.IsSupplied solution (e.queryFile solution name response members) := by
  intro c hc b hb type htype
  rw [List.mem_singleton.mp hc] at hb
  cases hb
  rw [List.mem_singleton.mp htype, hresponse]
  exact ⟨.dtos, isDeclaredIn_dtoName, by simp [queryFile]⟩

theorem isSupplied_dtoFile : e.IsSupplied solution (e.dtoFile solution) := by
  intro c hc b hb
  rw [List.mem_singleton.mp hc] at hb
  cases hb

theorem isSupplied_validatorFile {folder : Folder} {request : String} {chains : List RuleChain}
    (hrequest : e.IsDeclaredIn solution folder request) :
    e.IsSupplied solution (e.validatorFile solution folder request chains) := by
  intro c hc b hb type htype
  rw [List.mem_singleton.mp hc] at hb
  cases hb
  rw [List.mem_singleton.mp htype]
  exact ⟨folder, hrequest, by simp [validatorFile]⟩

theorem isSupplied_handlerFile {folders : List Folder} {request : String} {response : ResponseType}
    {reply : Reply} (hrequest : ∃ f ∈ folders, e.IsDeclaredIn solution f request)
    (hresponse : ∃ f ∈ folders, e.IsDeclaredIn solution f response.name) :
    e.IsSupplied solution (e.handlerFile solution folders request response reply) := by
  intro c hc b hb type htype
  rw [List.mem_singleton.mp hc] at hb
  cases hb
  have huses : ∀ f ∈ folders, e.space solution f ∈ "MediatR" :: folders.map (e.space solution) :=
    fun f hf => List.mem_cons_of_mem _ (List.mem_map_of_mem hf)
  rcases List.mem_cons.mp htype with rfl | htype
  · obtain ⟨f, hf, hdeclared⟩ := hrequest
    exact ⟨f, hdeclared, List.mem_cons_of_mem _ (huses f hf)⟩
  · rw [List.mem_singleton.mp htype]
    obtain ⟨f, hf, hdeclared⟩ := hresponse
    exact ⟨f, hdeclared, List.mem_cons_of_mem _ (huses f hf)⟩

theorem isSupplied_of_mem_drafts : ∀ d ∈ e.drafts solution, e.IsSupplied solution d.source := by
  have hcommand : ∀ v, e.IsSupplied solution (e.commandFile solution v) := isSupplied_commandFile
  have hdto : ∃ f ∈ [Folder.dtos, .queries], e.IsDeclaredIn solution f e.dtoName :=
    ⟨.dtos, by simp, isDeclaredIn_dtoName⟩
  have hhandler : ∀ v, e.IsSupplied solution (e.commandHandlerFile solution v) := by
    intro v
    exact isSupplied_handlerFile ⟨.commands, by simp, (isDeclaredIn_commands v).1⟩
      ⟨.commands, by simp, (isDeclaredIn_commands v).2⟩
  simp only [drafts, List.forall_mem_cons]
  refine ⟨hcommand _, hcommand _, hcommand _, isSupplied_queryFile rfl, isSupplied_queryFile rfl,
    isSupplied_dtoFile, ?_, ?_, ?_, hhandler _, hhandler _, hhandler _, ?_, ?_,
    List.forall_mem_nil _⟩
  · exact isSupplied_validatorFile (isDeclaredIn_commands _).1
  · exact isSupplied_validatorFile (isDeclaredIn_commands _).1
  · exact isSupplied_validatorFile isDeclaredIn_byIdName
  · exact isSupplied_handlerFile ⟨.queries, by simp, isDeclaredIn_byIdName⟩ hdto
  · exact isSupplied_handlerFile ⟨.queries, by simp, isDeclaredIn_allName⟩ hdto

/-- The handlers of the family do what they announce. -/
theorem signatures_of_mem_drafts : ∀ d ∈ e.drafts solution,
    d.source.parts.signatures = d.source.classes.flatMap ClassDecl.announced := by
  apply forall_mem_drafts
  case hcommand =>
    intro v
    cases v <;> simp [SourceFile.parts, commandFile, requestFields, responseFields, keyField,
      outcomeFields, Member.plain, Member.signatures, signatures_fields, ClassDecl.announced]
  case hquery =>
    intro name response members hmembers
    simpa [SourceFile.parts, queryFile, ClassDecl.announced] using hmembers
  case hdto => simp [SourceFile.parts, dtoFile, signatures_fields, ClassDecl.announced]
  case hvalidator =>
    intro folder request chains
    rfl
  case hhandler =>
    intro folders request response reply
    rfl

/-- A file with a handler has no other class. -/
theorem classes_of_handler : ∀ d ∈ e.drafts solution, ∀ c ∈ d.source.classes,
    ∀ asked response, c.base = some (.handler asked response) → d.source.classes = [c] := by
  apply forall_mem_drafts
  case hcommand => simp [commandFile]
  case hquery => simp [queryFile]
  case hdto => simp [dtoFile]
  case hvalidator => simp [validatorFile]
  case hhandler => simp [handlerFile]

/-- Every request of the family has one handler, which gives the response that is asked for. -/
theorem filter_handles_classes : ∀ c ∈ e.classes solution, ∀ response,
    c.base = some (.request response) → ∃ handler,
      (e.classes solution).filter (ClassDecl.handles c.name) = [handler] ∧
        handler.base = some (.handler c.name response) := by
  have hbyId := fun v => (e.commandName_ne_byIdName v).symm
  have hall := fun v => (e.commandName_ne_allName v).symm
  have hqueries := e.byIdName_ne_allName.symm
  simp [classes, drafts, commandFile, byIdFile, allFile, queryFile, dtoFile,
    createValidatorFile, updateValidatorFile, byIdValidatorFile, validatorFile, commandHandlerFile,
    byIdHandlerFile, allHandlerFile, handlerFile, ClassDecl.handles, commandName_inj,
    commandName_ne_byIdName, commandName_ne_allName, byIdName_ne_allName, hbyId, hall, hqueries]

/-! ### Directories -/

/-- The directory of a folder, as it is written. -/
theorem text_under_serviceRoot (he : Path.IsName e.name) (f : Folder) :
    (f.under (e.serviceRoot solution)).text =
      solution ++ ".Shared" ++ "/" ++ "Services" ++ "/" ++ e.name ++ "/" ++ f.name := by
  have hfolder := Path.text_join_of_relative f.isName.isAbsolute (p := e.serviceRoot solution)
    (Path.text_join_ne_empty he.ne_empty)
  have hslash : (e.serviceRoot solution).endsInSlash = false :=
    he.isPiece.endsInSlash_join (Path.join ⟨solution ++ ".Shared"⟩ ⟨"Services"⟩)
  rw [hslash] at hfolder
  rw [Folder.under, hfolder, text_serviceRoot he]
  rfl

/-- Every namespace is that of the directory it goes to. -/
theorem dotted_under_serviceRoot (hsolution : '/' ∉ solution.toList) (he : Path.IsName e.name)
    (f : Folder) : dotted (f.under (e.serviceRoot solution)) = e.space solution f := by
  have hkept : ∀ s : String, '/' ∉ s.toList →
      s.toList.map (fun c => if c = '/' then '.' else c) = s.toList := by
    intro s hs
    refine (List.map_congr_left fun c hc => ?_).trans (List.map_id _)
    have hne : c ≠ '/' := fun heq => hs (heq ▸ hc)
    exact if_neg hne
  have hfolder := hkept f.name f.isName.no_slash
  rw [dotted, text_under_serviceRoot he]
  refine String.toList_injective ?_
  rw [String.toList_ofList]
  simp [hkept solution hsolution, hkept e.name he.no_slash, hfolder, space]

end Entity

/-! ### The family -/

namespace Entity

variable {e : Entity} {solution : String}

theorem outline_of_mem_drafts (hsolution : NoBlank solution) (hread : e.IsReadable) :
    ∀ d ∈ e.drafts solution, d.artifact.outline = d.source.parts :=
  fun _ hd => outline_artifact hsolution hread hd

/-- The classes that are read in a family are those of the drafts. -/
theorem classNames_family (hsolution : NoBlank solution) (hread : e.IsReadable) :
    ((e.family solution).flatMap fun a => a.outline.classNames) =
      (e.classes solution).map ClassDecl.name := by
  rw [family, List.flatMap_map, classes, List.map_flatMap]
  refine List.flatMap_congr fun d hd => ?_
  rw [outline_of_mem_drafts hsolution hread d hd, SourceFile.classNames_parts]

/-- The headers that are read in a family are those of the drafts. -/
theorem headers_family (hsolution : NoBlank solution) (hread : e.IsReadable) :
    ((e.family solution).flatMap fun a => a.outline.headers) =
      (e.classes solution).map ClassDecl.heading := by
  rw [family, List.flatMap_map, classes, List.map_flatMap]
  refine List.flatMap_congr fun d hd => ?_
  rw [outline_of_mem_drafts hsolution hread d hd]
  rfl

theorem isPlain_of_mem_classes (hsolution : NoBlank solution) (hread : e.IsReadable) :
    ∀ c ∈ e.classes solution, c.IsPlain := by
  intro c hc
  obtain ⟨d, hd, hc⟩ := List.mem_flatMap.mp hc
  exact (isPlain_of_mem_drafts hsolution hread d hd).classes c hc

/-- Every request has one handler among the headers that are read. -/
theorem filter_handles_family (hsolution : NoBlank solution) (hread : e.IsReadable) {c : ClassDecl}
    (hc : c ∈ e.classes solution) {response : ResponseType}
    (hresponse : c.base = some (.request response)) : ∃ handler,
      ((e.family solution).flatMap fun a => a.outline.headers).filter (Header.handles c.name) =
        [handler] ∧ handler.base? = some (.handler c.name response) := by
  have hplain := isPlain_of_mem_classes hsolution hread
  obtain ⟨handler, hfilter, hhandler⟩ := filter_handles_classes c hc response hresponse
  have hread' : (e.classes solution).filter (Header.handles c.name ∘ ClassDecl.heading) =
      (e.classes solution).filter (ClassDecl.handles c.name) :=
    List.filter_congr fun c' hc' => ClassDecl.handles_heading (hplain c' hc') c.name
  have hmem : handler ∈ (e.classes solution).filter (ClassDecl.handles c.name) :=
    hfilter ▸ List.mem_singleton_self handler
  refine ⟨handler.heading, ?_, ?_⟩
  · rw [headers_family hsolution hread, List.filter_map, hread', hfilter]
    rfl
  · rw [ClassDecl.base?_heading (hplain handler (List.mem_of_mem_filter hmem)).base]
    exact hhandler

end Entity

/-- **A family is closed and wired**, whatever the entity is called: no two of its classes share a
name, its files and namespaces are named as they should be, what it names it declares within reach,
and every request has the one handler that answers it. -/
theorem family_wired {definition solution : String} {e : Entity}
    (hparse : Entity.parse definition = .ok e) (hsolution : NoBlank solution)
    (hslash : '/' ∉ solution.toList) : IsWired (e.serviceRoot solution) (e.family solution) := by
  have hread := isReadable_of_parse hparse
  have hname := Definition.isName_of_parse hparse
  have hplain := Entity.isPlain_of_mem_drafts hsolution hread
  have houtline := Entity.outline_of_mem_drafts hsolution hread
  constructor
  case apart =>
    rw [Entity.classNames_family hsolution hread]
    exact e.classNames_nodup solution
  case named =>
    intro a ha
    obtain ⟨d, hd, rfl⟩ := List.mem_map.mp ha
    refine ⟨d.title, ?_, rfl⟩
    rw [houtline d hd, SourceFile.classNames_parts]
    exact Entity.head?_classNames_of_mem_drafts d hd
  case placed =>
    intro a ha
    obtain ⟨d, hd, rfl⟩ := List.mem_map.mp ha
    rw [houtline d hd]
    change [d.source.home] = [dotted (d.folder.under (e.serviceRoot solution))]
    rw [Entity.dotted_under_serviceRoot hslash hname, Entity.home_of_mem_drafts d hd]
  case readable =>
    intro a ha h hh
    obtain ⟨d, hd, rfl⟩ := List.mem_map.mp ha
    rw [houtline d hd] at hh
    obtain ⟨c, hc, rfl, hbase⟩ := SourceFile.exists_of_mem_headers (hplain d hd) hh
    cases hb : c.base with
    | none =>
      left
      simp [ClassDecl.heading, hb]
    | some b =>
      right
      exact ⟨b, hbase.trans hb⟩
  case closed =>
    intro a ha type htype
    obtain ⟨d, hd, rfl⟩ := List.mem_map.mp ha
    rw [houtline d hd] at htype
    obtain ⟨c, hc, b, hb, htype⟩ := SourceFile.exists_of_mem_types (hplain d hd)
      (Entity.signatures_of_mem_drafts d hd) htype
    obtain ⟨f, ⟨d', hd', rfl, hdeclared⟩, hspace⟩ :=
      Entity.isSupplied_of_mem_drafts d hd c hc b hb type htype
    refine ⟨d'.artifact, List.mem_map_of_mem hd', ?_⟩
    rw [houtline d hd, houtline d' hd', SourceFile.classNames_parts]
    refine ⟨hdeclared, _, List.mem_cons_self, ?_⟩
    rw [Entity.home_of_mem_drafts d' hd']
    exact hspace
  case handled =>
    intro a ha h hh response hresponse
    obtain ⟨d, hd, rfl⟩ := List.mem_map.mp ha
    rw [houtline d hd] at hh
    obtain ⟨c, hc, rfl, hbase⟩ := SourceFile.exists_of_mem_headers (hplain d hd) hh
    have hmem : c ∈ e.classes solution := List.mem_flatMap.mpr ⟨d, hd, hc⟩
    exact Entity.filter_handles_family hsolution hread hmem (hbase.symm.trans hresponse)
  case answered =>
    intro a ha h hh asked response hresponse
    obtain ⟨d, hd, rfl⟩ := List.mem_map.mp ha
    rw [houtline d hd] at hh ⊢
    obtain ⟨c, hc, rfl, hbase⟩ := SourceFile.exists_of_mem_headers (hplain d hd) hh
    have hhandler := hbase.symm.trans hresponse
    have hsignatures : d.source.parts.signatures = [⟨asked, response⟩] := by
      rw [Entity.signatures_of_mem_drafts d hd,
        Entity.classes_of_handler d hd c hc asked response hhandler]
      simp [ClassDecl.announced, hhandler]
    refine ⟨hsignatures, ?_⟩
    rw [SourceFile.parts_created, hsignatures]
    rfl

/-- Names of classes in the family are made of the same words as this one. -/
theorem family_wired_of_all :
    let definition := "public class All \x7b public All new \x7b get; set; \x7d \x7d"
    let all : Entity := ⟨"All", [.of "new" "All"]⟩
    Entity.parse definition = .ok all ∧ NoBlank "class" ∧ '/' ∉ "class".toList ∧
      IsWired ⟨"class.Shared/Services/All"⟩ (all.family "class") := by
  intro definition all
  have hparse : Entity.parse definition = .ok all := by decide +kernel
  have hsolution : NoBlank "class" := by decide
  have hslash : '/' ∉ "class".toList := by decide
  have hroot : all.serviceRoot "class" = ⟨"class.Shared/Services/All"⟩ := by decide +kernel
  refine ⟨hparse, hsolution, hslash, ?_⟩
  rw [← hroot]
  exact family_wired hparse hsolution hslash

end Scaffold
