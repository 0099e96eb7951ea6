import Scaffold.Family
import Scaffold.Proofs.Written

/-!
# Reading the family of an entity back

The commands, the queries and the class that carries an entity, read as definitions: which
properties each declares, as an ordered list with duplicates kept.

* `Entity.IsReadable`: the name is made of word characters, and types and names of properties are
  words. What is read from a definition is of this kind (`isReadable_of_parse`).
* `declarations_commandFile`, `declarations_queryFile`, `declarations_dtoFile`: what the files
  declare, one by one.
* `parse_dtoFile`: the class that carries an entity is a definition of the same properties.
* `family_reads_back`: all of this about the artifacts of a family.
-/

namespace Scaffold

open Text Definition

/-! ### Entities that can be read back -/

/-- An entity as it is read from a definition: its name is a run of word characters, and the types
and the names of its properties are words. -/
structure Entity.IsReadable (e : Entity) : Prop where
  name : IsWordRun e.name.toList
  properties : ∀ p ∈ e.properties, IsToken p.type.toList ∧ IsToken p.name.toList

/-- What is read from a definition can be read back. -/
theorem isReadable_of_parse {definition : String} {e : Entity}
    (h : Entity.parse definition = .ok e) : e.IsReadable := by
  refine ⟨isWordRun_of_parse h, ?_⟩
  obtain ⟨name, -, rfl⟩ := Entity.parse_eq_ok_iff.mp h
  obtain ⟨found, hscan, hlist⟩ := exists_scan definition.toList 0
  rw [List.drop_zero] at hlist
  intro p hp
  obtain ⟨f, hf, rfl⟩ := List.mem_map.mp (hlist ▸ hp)
  obtain ⟨-, hreads, -⟩ := hscan.spans f hf
  rw [Found.property, Property.type_of, Property.name_of, String.toList_ofList,
    String.toList_ofList]
  exact hreads.2.2.tokens

/-! ### Names -/

/-- Word characters only, possibly none. -/
def AllWord (s : String) : Prop := ∀ c ∈ s.toList, isWord c = true

instance (s : String) : Decidable (AllWord s) := List.decidableBAll (isWord · = true) s.toList

theorem AllWord.append {s t : String} (hs : AllWord s) (ht : AllWord t) : AllWord (s ++ t) := by
  intro c hc
  rw [String.toList_append] at hc
  rcases List.mem_append.mp hc with h | h
  · exact hs c h
  · exact ht c h

theorem AllWord.noBlank {s : String} (h : AllWord s) : NoBlank s :=
  fun c hc => isBlank_eq_false_of_isWord (h c hc)

/-- Word characters with an ending that `public` does not have make the name of a class. -/
theorem AllWord.isClassName {s ending : String} (hs : AllWord s) (hending : AllWord ending)
    {c : Char} (hlast : ending.toList.getLast? = some c) (hc : c ≠ 'c') :
    IsClassName (s ++ ending) := by
  have hword := hs.append hending
  have hsame := getLast?_toList_append (s := s) hlast
  refine ⟨⟨?_, hword⟩, ?_⟩
  · intro hnil
    rw [hnil] at hsame
    cases hsame
  · rw [hsame]
    exact fun h => hc (Option.some.inj h)

namespace Entity

variable {e : Entity}

theorem IsReadable.allWord (h : e.IsReadable) : AllWord e.name := h.name.2

theorem isClassName_commandName (h : e.IsReadable) (v : Verb) : IsClassName (e.commandName v) := by
  have hverb : AllWord v.word := by cases v <;> decide +kernel
  have hending : AllWord "Command" := by decide +kernel
  exact (hverb.append h.allWord).isClassName hending (c := 'd') (by decide) (by decide)

theorem isClassName_responseName (h : e.IsReadable) (v : Verb) :
    IsClassName (e.responseName v) := by
  have hverb : AllWord v.word := by cases v <;> decide +kernel
  have hending : AllWord "Response" := by decide +kernel
  exact (hverb.append h.allWord).isClassName hending (c := 'e') (by decide) (by decide)

theorem isClassName_byIdName (h : e.IsReadable) : IsClassName e.byIdName := by
  have hget : AllWord "Get" := by decide +kernel
  have hending : AllWord "ByIdQuery" := by decide +kernel
  exact (hget.append h.allWord).isClassName hending (c := 'y') (by decide) (by decide)

theorem isClassName_allName (h : e.IsReadable) : IsClassName e.allName := by
  have hget : AllWord "GetAll" := by decide +kernel
  have hending : AllWord "Query" := by decide +kernel
  exact (hget.append h.allWord).isClassName hending (c := 'y') (by decide) (by decide)

theorem isClassName_dtoName (h : e.IsReadable) : IsClassName e.dtoName := by
  have hending : AllWord "DTO" := by decide +kernel
  exact h.allWord.isClassName hending (c := 'O') (by decide) (by decide)

/-- A namespace has no blanks when the solution has none. -/
theorem noBlank_space {solution : String} (hsolution : NoBlank solution) (h : e.IsReadable)
    (f : Folder) : NoBlank (e.space solution f) := by
  have hshared : NoBlank ".Shared.Services." := by decide
  have hdot : NoBlank "." := by decide
  have hfolder : NoBlank f.name := by cases f <;> decide
  exact (((hsolution.append hshared).append h.allWord.noBlank).append hdot).append hfolder

end Entity

/-- The base of a request is one word. -/
theorem noBlank_requestBase {response : ResponseType} (h : NoBlank response.text) :
    NoBlank (Base.request response).text := by
  have hopen : NoBlank "IRequest<" := by decide
  have hclose : NoBlank ">" := by decide
  exact (hopen.append h).append hclose

theorem getLast?_requestBase (response : ResponseType) :
    (Base.request response).text.toList.getLast? ≠ some 'c' := by
  have hclose : ">".toList.getLast? = some '>' := by decide
  have hlast := getLast?_toList_append (s := "IRequest<" ++ response.text) hclose
  intro h
  exact absurd (hlast.symm.trans h) (by decide)

/-! ### Fields -/

/-- Every initializer is calm. -/
theorem calm_initializer (type : String) :
    calm (" = " ++ initializer type ++ ";\n").toList = true := by
  have hfallback : calm (" = " ++ fallbackInitializer ++ ";\n").toList = true := by decide
  have hknown : ∀ entry ∈ initializers, calm (" = " ++ entry.2 ++ ";\n").toList = true := by
    decide
  rcases initializer_cases type with ⟨entry, hentry, -, hvalue⟩ | ⟨-, hvalue⟩
  · rw [hvalue]
    exact hknown entry hentry
  · rw [hvalue]
    exact hfallback

/-- The field for a property declares it. -/
theorem declares_field {p : Property} (h : IsToken p.type.toList ∧ IsToken p.name.toList) :
    p.field.Declares p :=
  .initialized h.1 h.2 (calm_initializer p.type)

theorem declares_fields {ps : List Property}
    (h : ∀ p ∈ ps, IsToken p.type.toList ∧ IsToken p.name.toList) :
    List.Forall₂ Member.Declares (ps.map Property.field) ps := by
  induction ps with
  | nil => exact .nil
  | cons p ps ih =>
    exact .cons (declares_field (h p List.mem_cons_self))
      (ih fun q hq => h q (List.mem_cons_of_mem _ hq))

/-- What every response declares. -/
def outcomeProperties : List Property := [.of "Success" "bool", .of "Message" "string"]

theorem declares_outcomeFields : List.Forall₂ Member.Declares outcomeFields outcomeProperties :=
  .cons (.plain (p := .of "Success" "bool") (by decide) (by decide))
    (.cons (.initialized (p := .of "Message" "string") (by decide) (by decide) (by decide)) .nil)

/-- What the query for all entities declares. -/
def filterProperties : List Property :=
  [.of "Status" "string?", .of "StartDate" "DateTime?", .of "EndDate" "DateTime?"]

theorem declares_filterFields :
    List.Forall₂ Member.Declares Entity.filterFields filterProperties :=
  .cons (.plain (p := .of "Status" "string?") (by decide) (by decide))
    (.cons (.plain (p := .of "StartDate" "DateTime?") (by decide) (by decide))
      (.cons (.plain (p := .of "EndDate" "DateTime?") (by decide) (by decide)) .nil))

namespace Entity

variable {e : Entity} {solution : String}

/-- The key is a property of the entity, or made from words. -/
theorem IsReadable.key (h : e.IsReadable) :
    IsToken e.key.type.toList ∧ IsToken e.key.name.toList := by
  unfold Entity.key
  cases hfind : e.properties.find? (·.isKey) with
  | some p => exact h.properties p (List.mem_of_find?_eq_some hfind)
  | none =>
    have htype : IsToken fallbackKeyType.toList := by decide
    have hsuffix : NoBlank keySuffix := by decide
    refine ⟨htype, fun hnil => ?_, h.allWord.noBlank.append hsuffix⟩
    have := (String.append_eq_empty_iff.mp (String.toList_eq_nil_iff.mp hnil)).2
    exact absurd this (by decide)

theorem declares_keyField (h : e.IsReadable) : e.keyField.Declares e.key :=
  .plain h.key.1 h.key.2

theorem declares_commandFields (h : e.IsReadable) :
    List.Forall₂ Member.Declares (e.commandFields.map Property.field) e.commandFields :=
  declares_fields fun p hp => h.properties p (List.mem_of_mem_filter hp)

/-- What the request that carries out a verb declares. -/
def requestProperties (e : Entity) : Verb → List Property
  | .create => e.commandFields
  | .update => e.key :: e.commandFields
  | .delete => [e.key]

/-- What the response to a command declares. -/
def responseProperties (e : Entity) : Verb → List Property
  | .create => e.key :: outcomeProperties
  | .update => outcomeProperties
  | .delete => outcomeProperties

theorem declares_requestFields (h : e.IsReadable) (v : Verb) :
    List.Forall₂ Member.Declares (e.requestFields v) (e.requestProperties v) := by
  cases v with
  | create => exact declares_commandFields h
  | update => exact .cons (declares_keyField h) (declares_commandFields h)
  | delete => exact .cons (declares_keyField h) .nil

theorem declares_responseFields (h : e.IsReadable) (v : Verb) :
    List.Forall₂ Member.Declares (e.responseFields v) (e.responseProperties v) := by
  cases v with
  | create => exact .cons (declares_keyField h) declares_outcomeFields
  | update => exact declares_outcomeFields
  | delete => exact declares_outcomeFields

/-! ### Files -/

/-- A command declares the fields of its request, and then those of its response. -/
theorem declarations_commandFile (hsolution : NoBlank solution) (h : e.IsReadable) (v : Verb) :
    declarations (e.commandFile solution v).text.toList =
      e.requestProperties v ++ e.responseProperties v := by
  have huses : ∀ space ∈ (e.commandFile solution v).uses, NoBlank space := by
    intro space hspace
    rw [List.mem_singleton.mp hspace]
    decide
  have hrequest := ClassDecl.readsAs_of_base (c := (⟨true, e.commandName v,
      some (.request (.one (e.responseName v))), e.requestFields v⟩ : ClassDecl)) rfl rfl
    (isClassName_commandName h v)
    (noBlank_requestBase (isClassName_responseName h v).isWordRun.isToken.2)
    (getLast?_requestBase _) (declares_requestFields h v)
  have hresponse := ClassDecl.readsAs_of_no_base
    (c := (⟨false, e.responseName v, none, e.responseFields v⟩ : ClassDecl)) rfl rfl
    (isClassName_responseName h v) (declares_responseFields h v)
  rw [SourceFile.declarations_text huses (noBlank_space hsolution h .commands)
    (.cons hrequest (.cons hresponse .nil))]
  simp

/-- A query declares its members. -/
theorem declarations_queryFile {name : String} {response : ResponseType} {members : List Member}
    {ps : List Property} (hsolution : NoBlank solution) (h : e.IsReadable)
    (hname : IsClassName name) (hresponse : NoBlank response.text)
    (hmembers : List.Forall₂ Member.Declares members ps) :
    declarations (e.queryFile solution name response members).text.toList = ps := by
  have huses : ∀ space ∈ (e.queryFile solution name response members).uses, NoBlank space := by
    intro space hspace
    rcases List.mem_cons.mp hspace with rfl | hspace
    · decide
    · rw [List.mem_singleton.mp hspace]
      exact noBlank_space hsolution h .dtos
  have hclass := ClassDecl.readsAs_of_base
    (c := (⟨true, name, some (.request response), members⟩ : ClassDecl)) rfl rfl hname
    (noBlank_requestBase hresponse) (getLast?_requestBase _) hmembers
  rw [SourceFile.declarations_text huses (noBlank_space hsolution h .queries) (.cons hclass .nil)]
  simp

theorem noBlank_dtoName (h : e.IsReadable) : NoBlank e.dtoName :=
  (isClassName_dtoName h).isWordRun.isToken.2

/-- The query for one entity declares its key. -/
theorem declarations_byIdFile (hsolution : NoBlank solution) (h : e.IsReadable) :
    declarations (e.byIdFile solution).text.toList = [e.key] := by
  have hresponse : NoBlank (ResponseType.one e.dtoName).text := noBlank_dtoName h
  exact declarations_queryFile hsolution h (isClassName_byIdName h) hresponse
    (.cons (declares_keyField h) .nil)

/-- The query for all entities declares what it can be narrowed by. -/
theorem declarations_allFile (hsolution : NoBlank solution) (h : e.IsReadable) :
    declarations (e.allFile solution).text.toList = filterProperties := by
  have hopen : NoBlank "List<" := by decide
  have hclose : NoBlank ">" := by decide
  have hresponse : NoBlank (ResponseType.many e.dtoName).text :=
    (hopen.append (noBlank_dtoName h)).append hclose
  exact declarations_queryFile hsolution h (isClassName_allName h) hresponse declares_filterFields

theorem noBlank_uses_dtoFile : ∀ space ∈ (e.dtoFile solution).uses, NoBlank space := by
  intro space hspace
  cases hspace

/-- The class that carries an entity declares its properties. -/
theorem declarations_dtoFile (hsolution : NoBlank solution) (h : e.IsReadable) :
    declarations (e.dtoFile solution).text.toList = e.properties := by
  have hclass := ClassDecl.readsAs_of_no_base
    (c := (⟨false, e.dtoName, none, e.properties.map Property.field⟩ : ClassDecl)) rfl rfl
    (isClassName_dtoName h) (declares_fields h.properties)
  rw [SourceFile.declarations_text (f := e.dtoFile solution) noBlank_uses_dtoFile
    (noBlank_space hsolution h .dtos) (.cons hclass .nil)]
  simp

/-- The class that carries an entity is a definition of the same properties. -/
theorem parse_dtoFile (hsolution : NoBlank solution) (h : e.IsReadable) :
    Entity.parse (e.dtoFile solution).text = .ok ⟨e.dtoName, e.properties⟩ := by
  have hname := SourceFile.className?_text (f := e.dtoFile solution)
    noBlank_uses_dtoFile (noBlank_space hsolution h .dtos) rfl rfl rfl
    (isClassName_dtoName h).isWordRun
  refine Entity.parse_eq_ok_iff.mpr ⟨_, hname, ?_⟩
  rw [declarations_dtoFile hsolution h, String.ofList_toList]

/-- One artifact of the family is a class that carries the entity. -/
theorem content_of_folder_dtos {a : Artifact} (ha : a ∈ e.family solution) (h : a.folder = .dtos) :
    a.content = (e.dtoFile solution).text := by
  simp only [family, drafts, List.map_cons, List.map_nil, List.mem_cons, List.not_mem_nil,
    or_false] at ha
  rcases ha with rfl | rfl | rfl | rfl | rfl | rfl | rfl | rfl | rfl | rfl | rfl | rfl | rfl | rfl
  case inr.inr.inr.inr.inr.inl => rfl
  all_goals cases h

end Entity

/-- **Generated classes read back to the fields that were written.** Of what is read from a
definition, and of every entity of that kind, the commands, the queries and the class that carries
the entity declare exactly these properties, in this order. The last one is a definition again,
of a class named after the entity with the same properties, so it determines the entity. -/
theorem family_reads_back :
    (∀ definition e, Entity.parse definition = .ok e → e.IsReadable) ∧
    ∀ (solution : String) (e : Entity), NoBlank solution → e.IsReadable →
      ((e.family solution).take 6).map
          (fun a => (a.folder, a.fileName, declarations a.content.toList)) =
        [(.commands, "Create" ++ e.name ++ "Command.cs",
            e.commandFields ++ [e.key, .of "Success" "bool", .of "Message" "string"]),
         (.commands, "Update" ++ e.name ++ "Command.cs",
            e.key :: e.commandFields ++ [.of "Success" "bool", .of "Message" "string"]),
         (.commands, "Delete" ++ e.name ++ "Command.cs",
            [e.key, .of "Success" "bool", .of "Message" "string"]),
         (.queries, "Get" ++ e.name ++ "ByIdQuery.cs", [e.key]),
         (.queries, "GetAll" ++ e.name ++ "Query.cs",
            [.of "Status" "string?", .of "StartDate" "DateTime?", .of "EndDate" "DateTime?"]),
         (.dtos, e.name ++ "DTO.cs", e.properties)] ∧
      (∀ a ∈ e.family solution, a.folder = .dtos →
        Entity.parse a.content = .ok ⟨e.name ++ "DTO", e.properties⟩) ∧
      ∀ (other : String) (e' : Entity), NoBlank other → e'.IsReadable →
        ∀ a ∈ e.family solution, ∀ a' ∈ e'.family other, a.folder = .dtos → a'.folder = .dtos →
          a.content = a'.content → e = e' := by
  refine ⟨fun definition e => isReadable_of_parse, ?_⟩
  intro solution e hsolution h
  refine ⟨?_, ?_, ?_⟩
  · have hfile : ∀ s t : String, s ++ t ++ "." ++ Artifact.extension = s ++ (t ++ ".cs") := by
      intro s t
      rw [Artifact.extension, String.append_assoc, String.append_assoc]
      rfl
    simp only [Entity.family, Entity.drafts, List.map_cons, List.take_succ_cons, List.take_zero,
      List.map_nil, Draft.artifact]
    rw [Entity.declarations_commandFile hsolution h, Entity.declarations_commandFile hsolution h,
      Entity.declarations_commandFile hsolution h, Entity.declarations_byIdFile hsolution h,
      Entity.declarations_allFile hsolution h, Entity.declarations_dtoFile hsolution h]
    simp only [Entity.commandName, Entity.byIdName, Entity.allName, Entity.dtoName, hfile]
    rfl
  · intro a ha hfolder
    rw [Entity.content_of_folder_dtos ha hfolder]
    exact Entity.parse_dtoFile hsolution h
  · intro other e' hother h' a ha a' ha' hfolder hfolder' hcontent
    rw [Entity.content_of_folder_dtos ha hfolder,
      Entity.content_of_folder_dtos ha' hfolder'] at hcontent
    have hparse := Entity.parse_dtoFile hsolution h
    rw [hcontent, Entity.parse_dtoFile hother h'] at hparse
    obtain ⟨hname, hproperties⟩ := Entity.mk.inj (Except.ok.inj hparse)
    obtain ⟨name, properties⟩ := e
    obtain ⟨name', properties'⟩ := e'
    have hname : name' = name := (String.append_left_inj "DTO").mp hname
    rw [hname, show properties' = properties from hproperties]

/-- Types and names may look like keywords and accessors. -/
theorem family_reads_back_glued :
    (⟨"public", [.of "x\x7bget;set;\x7d" "public", .of "publicId" "class"]⟩ : Entity).IsReadable ∧
    NoBlank "public" ∧
    ((Entity.family "public"
        ⟨"public", [.of "x\x7bget;set;\x7d" "public", .of "publicId" "class"]⟩).take 6).map
          (fun a => declarations a.content.toList) =
      [[.of "x\x7bget;set;\x7d" "public", .of "publicId" "class", .of "Success" "bool",
          .of "Message" "string"],
       [.of "publicId" "class", .of "x\x7bget;set;\x7d" "public", .of "Success" "bool",
          .of "Message" "string"],
       [.of "publicId" "class", .of "Success" "bool", .of "Message" "string"],
       [.of "publicId" "class"],
       [.of "Status" "string?", .of "StartDate" "DateTime?", .of "EndDate" "DateTime?"],
       [.of "x\x7bget;set;\x7d" "public", .of "publicId" "class"]] := by
  have hreadable : (⟨"public", [.of "x\x7bget;set;\x7d" "public", .of "publicId" "class"]⟩ :
      Entity).IsReadable := by
    have hword : AllWord "public" := by decide +kernel
    exact ⟨⟨by decide, hword⟩, by decide⟩
  have hsolution : NoBlank "public" := by decide
  have hread := (family_reads_back.2 _ _ hsolution hreadable).1
  refine ⟨hreadable, hsolution, ?_⟩
  have := congrArg (List.map fun entry => entry.2.2) hread
  rw [List.map_map] at this
  exact this

end Scaffold
