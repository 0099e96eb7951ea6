import Scaffold.Proofs.PlainFiles

/-!
# The drafts of a family are plain

Whatever is read from a definition, and whatever the solution is called as long as there is no
white space in its name, the files that are written for it are plain: their outlines are read back
from their texts.

* `Property.mem_rules`: the rules that there are.
* `Entity.isPlain_of_mem_drafts`, `Entity.isTidy_of_mem_drafts`: the drafts of a family are plain,
  and a handler is alone in its file.
* `Entity.outline_artifact`: the outline of an artifact is that of its draft.
-/

namespace Scaffold

open Text

/-! ### Members -/

theorem oneLine_initializer (type : String) : OneLine (initializer type) := by
  have hknown : ∀ entry ∈ initializers, OneLine entry.2 := by decide
  rcases initializer_cases type with ⟨entry, hentry, -, hvalue⟩ | ⟨-, hvalue⟩
  · rw [hvalue]
    exact hknown entry hentry
  · rw [hvalue]
    decide

/-- The rules that properties can have. -/
def allRules : List Rule :=
  [.notEmpty, .emailAddress, .maximumLength maximumNameLength, .activeOrInactive, .todayOrLater]

theorem Property.mem_rules {p : Property} {rule : Rule} (h : rule ∈ p.rules) : rule ∈ allRules := by
  have hsome : ∀ {b : Bool} {r : Rule}, rule ∈ (if b then [r] else []) → rule = r := by
    intro b r hmem
    cases b with
    | false => cases hmem
    | true => exact List.mem_singleton.mp hmem
  rcases List.mem_cons.mp h with rfl | h
  · decide
  · unfold Property.extraRules at h
    split at h
    · rcases List.mem_append.mp h with h | h
      · rcases List.mem_append.mp h with h | h
        · rw [hsome h]
          decide
        · rw [hsome h]
          decide
      · rw [hsome h]
        decide
    · rw [hsome h]
      decide
    · cases h

theorem Rule.oneLine_calls : ∀ rule ∈ allRules, ∀ call ∈ rule.calls, OneLine call := by
  decide

/-- The fields of properties are plain. -/
theorem Property.isPlain_field {p : Property} (htype : NoBlank p.type) (hname : NoBlank p.name) :
    p.field.IsPlain := by
  refine ⟨htype, hname, ?_⟩
  rintro value ⟨⟩
  exact oneLine_initializer p.type

namespace Entity

variable {e : Entity} {solution : String}

theorem isPlain_fields (h : e.IsReadable) {ps : List Property} (hps : ∀ p ∈ ps, p ∈ e.properties) :
    ∀ m ∈ ps.map Property.field, m.IsPlain := by
  intro m hm
  obtain ⟨p, hp, rfl⟩ := List.mem_map.mp hm
  obtain ⟨htype, hname⟩ := h.properties p (hps p hp)
  exact Property.isPlain_field htype.2 hname.2

theorem isPlain_keyField (h : e.IsReadable) : e.keyField.IsPlain := by
  refine ⟨h.key.1.2, h.key.2.2, ?_⟩
  rintro value ⟨⟩

theorem isPlain_requestFields (h : e.IsReadable) (v : Verb) :
    ∀ m ∈ e.requestFields v, m.IsPlain := by
  have hfields : ∀ m ∈ e.commandFields.map Property.field, m.IsPlain :=
    isPlain_fields h fun p hp => List.mem_of_mem_filter hp
  cases v with
  | create => exact hfields
  | update => exact List.forall_mem_cons.mpr ⟨isPlain_keyField h, hfields⟩
  | delete => exact List.forall_mem_singleton.mpr (isPlain_keyField h)

theorem isPlain_responseFields (h : e.IsReadable) (v : Verb) :
    ∀ m ∈ e.responseFields v, m.IsPlain := by
  have houtcome : ∀ m ∈ outcomeFields, m.IsPlain := by
    simp [outcomeFields, Member.plain, Member.IsPlain]
    decide
  cases v with
  | create => exact List.forall_mem_cons.mpr ⟨isPlain_keyField h, houtcome⟩
  | update => exact houtcome
  | delete => exact houtcome

theorem isPlain_filterFields : ∀ m ∈ filterFields, m.IsPlain := by
  simp [filterFields, Member.plain, Member.IsPlain]
  decide

/-- The chains of a validator are plain. -/
theorem isPlain_chains (h : e.IsReadable) : ∀ chain ∈ e.keyChain :: e.propertyChains,
    NoBlank chain.member ∧ ∀ call ∈ chain.calls, OneLine call := by
  have hkey : NoBlank e.keyChain.member ∧ ∀ call ∈ e.keyChain.calls, OneLine call :=
    ⟨h.key.2.2, Rule.oneLine_calls .notEmpty (by decide)⟩
  refine List.forall_mem_cons.mpr ⟨hkey, ?_⟩
  intro chain hchain
  obtain ⟨p, hp, rfl⟩ := List.mem_map.mp hchain
  refine ⟨(h.properties p (List.mem_of_mem_filter hp)).2.2, ?_⟩
  intro call hcall
  obtain ⟨rule, hrule, hcall⟩ := List.mem_flatMap.mp hcall
  exact Rule.oneLine_calls rule (Property.mem_rules hrule) call hcall

/-! ### Names -/

theorem allWord_validatorName {request : String} (h : AllWord request) :
    AllWord (validatorName request) :=
  h.append (by decide +kernel)

theorem allWord_handlerName {request : String} (h : AllWord request) :
    AllWord (handlerName request) :=
  h.append (by decide +kernel)

theorem allWord_commandName (h : e.IsReadable) (v : Verb) : AllWord (e.commandName v) :=
  (isClassName_commandName h v).isWordRun.2

theorem allWord_responseName (h : e.IsReadable) (v : Verb) : AllWord (e.responseName v) :=
  (isClassName_responseName h v).isWordRun.2

theorem allWord_byIdName (h : e.IsReadable) : AllWord e.byIdName :=
  (isClassName_byIdName h).isWordRun.2

theorem allWord_allName (h : e.IsReadable) : AllWord e.allName :=
  (isClassName_allName h).isWordRun.2

theorem allWord_dtoName (h : e.IsReadable) : AllWord e.dtoName :=
  (isClassName_dtoName h).isWordRun.2

/-! ### Files -/

theorem isPlain_commandFile (hsolution : NoBlank solution) (h : e.IsReadable) (v : Verb) :
    (e.commandFile solution v).IsPlain := by
  refine ⟨List.forall_mem_singleton.mpr (by decide), noBlank_space hsolution h .commands, ?_⟩
  refine List.forall_mem_cons.mpr ⟨⟨allWord_commandName h v, ?_, isPlain_requestFields h v⟩,
    List.forall_mem_singleton.mpr ⟨allWord_responseName h v, ?_, isPlain_responseFields h v⟩⟩
  · rintro b ⟨⟩
    exact List.forall_mem_singleton.mpr (allWord_responseName h v)
  · rintro b ⟨⟩

theorem isPlain_queryFile {name : String} {response : ResponseType} {members : List Member}
    (hsolution : NoBlank solution) (h : e.IsReadable) (hname : AllWord name)
    (hresponse : AllWord response.name) (hmembers : ∀ m ∈ members, m.IsPlain) :
    (e.queryFile solution name response members).IsPlain := by
  refine ⟨?_, noBlank_space hsolution h .queries,
    List.forall_mem_singleton.mpr ⟨hname, ?_, hmembers⟩⟩
  · exact List.forall_mem_cons.mpr
      ⟨by decide, List.forall_mem_singleton.mpr (noBlank_space hsolution h .dtos)⟩
  · rintro b ⟨⟩
    exact List.forall_mem_singleton.mpr hresponse

theorem isPlain_dtoFile (hsolution : NoBlank solution) (h : e.IsReadable) :
    (e.dtoFile solution).IsPlain := by
  refine ⟨List.forall_mem_nil _, noBlank_space hsolution h .dtos,
    List.forall_mem_singleton.mpr ⟨allWord_dtoName h, ?_, isPlain_fields h fun p hp => hp⟩⟩
  rintro b ⟨⟩

theorem isPlain_validatorFile {folder : Folder} {request : String} {chains : List RuleChain}
    (hsolution : NoBlank solution) (h : e.IsReadable) (hrequest : AllWord request)
    (hchains : ∀ chain ∈ chains, chain ∈ e.keyChain :: e.propertyChains) :
    (e.validatorFile solution folder request chains).IsPlain := by
  refine ⟨?_, noBlank_space hsolution h .validators,
    List.forall_mem_singleton.mpr ⟨allWord_validatorName hrequest, ?_, ?_⟩⟩
  · exact List.forall_mem_cons.mpr
      ⟨by decide, List.forall_mem_singleton.mpr (noBlank_space hsolution h folder)⟩
  · rintro b ⟨⟩
    exact List.forall_mem_singleton.mpr hrequest
  · refine List.forall_mem_singleton.mpr ⟨(allWord_validatorName hrequest).noBlank, ?_⟩
    exact fun chain hchain => isPlain_chains h chain (hchains chain hchain)

theorem isPlain_handlerFile {folders : List Folder} {request : String} {response : ResponseType}
    {reply : Reply} (hsolution : NoBlank solution) (h : e.IsReadable) (hrequest : AllWord request)
    (hresponse : AllWord response.name) (hreply : ∀ message, reply = .success message →
      OneLine message ∧ '"' ∉ message.toList) :
    (e.handlerFile solution folders request response reply).IsPlain := by
  refine ⟨?_, noBlank_space hsolution h .handlers,
    List.forall_mem_singleton.mpr ⟨allWord_handlerName hrequest, ?_, ?_⟩⟩
  · refine List.forall_mem_cons.mpr ⟨by decide, ?_⟩
    intro space hspace
    obtain ⟨folder, _, rfl⟩ := List.mem_map.mp hspace
    exact noBlank_space hsolution h folder
  · rintro b ⟨⟩
    exact List.forall_mem_cons.mpr ⟨hrequest, List.forall_mem_singleton.mpr hresponse⟩
  · exact List.forall_mem_singleton.mpr ⟨hrequest, hresponse, hreply⟩

/-- The message of a command has no quotes in it. -/
theorem message_of_success (h : e.IsReadable) (v : Verb) : ∀ message,
    Reply.success (e.name ++ " " ++ v.past ++ " successfully") = .success message →
      OneLine message ∧ '"' ∉ message.toList := by
  rintro message ⟨⟩
  have hquote : '"' ∉ e.name.toList := h.allWord.not_mem (by decide +kernel)
  have hpast : OneLine v.past ∧ '"' ∉ v.past.toList := by
    cases v <;> decide
  constructor
  · simp only [oneLine_append_iff, h.allWord.noBlank.oneLine, hpast.1]
    decide
  · simp [hquote, hpast.2]

/-! ### The family -/

/-- The drafts of a family are plain. -/
theorem isPlain_of_mem_drafts (hsolution : NoBlank solution) (h : e.IsReadable) :
    ∀ d ∈ e.drafts solution, d.source.IsPlain := by
  have hdto := allWord_dtoName h
  have hkey : ∀ chain ∈ [e.keyChain], chain ∈ e.keyChain :: e.propertyChains := by
    simp
  have hproperties : ∀ chain ∈ e.propertyChains, chain ∈ e.keyChain :: e.propertyChains :=
    fun chain hchain => List.mem_cons_of_mem _ hchain
  have hcommand := isPlain_commandFile hsolution h
  have hhandler : ∀ v, (e.commandHandlerFile solution v).IsPlain := fun v =>
    isPlain_handlerFile hsolution h (allWord_commandName h v) (allWord_responseName h v)
      (message_of_success h v)
  have hblank : ∀ message, Reply.blank = .success message →
      OneLine message ∧ '"' ∉ message.toList := by
    rintro message ⟨⟩
  simp only [drafts, List.forall_mem_cons]
  refine ⟨hcommand _, hcommand _, hcommand _, ?_, ?_, isPlain_dtoFile hsolution h, ?_, ?_, ?_,
    hhandler _, hhandler _, hhandler _, ?_, ?_, List.forall_mem_nil _⟩
  · exact isPlain_queryFile hsolution h (allWord_byIdName h) hdto
      (List.forall_mem_singleton.mpr (isPlain_keyField h))
  · exact isPlain_queryFile hsolution h (allWord_allName h) hdto isPlain_filterFields
  · exact isPlain_validatorFile hsolution h (allWord_commandName h _) hproperties
  · exact isPlain_validatorFile hsolution h (allWord_commandName h _) fun _ hchain => hchain
  · exact isPlain_validatorFile hsolution h (allWord_byIdName h) hkey
  · exact isPlain_handlerFile hsolution h (allWord_byIdName h) hdto hblank
  · exact isPlain_handlerFile hsolution h (allWord_allName h) hdto hblank

/-- Properties are no handlers. -/
theorem signatures_fields (ps : List Property) :
    (ps.map Property.field).flatMap Member.signatures = [] := by
  simp [Property.field, Member.signatures]

/-- A handler is alone in its file, and the other files have none. -/
theorem isTidy_of_mem_drafts (h : e.IsReadable) : ∀ d ∈ e.drafts solution, d.source.IsTidy := by
  have hcommand : ∀ v, (e.commandFile solution v).IsTidy := by
    intro v
    left
    cases v <;> simp [SourceFile.parts, commandFile, requestFields, responseFields, keyField,
      outcomeFields, Member.plain, Member.signatures, Property.field]
  have hquery : ∀ (name : String) (response : ResponseType) (members : List Member),
      members.flatMap Member.signatures = [] →
        (e.queryFile solution name response members).IsTidy := by
    intro name response members hmembers
    left
    simpa [SourceFile.parts, queryFile] using hmembers
  have hvalidator : ∀ (folder : Folder) (request : String) (chains : List RuleChain),
      (e.validatorFile solution folder request chains).IsTidy := fun _ _ _ => Or.inl rfl
  have hhandler : ∀ (folders : List Folder) (request : String) (response : ResponseType)
      (reply : Reply), response.name ≠ "" →
        (e.handlerFile solution folders request response reply).IsTidy :=
    fun _ _ _ _ hne => Or.inr ⟨_, _, _, _, rfl, rfl, hne⟩
  have hdto : e.dtoName ≠ "" := fun hnil => (isClassName_dtoName h).isWordRun.1 (by rw [hnil]; rfl)
  have hresponse : ∀ v, e.responseName v ≠ "" :=
    fun v hnil => (isClassName_responseName h v).isWordRun.1 (by rw [hnil]; rfl)
  simp only [drafts, List.forall_mem_cons]
  refine ⟨hcommand _, hcommand _, hcommand _, hquery _ _ _ rfl, hquery _ _ _ rfl, ?_,
    hvalidator _ _ _, hvalidator _ _ _, hvalidator _ _ _, hhandler _ _ _ _ (hresponse _),
    hhandler _ _ _ _ (hresponse _), hhandler _ _ _ _ (hresponse _), hhandler _ _ _ _ hdto,
    hhandler _ _ _ _ hdto, List.forall_mem_nil _⟩
  left
  simpa [SourceFile.parts, dtoFile] using signatures_fields e.properties

/-- The outline of an artifact is that of the draft it is written from. -/
theorem outline_artifact (hsolution : NoBlank solution) (h : e.IsReadable) {d : Draft}
    (hd : d ∈ e.drafts solution) : outline d.artifact.content = d.source.parts :=
  SourceFile.outline_text (isPlain_of_mem_drafts hsolution h d hd) (isTidy_of_mem_drafts h d hd)

end Entity

end Scaffold
