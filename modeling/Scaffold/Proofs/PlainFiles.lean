import Scaffold.Proofs.Outline

/-!
# Plain files

A file is plain when its names are made of word characters and none of its texts breaks a line. The
outline of such a file is read back from its text: no line of it looks like something that it is
not.

* `Member.IsPlain`, `ClassDecl.IsPlain`, `SourceFile.IsPlain`: plain files and their parts.
* `Member.indented_lines`: members are indented, so that class headers stand out.
* `SourceFile.filterMap_lines`: a reading of a file, part by part.
* `SourceFile.outline_text`: a plain file is read back to its parts.
-/

namespace Scaffold

open Text

/-! ### Plain files -/

/-- A member whose names have no blanks in them, and whose texts are on one line. -/
def Member.IsPlain : Member → Prop
  | .field type name initial => NoBlank type ∧ NoBlank name ∧ ∀ value ∈ initial, OneLine value
  | .rules className chains => NoBlank className ∧
      ∀ chain ∈ chains, NoBlank chain.member ∧ ∀ call ∈ chain.calls, OneLine call
  | .handle asked response reply => AllWord asked ∧ AllWord response.name ∧
      ∀ message, reply = .success message → OneLine message ∧ '"' ∉ message.toList

/-- A class with plain members, itself named by word characters and deriving from such types. -/
structure ClassDecl.IsPlain (c : ClassDecl) : Prop where
  name : AllWord c.name
  base : ∀ b ∈ c.base, ∀ t ∈ b.types, AllWord t
  members : ∀ m ∈ c.members, m.IsPlain

/-- A file with plain classes and namespaces. -/
structure SourceFile.IsPlain (f : SourceFile) : Prop where
  uses : ∀ space ∈ f.uses, NoBlank space
  home : NoBlank f.home
  classes : ∀ c ∈ f.classes, c.IsPlain

@[simp] theorem oneLine_append_iff {s t : String} : OneLine (s ++ t) ↔ OneLine s ∧ OneLine t := by
  simp [OneLine]

theorem Base.oneLine_text {b : Base} (h : ∀ t ∈ b.types, AllWord t) : OneLine b.text := by
  cases b with
  | request response =>
    have hresponse := (ResponseType.noBlank_text (h _ List.mem_cons_self)).oneLine
    change OneLine ("IRequest<" ++ response.text ++ ">")
    simp only [oneLine_append_iff, hresponse]
    decide
  | validator target =>
    have htarget := (h target List.mem_cons_self).noBlank.oneLine
    change OneLine ("AbstractValidator<" ++ target ++ ">")
    simp only [oneLine_append_iff, htarget]
    decide
  | handler asked response =>
    have hasked := (h asked List.mem_cons_self).noBlank.oneLine
    have hresponse := (ResponseType.noBlank_text
      (h _ (List.mem_cons_of_mem _ List.mem_cons_self))).oneLine
    change OneLine ("IRequestHandler<" ++ asked ++ ", " ++ response.text ++ ">")
    simp only [oneLine_append_iff, hasked, hresponse]
    decide

/-- What holds of the opening of a chain and of its calls, and still holds with a semicolon behind
them, holds of its lines. -/
theorem RuleChain.forall_mem_lines {P : String → Prop} {chain : RuleChain}
    (hopening : P ("        RuleFor(x => x." ++ chain.member ++ ")"))
    (hcalls : ∀ call ∈ chain.calls, P ("            " ++ call))
    (hclose : ∀ line, line ≠ "" → P line → P (line ++ ";")) : ∀ line ∈ chain.lines, P line := by
  have hlines : ∀ lines : List String, (∀ line ∈ lines, line ≠ "" ∧ P line) →
      ∀ line ∈ RuleChain.lines.close lines, P line := by
    intro lines
    induction lines with
    | nil =>
      intro _ line hline
      cases hline
    | cons first lines ih =>
      intro h
      obtain ⟨⟨hne, hfirst⟩, hrest⟩ := List.forall_mem_cons.mp h
      cases lines with
      | nil => exact List.forall_mem_singleton.mpr (hclose first hne hfirst)
      | cons next lines => exact List.forall_mem_cons.mpr ⟨hfirst, ih hrest⟩
  refine hlines _ (List.forall_mem_cons.mpr ⟨⟨by simp, hopening⟩, ?_⟩)
  rintro line hline
  obtain ⟨call, hcall, rfl⟩ := List.mem_map.mp hline
  exact ⟨by simp, hcalls call hcall⟩

theorem RuleChain.indented_lines (chain : RuleChain) : ∀ line ∈ chain.lines, Indented 8 line := by
  refine forall_mem_lines ?_ ?_ fun line hne h => h.append_semicolon hne
  · simp [Indented, List.replicate]
  · simp [Indented, List.replicate]

theorem Reply.indented_lines (response : ResponseType) (reply : Reply) :
    ∀ line ∈ reply.lines response, Indented 8 line := by
  cases reply <;> simp [Reply.lines, Indented, List.replicate]

theorem forall_mem_intercalate {α : Type} {P : α → Prop} {separator : List α}
    {parts : List (List α)} (hseparator : ∀ x ∈ separator, P x)
    (hparts : ∀ part ∈ parts, ∀ x ∈ part, P x) : ∀ x ∈ List.intercalate separator parts, P x := by
  induction parts with
  | nil =>
    intro x hx
    cases hx
  | cons part parts ih =>
    obtain ⟨hpart, hrest⟩ := List.forall_mem_cons.mp hparts
    cases parts with
    | nil =>
      rw [List.intercalate_singleton]
      exact hpart
    | cons next parts =>
      rw [List.intercalate_cons_cons]
      simp only [List.forall_mem_append]
      exact ⟨⟨hpart, hseparator⟩, ih hrest⟩

namespace Member

variable {m : Member}

/-- The signatures in a member. -/
def signatures : Member → List Signature
  | .handle asked response _ => [⟨asked, response⟩]
  | _ => []

theorem oneLine_lines (h : m.IsPlain) : ∀ line ∈ m.lines, OneLine line := by
  cases m with
  | field type name initial =>
    obtain ⟨htype, hname, hinitial⟩ := h
    cases initial with
    | none =>
      intro line hline
      rw [List.mem_singleton.mp hline]
      simp only [oneLine_append_iff, htype.oneLine, hname.oneLine]
      decide
    | some value =>
      intro line hline
      rw [List.mem_singleton.mp hline]
      simp only [oneLine_append_iff, htype.oneLine, hname.oneLine, hinitial value rfl]
      decide
  | rules className chains =>
    obtain ⟨hclass, hchains⟩ := h
    have hchain : ∀ lines ∈ chains.map RuleChain.lines, ∀ line ∈ lines, OneLine line := by
      intro lines hlines
      obtain ⟨chain, hchain, rfl⟩ := List.mem_map.mp hlines
      obtain ⟨hmember, hcalls⟩ := hchains chain hchain
      refine RuleChain.forall_mem_lines ?_ ?_ fun line _ h => h.append (by decide)
      · simp only [oneLine_append_iff, hmember.oneLine]
        decide
      · intro call hcall
        exact OneLine.append (by decide) (hcalls call hcall)
    have hblank : ∀ line ∈ [""], OneLine line := List.forall_mem_singleton.mpr (by decide)
    have hblocks := forall_mem_intercalate hblank hchain
    simp only [lines, List.forall_mem_append, List.forall_mem_cons, oneLine_append_iff,
      hclass.oneLine]
    exact ⟨⟨by decide, hblocks⟩, by decide⟩
  | handle asked response reply =>
    obtain ⟨hasked, hresponse, hreply⟩ := h
    have htype := (ResponseType.noBlank_text hresponse).oneLine
    have hlines : ∀ line ∈ reply.lines response, OneLine line := by
      cases reply with
      | success message =>
        obtain ⟨hmessage, -⟩ := hreply message rfl
        simp only [Reply.lines, List.forall_mem_cons, oneLine_append_iff, htype, hmessage]
        decide
      | blank =>
        simp only [Reply.lines, List.forall_mem_cons, oneLine_append_iff, htype]
        decide
    simp only [lines, List.forall_mem_append, List.forall_mem_cons, oneLine_append_iff, htype,
      hasked.noBlank.oneLine]
    exact ⟨⟨by decide, hlines⟩, by decide⟩

/-- What stands between the braces of a member is indented further than they are. -/
theorem indented_blocks (chains : List RuleChain) :
    ∀ line ∈ List.intercalate [""] (chains.map RuleChain.lines), Indented 8 line := by
  refine forall_mem_intercalate (List.forall_mem_singleton.mpr (Or.inl rfl)) ?_
  intro lines hlines
  obtain ⟨chain, _, rfl⟩ := List.mem_map.mp hlines
  exact chain.indented_lines

theorem indented_lines (m : Member) : ∀ line ∈ m.lines, Indented 4 line := by
  cases m with
  | field type name initial =>
    cases initial <;> simp [lines, Indented, List.replicate]
  | rules className chains =>
    have hblocks : ∀ line ∈ List.intercalate [""] (chains.map RuleChain.lines), Indented 4 line :=
      fun line hline => (indented_blocks chains line hline).mono (by decide)
    simp only [lines, List.forall_mem_append, List.forall_mem_cons]
    refine ⟨⟨?_, hblocks⟩, by decide⟩
    simp [Indented, List.replicate]
  | handle asked response reply =>
    have hreply : ∀ line ∈ reply.lines response, Indented 4 line :=
      fun line hline => (reply.indented_lines response line hline).mono (by decide)
    simp only [lines, List.forall_mem_append, List.forall_mem_cons]
    refine ⟨⟨?_, hreply⟩, by decide⟩
    simp [Indented, List.replicate]

/-- The signatures of a member are read back from its lines. -/
theorem filterMap_ofLine? (h : m.IsPlain) :
    m.lines.filterMap (fun line => Signature.ofLine? line.toList) = m.signatures := by
  have hbrace : Signature.ofLine? "    \x7b".toList = none := rfl
  have hclose : Signature.ofLine? "    \x7d".toList = none := rfl
  cases m with
  | field type name initial =>
    have haccessors : Signature.ofLine?
        ("    public " ++ type ++ " " ++ name ++ " \x7b get; set; \x7d").toList = none :=
      Signature.ofLine?_eq_none_of_ending (by decide) (by decide)
    have hvalue : ∀ s : String, Signature.ofLine? (s ++ ";").toList = none :=
      fun s => Signature.ofLine?_eq_none_of_ending (by decide) (by decide)
    cases initial with
    | none => simp only [lines, List.filterMap_cons, haccessors, List.filterMap_nil, signatures]
    | some value => simp only [lines, List.filterMap_cons, hvalue, List.filterMap_nil, signatures]
  | rules className chains =>
    have hconstructor : Signature.ofLine? ("    public " ++ className ++ "()").toList = none :=
      Signature.ofLine?_eq_none_of_ending (by decide) (by decide)
    have hblocks : (List.intercalate [""] (chains.map RuleChain.lines)).filterMap
        (fun line => Signature.ofLine? line.toList) = [] :=
      List.filterMap_eq_nil_iff.mpr fun line hline =>
        Signature.ofLine?_of_indented (indented_blocks chains line hline)
    simp only [lines, List.filterMap_append, List.filterMap_cons, hconstructor, hbrace, hclose,
      hblocks, List.filterMap_nil, List.append_nil, signatures]
  | handle asked response reply =>
    obtain ⟨hasked, hresponse, -⟩ := h
    have hreply : (reply.lines response).filterMap
        (fun line => Signature.ofLine? line.toList) = [] :=
      List.filterMap_eq_nil_iff.mpr fun line hline =>
        Signature.ofLine?_of_indented (reply.indented_lines response line hline)
    simp only [lines, List.filterMap_append, List.filterMap_cons,
      Signature.ofLine?_line hasked hresponse, hbrace, hclose, hreply, List.filterMap_nil,
      List.append_nil, signatures]

end Member

/-! ### Files -/

namespace ClassDecl

variable {c : ClassDecl}

theorem oneLine_header (h : c.IsPlain) : OneLine c.header := by
  have hname := h.name.noBlank.oneLine
  unfold ClassDecl.header
  cases hbase : c.base with
  | none =>
    dsimp only
    split <;> simp only [oneLine_append_iff, hname] <;> decide
  | some base =>
    have htypes := Base.oneLine_text (h.base base hbase)
    dsimp only
    split <;> simp only [oneLine_append_iff, hname, htypes] <;> decide

theorem oneLine_lines (h : c.IsPlain) : ∀ line ∈ c.lines, OneLine line := by
  have hmembers : ∀ line ∈ c.members.flatMap Member.lines, OneLine line := by
    intro line hline
    obtain ⟨m, hm, hline⟩ := List.mem_flatMap.mp hline
    exact Member.oneLine_lines (h.members m hm) line hline
  simp only [lines, List.forall_mem_append, List.forall_mem_cons]
  exact ⟨⟨⟨oneLine_header h, by decide⟩, hmembers⟩, by decide⟩

/-- What is read in the first column of a class is its header. -/
theorem filterMap_lines {α : Type} {g : String → Option α} (hopen : g "\x7b" = none)
    (hclose : g "\x7d" = none) (hmembers : ∀ line, Indented 4 line → g line = none)
    (c : ClassDecl) : c.lines.filterMap g = (g c.header).toList := by
  have hnone : (c.members.flatMap Member.lines).filterMap g = [] := by
    refine List.filterMap_eq_nil_iff.mpr fun line hline => ?_
    obtain ⟨m, _, hline⟩ := List.mem_flatMap.mp hline
    exact hmembers line (m.indented_lines line hline)
  simp only [lines, List.filterMap_append, List.filterMap_cons, hopen, hclose, hnone,
    List.filterMap_nil, List.append_nil]
  cases g c.header <;> rfl

/-- The header of a class is no signature. -/
theorem signature_header (c : ClassDecl) : Signature.ofLine? c.header.toList = none := by
  unfold ClassDecl.header
  split <;> simp [Signature.ofLine?, after?]

/-- The signatures of a class are those of its members. -/
theorem filterMap_ofLine? (h : c.IsPlain) :
    c.lines.filterMap (fun line => Signature.ofLine? line.toList) =
      c.members.flatMap Member.signatures := by
  have hmembers : (c.members.flatMap Member.lines).filterMap
      (fun line => Signature.ofLine? line.toList) = c.members.flatMap Member.signatures := by
    rw [List.filterMap_flatMap]
    exact List.flatMap_congr fun m hm => Member.filterMap_ofLine? (h.members m hm)
  have hopen : Signature.ofLine? "\x7b".toList = none := rfl
  have hclose : Signature.ofLine? "\x7d".toList = none := rfl
  simp only [lines, List.filterMap_append, List.filterMap_cons, c.signature_header, hopen,
    hclose, hmembers,
    List.filterMap_nil, List.append_nil, List.nil_append]

end ClassDecl

namespace SourceFile

variable {f : SourceFile}

theorem oneLine_lines (h : f.IsPlain) : ∀ line ∈ f.lines, OneLine line := by
  have huse : ∀ line ∈ f.uses.map useLine, OneLine line := by
    intro line hline
    obtain ⟨space, hspace, rfl⟩ := List.mem_map.mp hline
    simp only [useLine, oneLine_append_iff, (h.uses space hspace).oneLine]
    decide
  have hhome : OneLine (homeLine f.home) := by
    simp only [homeLine, oneLine_append_iff, h.home.oneLine]
    decide
  have hblank : ∀ line ∈ [""], OneLine line := List.forall_mem_singleton.mpr (by decide)
  have hclasses : ∀ part ∈ f.classes.map ClassDecl.lines, ∀ line ∈ part, OneLine line := by
    intro part hpart
    obtain ⟨c, hc, rfl⟩ := List.mem_map.mp hpart
    exact ClassDecl.oneLine_lines (h.classes c hc)
  unfold SourceFile.lines
  simp only [List.forall_mem_append, List.forall_mem_cons]
  refine ⟨⟨?_, hhome, by decide⟩, forall_mem_intercalate hblank hclasses⟩
  split
  · exact List.forall_mem_nil _
  · exact List.forall_mem_append.mpr ⟨huse, hblank⟩

/-- The lines of a plain file are read back from its text. -/
theorem textLines_text (h : f.IsPlain) : textLines f.text = f.lines.map String.toList ++ [[]] :=
  textLines_unlines (oneLine_lines h)

/-- What is read line by line in the text of a plain file. -/
theorem filterMap_textLines {α : Type} {g : List Char → Option α} (h : f.IsPlain)
    (hblank : g [] = none) :
    (textLines f.text).filterMap g = f.lines.filterMap fun line => g line.toList := by
  rw [textLines_text h, List.filterMap_append, List.filterMap_map, List.filterMap_cons, hblank,
    List.filterMap_nil, List.append_nil]
  rfl

/-- What is read line by line in a file is what is read in its namespaces and its classes. -/
theorem filterMap_lines {α : Type} {g : String → Option α} (hblank : g "" = none)
    (f : SourceFile) :
    f.lines.filterMap g = f.uses.filterMap (fun space => g (useLine space)) ++
      (g (homeLine f.home)).toList ++ f.classes.flatMap fun c => c.lines.filterMap g := by
  have hclasses : ∀ cs : List ClassDecl,
      (List.intercalate [""] (cs.map ClassDecl.lines)).filterMap g =
        cs.flatMap fun c => c.lines.filterMap g := by
    intro cs
    induction cs with
    | nil => rfl
    | cons c cs ih =>
      cases cs with
      | nil => simp
      | cons d cs =>
        rw [List.map_cons] at ih
        rw [List.map_cons, List.map_cons, List.intercalate_cons_cons, List.filterMap_append,
          List.filterMap_append, ih, List.filterMap_cons, hblank, List.flatMap_cons]
        simp
  have huses : (if f.uses.isEmpty then [] else f.uses.map useLine ++ [""]).filterMap g =
      f.uses.filterMap fun space => g (useLine space) := by
    cases f.uses with
    | nil => rfl
    | cons space uses =>
      have hnone : [""].filterMap g = [] := by simp [hblank]
      change ((space :: uses).map useLine ++ [""]).filterMap g = _
      rw [List.filterMap_append, List.filterMap_map, hnone, List.append_nil]
      rfl
  rw [SourceFile.lines, List.filterMap_append, List.filterMap_append, hclasses, huses]
  cases hhome : g (homeLine f.home) <;> simp [hhome, hblank]

end SourceFile

namespace SourceFile

variable {f : SourceFile}

/-- Statements that do not begin like a class stand in front of the classes. -/
theorem filterMap_statement? {keyword : String} {e : Char} {expected : List Char}
    (hkeyword : keyword.toList = e :: expected) (he : e ∉ [' ', 'p', '\x7b', '\x7d'])
    (h : f.IsPlain) :
    (textLines f.text).filterMap (statement? keyword) =
      f.uses.filterMap (fun space => statement? keyword (useLine space).toList) ++
        (statement? keyword (homeLine f.home).toList).toList := by
  simp only [List.mem_cons, List.not_mem_nil, or_false, not_or] at he
  obtain ⟨hspace, hp, hopen, hclose⟩ := he
  have hnone : ∀ {s : List Char}, after? (e :: expected) s = none → statement? keyword s = none := by
    intro s hs
    rw [statement?, between?, hkeyword, hs]
    rfl
  have hfirst : ∀ {c : Char} (s : List Char), e ≠ c → statement? keyword (c :: s) = none :=
    fun s hc => hnone (by rw [after?, if_neg hc])
  have hheader : ∀ c : ClassDecl, statement? keyword c.header.toList = none := by
    intro c
    have htext : ∃ s, c.header.toList = 'p' :: s := by
      unfold ClassDecl.header
      split <;> simp
    obtain ⟨s, hs⟩ := htext
    rw [hs]
    exact hfirst s hp
  have hclasses : (f.classes.flatMap fun c =>
      c.lines.filterMap fun line => statement? keyword line.toList) = [] := by
    refine List.flatMap_eq_nil_iff.mpr fun c _ => ?_
    rw [ClassDecl.filterMap_lines (hfirst [] hopen) (hfirst [] hclose)
      fun line hline => hnone (after?_of_indented hline hspace expected), hheader]
    rfl
  rw [filterMap_textLines h (hnone rfl), filterMap_lines (hnone rfl), hclasses, List.append_nil]

theorem outline_uses (h : f.IsPlain) : (outline f.text).uses = f.uses := by
  have huse : ∀ space, statement? "using " (useLine space).toList = some space := by
    intro space
    have hline : (useLine space).toList = "using ".toList ++ (space.toList ++ ";".toList) := by
      simp [useLine]
    rw [statement?, between?_eq_some_iff.mpr hline, Option.map_some, String.ofList_toList]
  have hhome : statement? "using " (homeLine f.home).toList = none := by
    simp [statement?, homeLine, between?, after?]
  refine (filterMap_statement? (e := 'u') rfl (by decide) h).trans ?_
  rw [hhome]
  simp [huse]

theorem outline_homes (h : f.IsPlain) : (outline f.text).homes = [f.home] := by
  have huse : ∀ space, statement? "namespace " (useLine space).toList = none := by
    simp [statement?, useLine, between?, after?]
  have hhome : statement? "namespace " (homeLine f.home).toList = some f.home := by
    have hline : (homeLine f.home).toList =
        "namespace ".toList ++ (f.home.toList ++ ";".toList) := by
      simp [homeLine]
    rw [statement?, between?_eq_some_iff.mpr hline, Option.map_some, String.ofList_toList]
  refine (filterMap_statement? (e := 'n') rfl (by decide) h).trans ?_
  rw [hhome]
  simp [huse]

theorem outline_headers (h : f.IsPlain) :
    (outline f.text).headers = f.classes.map ClassDecl.heading := by
  have huse : ∀ space, Header.ofLine? (useLine space).toList = none := by
    simp [Header.ofLine?, useLine, after?]
  have hhome : Header.ofLine? (homeLine f.home).toList = none := by
    simp [Header.ofLine?, homeLine, after?]
  have hmembers : ∀ line, Indented 4 line → Header.ofLine? line.toList = none := by
    intro line hline
    have hnone : after? "public ".toList line.toList = none :=
      after?_of_indented hline (by decide) "ublic ".toList
    rw [Header.ofLine?, hnone]
    rfl
  have hclasses : (f.classes.flatMap fun c =>
      c.lines.filterMap fun line => Header.ofLine? line.toList) =
        f.classes.flatMap fun c => [c.heading] := by
    refine List.flatMap_congr fun c hc => ?_
    rw [ClassDecl.filterMap_lines rfl rfl hmembers,
      ClassDecl.ofLine?_header (h.classes c hc).name.noBlank]
    rfl
  refine (filterMap_textLines h rfl).trans ?_
  rw [filterMap_lines rfl, hhome, hclasses, List.map_eq_flatMap]
  simp [huse]

theorem outline_signatures (h : f.IsPlain) : (outline f.text).signatures =
    f.classes.flatMap fun c => c.members.flatMap Member.signatures := by
  have huse : ∀ space, Signature.ofLine? (useLine space).toList = none := by
    simp [Signature.ofLine?, useLine, after?]
  have hhome : Signature.ofLine? (homeLine f.home).toList = none := by
    simp [Signature.ofLine?, homeLine, after?]
  have hclasses : (f.classes.flatMap fun c =>
      c.lines.filterMap fun line => Signature.ofLine? line.toList) =
        f.classes.flatMap fun c => c.members.flatMap Member.signatures :=
    List.flatMap_congr fun c hc => ClassDecl.filterMap_ofLine? (h.classes c hc)
  refine (filterMap_textLines h rfl).trans ?_
  rw [filterMap_lines rfl, hhome, hclasses]
  simp [huse]

end SourceFile

namespace Reply

/-- A reply creates a response of the type that it answers with. -/
theorem created_lines {response : ResponseType} {reply : Reply} (h : AllWord response.name)
    (hne : response.name ≠ "")
    (hmessage : ∀ message, reply = .success message → '"' ∉ message.toList) :
    (reply.lines response).flatMap (fun line => createdTypes (codeWords line.toList)) =
      [response] := by
  have hspace : isTypeChar ' ' = false := by decide
  have hparen : isTypeChar '(' = false := by decide
  have htext := codeWords_text h hne
  have hread : ResponseType.ofText response.text.toList = response := ResponseType.ofText_text h
  cases reply with
  | success message =>
    have hnew : createdTypes (codeWords ("        var response = new " ++ response.text).toList) =
        [response] := by
      have hline : ("        var response = new " ++ response.text).toList =
          "        var response = new".toList ++ ' ' :: response.text.toList := by
        simp
      have hwords : codeWords "        var response = new".toList =
          ["var".toList, "response".toList, "new".toList] := by
        decide +kernel
      rw [hline, codeWords_append (by decide) hspace (by decide), hwords, htext]
      simp [createdTypes, hread]
    have hliteral : createdTypes
        (codeWords ("            Message = \"" ++ message ++ "\"").toList) = [] := by
      have hline : ("            Message = \"" ++ message ++ "\"").toList =
          "            Message = ".toList ++ '"' :: (message.toList ++ ['"']) := by
        simp
      rw [hline, codeWords_literal (by decide) (hmessage message rfl)]
      decide +kernel
    have hrest : (["        \x7b", "            Success = true,", "        \x7d;", "",
        "        return Task.FromResult(response);"].flatMap
          fun line => createdTypes (codeWords line.toList)) = [] := by
      decide +kernel
    simp only [List.flatMap_cons, List.flatMap_nil, List.append_nil, List.append_eq_nil_iff]
      at hrest
    simp only [Reply.lines, List.flatMap_cons, List.flatMap_nil, hnew, hliteral, hrest,
      List.append_nil]
  | blank =>
    have hline : ("        return Task.FromResult(new " ++ response.text ++ "());").toList =
        "        return Task.FromResult(new".toList ++ ' ' ::
          (response.text.toList ++ '(' :: "));".toList) := by
      simp
    have hwords : codeWords "        return Task.FromResult(new".toList =
        ["return".toList, "Task".toList, "FromResult".toList, "new".toList] := by
      decide +kernel
    have hend : codeWords "));".toList = [] := by decide +kernel
    simp only [Reply.lines, List.flatMap_cons, List.flatMap_nil, List.append_nil]
    rw [hline, codeWords_append (by decide) hspace (by decide), hwords,
      codeWords_append (ResponseType.quote_not_mem_text h) hparen (by decide), htext, hend]
    simp [createdTypes, hread]

end Reply

/-- What a member creates. -/
def Member.created : Member → List ResponseType
  | .handle _ response _ => [response]
  | _ => []

theorem handlerBody_append {before after : List (List Char)} {line : List Char} {sig : Signature}
    (hbefore : ∀ l ∈ before, Signature.ofLine? l = none)
    (hline : Signature.ofLine? line = some sig) :
    handlerBody (before ++ line :: after) = after := by
  have hpass : ∀ l ∈ before, (Signature.ofLine? l).isNone = true := by
    intro l hl
    rw [hbefore l hl]
    rfl
  rw [handlerBody, List.dropWhile_append_of_pos hpass, List.dropWhile_cons_of_neg (by simp [hline]),
    List.tail_cons]

/-- Without a signature nothing is created. -/
theorem outline_created_of_no_signatures {text : String} (h : (outline text).signatures = []) :
    (outline text).created = [] := by
  have hnone : ∀ line ∈ textLines text, (Signature.ofLine? line).isNone = true := by
    intro line hline
    rw [List.filterMap_eq_nil_iff.mp h line hline]
    rfl
  change (handlerBody (textLines text)).flatMap _ = []
  rw [handlerBody, List.dropWhile_eq_nil_iff.mpr hnone]
  rfl

namespace SourceFile

variable {f : SourceFile}

/-- In front of the classes, lines begin with `using` or `namespace`, or are empty. -/
theorem after?_of_mem_preamble {e : Char} (hu : e ≠ 'u') (hn : e ≠ 'n') (expected : List Char) :
    ∀ line ∈ f.preamble, after? (e :: expected) line.toList = none := by
  have huses : ∀ line ∈ f.uses.map useLine, after? (e :: expected) line.toList = none := by
    simp [useLine, after?, hu]
  have hhome : after? (e :: expected) (homeLine f.home).toList = none := by
    simp [homeLine, after?, hn]
  unfold preamble
  simp only [List.forall_mem_append, List.forall_mem_cons]
  refine ⟨?_, hhome, rfl, List.forall_mem_nil _⟩
  split
  · exact List.forall_mem_nil _
  · exact List.forall_mem_append.mpr ⟨huses, List.forall_mem_singleton.mpr rfl⟩

/-- No signature stands in front of the classes. -/
theorem ofLine?_of_mem_preamble : ∀ line ∈ f.preamble, Signature.ofLine? line.toList = none := by
  intro line hline
  have hnone : after? "    public Task<".toList line.toList = none :=
    after?_of_mem_preamble (by decide) (by decide) _ line hline
  rw [Signature.ofLine?, hnone]
  rfl

/-- A file with nothing but a handler creates what the handler answers with. -/
theorem outline_created_of_handler {c : ClassDecl} {asked : String} {response : ResponseType}
    {reply : Reply} (h : f.IsPlain) (hclasses : f.classes = [c])
    (hmembers : c.members = [.handle asked response reply]) (hne : response.name ≠ "") :
    (outline f.text).created = [response] := by
  have hc : c.IsPlain := h.classes c (hclasses ▸ List.mem_singleton_self c)
  have hm : (Member.handle asked response reply).IsPlain :=
    hc.members _ (hmembers ▸ List.mem_singleton_self _)
  obtain ⟨hasked, hresponse, hreply⟩ := hm
  let sig : String := "    public Task<" ++ response.text ++ "> Handle(" ++ asked ++
    " request, CancellationToken cancellationToken)"
  let before := f.preamble ++ [c.header, "\x7b"]
  let after := "    \x7b" :: reply.lines response ++ ["    \x7d", "\x7d"]
  have hlines : f.lines = before ++ sig :: after := by
    have hfile : f.lines = f.preamble ++ List.intercalate [""] (f.classes.map ClassDecl.lines) := rfl
    rw [hfile, hclasses, List.map_singleton, List.intercalate_singleton, ClassDecl.lines, hmembers]
    simp [Member.lines, before, sig, after]
  have hbefore : ∀ l ∈ before.map String.toList, Signature.ofLine? l = none := by
    simp only [before, List.map_append, List.forall_mem_append, List.forall_mem_map]
    refine ⟨ofLine?_of_mem_preamble, ?_⟩
    exact List.forall_mem_cons.mpr ⟨c.signature_header, List.forall_mem_singleton.mpr rfl⟩
  have hbody : handlerBody (textLines f.text) = after.map String.toList ++ [[]] := by
    rw [textLines_text h, hlines, List.map_append, List.map_cons, List.append_assoc,
      List.cons_append]
    exact handlerBody_append hbefore (Signature.ofLine?_line hasked hresponse)
  have hcreated := Reply.created_lines hresponse hne fun message hm => (hreply message hm).2
  have hopen : createdTypes (codeWords "    \x7b".toList) = [] := by decide +kernel
  have hclose : createdTypes (codeWords "    \x7d".toList) = [] := by decide +kernel
  have hend : createdTypes (codeWords "\x7d".toList) = [] := by decide +kernel
  have hblank : createdTypes (codeWords []) = [] := by decide +kernel
  change (handlerBody (textLines f.text)).flatMap _ = [response]
  rw [hbody, List.flatMap_append, List.flatMap_map]
  simp only [after, List.cons_append, List.flatMap_cons, List.flatMap_append, List.flatMap_nil,
    hopen, hclose, hend, hblank, hcreated, List.append_nil, List.nil_append]

/-! ### Reading a file back -/

/-- The outline of a file before it is written down. -/
def parts (f : SourceFile) : Outline where
  uses := f.uses
  homes := [f.home]
  headers := f.classes.map ClassDecl.heading
  signatures := f.classes.flatMap fun c => c.members.flatMap Member.signatures
  created := f.classes.flatMap fun c => c.members.flatMap Member.created

/-- A file without handlers, or with one handler and nothing else. -/
def IsTidy (f : SourceFile) : Prop :=
  f.parts.signatures = [] ∨ ∃ c asked response reply, f.classes = [c] ∧
    c.members = [.handle asked response reply] ∧ response.name ≠ ""

/-- What handlers create is what their signatures promise. -/
theorem parts_created (f : SourceFile) :
    f.parts.created = f.parts.signatures.map Signature.response := by
  have hmember : Member.created = fun m => m.signatures.map Signature.response := by
    funext m
    cases m <;> rfl
  simp only [parts, List.map_flatMap, hmember]

/-- **The outline of a plain file is read back from its text.** -/
theorem outline_text (h : f.IsPlain) (htidy : f.IsTidy) : outline f.text = f.parts := by
  refine Outline.ext (outline_uses h) (outline_homes h) (outline_headers h) (outline_signatures h) ?_
  rcases htidy with hnone | ⟨c, asked, response, reply, hclasses, hmembers, hne⟩
  · rw [outline_created_of_no_signatures ((outline_signatures h).trans hnone), parts_created, hnone]
    rfl
  · rw [outline_created_of_handler h hclasses hmembers hne, parts, hclasses]
    simp [hmembers, Member.created]

end SourceFile

end Scaffold
