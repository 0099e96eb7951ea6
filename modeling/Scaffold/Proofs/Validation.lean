import Scaffold.Proofs.Wiring

/-!
# Validators and the requests they validate

A validator states rules on the members of a request. Both are read from their texts: the rules
line by line from the constructor of the validator, the members from the class of the request. What
is validated and what can be filled in differ by the audit fields only.

* `block?_append`: what stands between two braces is read back.
* `RuleChain.ofLines?_lines`, `readChains_lines`: rules are read back from their lines.
* `SourceFile.declared?_text`: so is what the first class of a file declares.
* `SourceFile.validation?_text`: so is a validator.
* `Entity.filter_nonKey`: what is validated and what commands carry.
* `validators_agree`: what the validators of a family state, and how it compares to what the
  requests declare.
-/

namespace Scaffold

open Text Definition

/-! ### Blocks -/

/-- The lines in braces behind the first line that opens a block. Both braces are indented as
given. -/
def block? (indent : String) (opens : List Char → Bool) (lines : List (List Char)) :
    Option (List (List Char)) :=
  match lines.dropWhile (!opens ·) with
  | _ :: brace :: inside =>
    if brace = (indent ++ "\x7b").toList then
      some (inside.takeWhile (· ≠ (indent ++ "\x7d").toList))
    else none
  | _ => none

section Block

variable {indent : String} {opens : List Char → Bool} {before inside after : List (List Char)}
  {line : List Char}

/-- A block is read back: no earlier line opens one, and no line inside looks like its end. -/
theorem block?_append (hbefore : ∀ l ∈ before, opens l = false) (hline : opens line = true)
    (hinside : ∀ l ∈ inside, l ≠ (indent ++ "\x7d").toList) :
    block? indent opens (before ++ line :: (indent ++ "\x7b").toList ::
      (inside ++ (indent ++ "\x7d").toList :: after)) = some inside := by
  have hpass : ∀ l ∈ before, (!opens l) = true := by simpa using hbefore
  have hrun : ∀ l ∈ inside, decide (l ≠ (indent ++ "\x7d").toList) = true :=
    fun l hl => decide_eq_true (hinside l hl)
  rw [block?, List.dropWhile_append_of_pos hpass, List.dropWhile_cons_of_neg (by simp [hline])]
  dsimp only
  rw [if_pos rfl, List.takeWhile_append_of_pos hrun, List.takeWhile_cons_of_neg (by simp),
    List.append_nil]

/-- No block is read where no line opens one. -/
theorem block?_eq_none (h : ∀ l ∈ before, opens l = false) : block? indent opens before = none := by
  have hpass : ∀ l ∈ before, (!opens l) = true := by simpa using h
  rw [block?, List.dropWhile_eq_nil_iff.mpr hpass]

end Block

/-! ### Chains of rules -/

/-- The calls that some lines write. The last line ends in a semicolon, and no other does. -/
def readCalls : List (List Char) → Option (List String)
  | [] => none
  | [last] => (between? "            " ";" last).map fun call => [String.ofList call]
  | line :: lines => do
    let call ← after? "            ".toList line
    if endsIn ";".toList call then none
    else return String.ofList call :: (← readCalls lines)

namespace RuleChain

/-- The chain that some lines write: the member, and the calls below it. -/
def ofLines? : List (List Char) → Option RuleChain
  | [] => none
  | opening :: lines => do
    let member ← between? "        RuleFor(x => x." ")" opening
    return ⟨String.ofList member, ← readCalls lines⟩

/-- A chain with at least one call and no semicolons behind its calls. -/
def IsCalled (chain : RuleChain) : Prop :=
  chain.calls ≠ [] ∧ ∀ call ∈ chain.calls, endsIn ";".toList call.toList = false

theorem readCalls_close {calls : List String} (hne : calls ≠ [])
    (hcalls : ∀ call ∈ calls, endsIn ";".toList call.toList = false) :
    readCalls ((lines.close (calls.map ("            " ++ ·))).map String.toList) = some calls := by
  induction calls with
  | nil => exact absurd rfl hne
  | cons call calls ih =>
    obtain ⟨hcall, hrest⟩ := List.forall_mem_cons.mp hcalls
    cases calls with
    | nil =>
      have hlast : ("            " ++ call ++ ";").toList =
          "            ".toList ++ (call.toList ++ ";".toList) := by
        simp
      change (between? "            " ";" ("            " ++ call ++ ";").toList).map _ = _
      rw [between?_eq_some_iff.mpr hlast, Option.map_some, String.ofList_toList]
    | cons next calls =>
      have hread := ih (by simp) hrest
      have hnonempty : ∃ l ls, (lines.close ((next :: calls).map ("            " ++ ·))).map
          String.toList = l :: ls := by
        cases calls with
        | nil => exact ⟨_, _, rfl⟩
        | cons => exact ⟨_, _, rfl⟩
      -- Lines follow, so this call is not read as the last one.
      obtain ⟨l, ls, hlines⟩ := hnonempty
      rw [hlines] at hread
      change readCalls (("            " ++ call).toList ::
        (lines.close ((next :: calls).map ("            " ++ ·))).map String.toList) = _
      rw [hlines, readCalls, String.toList_append, after?_append]
      · simp only [Option.bind_eq_bind, Option.bind_some, hcall, hread, String.ofList_toList]
        rfl
      · exact List.cons_ne_nil l ls

/-- A chain of rules is read back from its lines. -/
theorem ofLines?_lines {chain : RuleChain} (h : chain.IsCalled) :
    ofLines? (chain.lines.map String.toList) = some chain := by
  obtain ⟨member, calls⟩ := chain
  obtain ⟨hne, hcalls⟩ := h
  have hopening : ("        RuleFor(x => x." ++ member ++ ")").toList =
      "        RuleFor(x => x.".toList ++ (member.toList ++ ")".toList) := by
    simp
  have hlines : (RuleChain.lines ⟨member, calls⟩).map String.toList =
      ("        RuleFor(x => x." ++ member ++ ")").toList ::
        (lines.close (calls.map ("            " ++ ·))).map String.toList := by
    cases calls with
    | nil => exact absurd rfl hne
    | cons call calls => rfl
  rw [hlines, ofLines?, between?_eq_some_iff.mpr hopening]
  simp only [Option.bind_eq_bind, Option.bind_some]
  rw [readCalls_close hne hcalls, String.ofList_toList]
  rfl

theorem ne_empty_of_mem_lines (chain : RuleChain) : ∀ line ∈ chain.lines, line ≠ "" :=
  forall_mem_lines (by simp) (by simp) (by simp)

theorem lines_ne_nil (chain : RuleChain) : chain.lines ≠ [] := by
  obtain ⟨member, calls⟩ := chain
  cases calls with
  | nil => exact List.cons_ne_nil _ _
  | cons call calls => exact List.cons_ne_nil _ _

end RuleChain

/-- The chains in the lines of a constructor, which are set off by empty lines. -/
def readChains (lines : List (List Char)) : Option (List RuleChain) :=
  (if lines.isEmpty then [] else lines.splitOn []).mapM RuleChain.ofLines?

theorem map_intercalate {α β : Type} (f : α → β) (separator : List α) (parts : List (List α)) :
    (List.intercalate separator parts).map f =
      List.intercalate (separator.map f) (parts.map (List.map f)) := by
  induction parts with
  | nil => rfl
  | cons part parts ih =>
    cases parts with
    | nil => simp
    | cons next parts =>
      rw [List.intercalate_cons_cons, List.map_append, List.map_append, ih]
      simp [List.intercalate_cons_cons]

theorem mapM_ofLines? {chains : List RuleChain} (h : ∀ chain ∈ chains, chain.IsCalled) :
    (chains.map fun chain => chain.lines.map String.toList).mapM RuleChain.ofLines? =
      some chains := by
  induction chains with
  | nil => rfl
  | cons chain chains ih =>
    obtain ⟨hchain, hrest⟩ := List.forall_mem_cons.mp h
    rw [List.map_cons, List.mapM_cons, RuleChain.ofLines?_lines hchain, ih hrest]
    rfl

/-- Chains are read back from the lines that they are put together to. -/
theorem readChains_lines {chains : List RuleChain} (h : ∀ chain ∈ chains, chain.IsCalled) :
    readChains ((List.intercalate [""] (chains.map RuleChain.lines)).map String.toList) =
      some chains := by
  have hblank : ∀ block ∈ chains.map fun chain => chain.lines.map String.toList, [] ∉ block := by
    intro block hblock hmem
    obtain ⟨chain, _, rfl⟩ := List.mem_map.mp hblock
    obtain ⟨line, hline, hnil⟩ := List.mem_map.mp hmem
    exact chain.ne_empty_of_mem_lines line hline (String.toList_eq_nil_iff.mp hnil)
  have hlines : (List.intercalate [""] (chains.map RuleChain.lines)).map String.toList =
      List.intercalate [[]] (chains.map fun chain => chain.lines.map String.toList) := by
    rw [map_intercalate, List.map_map]
    rfl
  rw [readChains, hlines]
  by_cases hnil : chains = []
  · subst hnil
    rfl
  · have hsplit := List.splitOn_intercalate [] hblank (by simpa using hnil)
    have hnonempty : (List.intercalate [[]]
        (chains.map fun chain => chain.lines.map String.toList)).isEmpty = false := by
      rw [List.isEmpty_eq_false_iff]
      intro hempty
      rw [hempty, List.splitOn_nil] at hsplit
      have hmem : [] ∈ chains.map fun chain => chain.lines.map String.toList :=
        hsplit ▸ List.mem_singleton_self []
      obtain ⟨chain, _, hchain⟩ := List.mem_map.mp hmem
      exact chain.lines_ne_nil (List.map_eq_nil_iff.mp hchain)
    rw [hnonempty, hsplit]
    exact mapM_ofLines? h

/-! ### Classes -/

namespace SourceFile

variable {f : SourceFile} {c : ClassDecl} {cs : List ClassDecl}

/-- The lines of a file begin with its namespaces and its first class. -/
theorem exists_lines_eq (hclasses : f.classes = c :: cs) :
    ∃ rest, f.lines = f.preamble ++ (c.lines ++ rest) := by
  have hfile : f.lines = f.preamble ++ List.intercalate [""] (f.classes.map ClassDecl.lines) := rfl
  rw [hfile, hclasses]
  cases cs with
  | nil => exact ⟨[], by simp⟩
  | cons d cs =>
    refine ⟨[""] ++ List.intercalate [""] ((d :: cs).map ClassDecl.lines), ?_⟩
    simp [List.intercalate_cons_cons]

/-- No class stands in front of the classes. -/
theorem header_of_mem_preamble : ∀ line ∈ f.preamble, Header.ofLine? line.toList = none := by
  intro line hline
  have hnone : after? "public ".toList line.toList = none :=
    after?_of_mem_preamble (by decide) (by decide) _ line hline
  rw [Header.ofLine?, hnone]
  rfl

end SourceFile

/-- Whether a line declares the class of the given name. -/
def opensClass (className : String) (line : List Char) : Bool :=
  (Header.ofLine? line).map Header.name = some className

/-- The properties that a class declares, which is looked for in a text by its name. -/
def declared? (className text : String) : Option (List Property) :=
  (block? "" (opensClass className) (textLines text)).map fun lines =>
    declarations (lines.flatMap (· ++ ['\n']))

theorem ne_of_after?_eq_none {expected s : List Char} (h : after? expected s = none) :
    s ≠ expected := by
  rintro rfl
  have hsome := after?_append s []
  rw [List.append_nil, h] at hsome
  cases hsome

theorem toList_unlines (lines : List String) :
    (unlines lines).toList = (lines.map String.toList).flatMap (· ++ ['\n']) := by
  induction lines with
  | nil => rfl
  | cons line lines ih => simp [unlines, ih]

namespace SourceFile

variable {f : SourceFile} {c : ClassDecl} {cs : List ClassDecl}

/-- The first class of a file is read back from its braces. -/
theorem block?_class (hf : f.IsPlain) (hclasses : f.classes = c :: cs) :
    block? "" (opensClass c.name) (textLines f.text) =
      some ((c.members.flatMap Member.lines).map String.toList) := by
  obtain ⟨rest, hlines⟩ := exists_lines_eq hclasses
  have hc : c.IsPlain := hf.classes c (hclasses ▸ List.mem_cons_self)
  have htext : textLines f.text = f.preamble.map String.toList ++ c.header.toList ::
      ("" ++ "\x7b").toList :: ((c.members.flatMap Member.lines).map String.toList ++
        ("" ++ "\x7d").toList :: (rest.map String.toList ++ [[]])) := by
    rw [textLines_text hf, hlines, ClassDecl.lines]
    simp
  have hbefore : ∀ l ∈ f.preamble.map String.toList, opensClass c.name l = false := by
    intro l hl
    obtain ⟨line, hline, rfl⟩ := List.mem_map.mp hl
    rw [opensClass, header_of_mem_preamble line hline]
    rfl
  have hheader : opensClass c.name c.header.toList = true := by
    rw [opensClass, ClassDecl.ofLine?_header hc.name.noBlank]
    simp [ClassDecl.heading]
  rw [htext]
  refine block?_append hbefore hheader ?_
  intro l hl
  obtain ⟨line, hline, rfl⟩ := List.mem_map.mp hl
  obtain ⟨m, _, hline⟩ := List.mem_flatMap.mp hline
  exact ne_of_after?_eq_none (after?_of_indented (m.indented_lines line hline) (by decide) [])

/-- A class that is the first of its file declares what its members do. -/
theorem declared?_text (hf : f.IsPlain) (hclasses : f.classes = c :: cs) {ps : List Property}
    (hmembers : List.Forall₂ Member.Declares c.members ps) :
    declared? c.name f.text = some ps := by
  have hread := Member.declarations_flatMap_lines hmembers []
  rw [List.append_nil, declarations_nil, List.append_nil, toList_unlines] at hread
  rw [declared?, block?_class hf hclasses, Option.map_some, hread]

/-- Nothing is read where no class of the name is declared. -/
theorem declared?_eq_none (hf : f.IsPlain) {className : String}
    (h : className ∉ f.classes.map ClassDecl.name) : declared? className f.text = none := by
  have hnone : ∀ line ∈ textLines f.text, opensClass className line = false := by
    intro line hline
    rw [opensClass, decide_eq_false_iff_not]
    intro hopens
    obtain ⟨header, hheader, rfl⟩ := Option.map_eq_some_iff.mp hopens
    have hmem : header ∈ (outline f.text).headers :=
      List.mem_filterMap.mpr ⟨line, hline, hheader⟩
    rw [outline_headers hf] at hmem
    obtain ⟨c, hc, rfl⟩ := List.mem_map.mp hmem
    exact h (List.mem_map_of_mem hc)
  rw [declared?, block?_eq_none hnone]
  rfl

end SourceFile

/-! ### Validators -/

/-- What a validator says: the request it is about, and the rules on the members of it. -/
structure Validation where
  request : String
  chains : List RuleChain
  deriving DecidableEq, Repr

/-- The line that opens the constructor of a class. -/
def constructorLine (className : String) : String := "    public " ++ className ++ "()"

/-- Reads a validator: what its class derives from, and what its constructor states. -/
def validation? (text : String) : Option Validation := do
  let header ← ((textLines text).filterMap Header.ofLine?).head?
  let lines ← block? "    " (· = (constructorLine header.name).toList) (textLines text)
  let chains ← readChains lines
  match header.base? with
  | some (.validator request) => return ⟨request, chains⟩
  | _ => none

namespace SourceFile

variable {f : SourceFile} {c : ClassDecl} {cs : List ClassDecl} {chains : List RuleChain}

/-- No constructor stands in front of that of the first class. -/
theorem ne_constructorLine : ∀ line ∈ f.preamble ++ [c.header, "\x7b"],
    line.toList ≠ (constructorLine c.name).toList := by
  have hline : ∃ expected, (constructorLine c.name).toList = ' ' :: expected := by
    simp [constructorLine]
  obtain ⟨expected, hline⟩ := hline
  have hheader : after? (' ' :: expected) c.header.toList = none := by
    unfold ClassDecl.header
    split <;> simp [after?]
  intro line hmem
  rw [hline]
  apply ne_of_after?_eq_none
  rcases List.mem_append.mp hmem with hmem | hmem
  · exact after?_of_mem_preamble (by decide) (by decide) expected line hmem
  · rcases List.mem_cons.mp hmem with rfl | hmem
    · exact hheader
    · rw [List.mem_singleton.mp hmem]
      rfl

/-- The constructor of a validator is read back from its braces. -/
theorem block?_constructor (hf : f.IsPlain) (hclasses : f.classes = c :: cs)
    (hmembers : c.members = [.rules c.name chains]) :
    block? "    " (· = (constructorLine c.name).toList) (textLines f.text) =
      some ((List.intercalate [""] (chains.map RuleChain.lines)).map String.toList) := by
  obtain ⟨rest, hlines⟩ := exists_lines_eq hclasses
  have htext : textLines f.text = (f.preamble ++ [c.header, "\x7b"]).map String.toList ++
      (constructorLine c.name).toList :: ("    " ++ "\x7b").toList ::
        ((List.intercalate [""] (chains.map RuleChain.lines)).map String.toList ++
          ("    " ++ "\x7d").toList :: ("\x7d".toList :: (rest.map String.toList ++ [[]]))) := by
    rw [textLines_text hf, hlines, ClassDecl.lines, hmembers]
    simp [Member.lines, constructorLine]
  have hbefore : ∀ l ∈ (f.preamble ++ [c.header, "\x7b"]).map String.toList,
      decide (l = (constructorLine c.name).toList) = false := by
    intro l hl
    obtain ⟨line, hline, rfl⟩ := List.mem_map.mp hl
    exact decide_eq_false (ne_constructorLine line hline)
  rw [htext]
  refine block?_append hbefore (decide_eq_true rfl) ?_
  intro l hl
  obtain ⟨line, hline, rfl⟩ := List.mem_map.mp hl
  apply ne_of_after?_eq_none
  rcases Member.indented_blocks chains line hline with rfl | ⟨behind, hspaces⟩
  · rfl
  · rw [← hspaces]
    rfl

/-- A validator is read back from its text. -/
theorem validation?_text (hf : f.IsPlain) (hclasses : f.classes = c :: cs) {request : String}
    (hbase : c.base = some (.validator request)) (hmembers : c.members = [.rules c.name chains])
    (hchains : ∀ chain ∈ chains, chain.IsCalled) :
    validation? f.text = some ⟨request, chains⟩ := by
  have hc : c.IsPlain := hf.classes c (hclasses ▸ List.mem_cons_self)
  have hheaders : (textLines f.text).filterMap Header.ofLine? = f.classes.map ClassDecl.heading :=
    outline_headers hf
  have hblock : block? "    " (· = (constructorLine c.heading.name).toList) (textLines f.text) = _ :=
    block?_constructor hf hclasses hmembers
  rw [validation?, hheaders, hclasses, List.map_cons, List.head?_cons]
  simp only [Option.bind_eq_bind, Option.bind_some]
  rw [hblock, Option.bind_some, readChains_lines hchains, Option.bind_some,
    ClassDecl.base?_heading hc.base, hbase]
  rfl

end SourceFile

/-- The members that rules are stated on. -/
def Validation.members (v : Validation) : List String := v.chains.map RuleChain.member

/-! ### The validators of a family -/

/-- What is read of one item only of those that go by different names. -/
theorem filterMap_eq_singleton {α β : Type} {names : α → List String} {g : α → Option β}
    {items : List α} (hnodup : (items.flatMap names).Nodup) {a : α} (ha : a ∈ items) {name : String}
    (hname : name ∈ names a) {b : β} (hb : g a = some b)
    (hnone : ∀ x ∈ items, name ∉ names x → g x = none) : items.filterMap g = [b] := by
  obtain ⟨before, after, rfl⟩ := List.append_of_mem ha
  rw [List.flatMap_append, List.flatMap_cons] at hnodup
  obtain ⟨-, hrest, hbefore⟩ := List.nodup_append.mp hnodup
  obtain ⟨-, -, hafter⟩ := List.nodup_append.mp hrest
  have hleft : before.filterMap g = [] := by
    refine List.filterMap_eq_nil_iff.mpr fun x hx => hnone x (List.mem_append_left _ hx) ?_
    intro hmem
    exact hbefore name (List.mem_flatMap.mpr ⟨x, hx, hmem⟩) name (List.mem_append_left _ hname) rfl
  have hright : after.filterMap g = [] := by
    refine List.filterMap_eq_nil_iff.mpr fun x hx =>
      hnone x (List.mem_append_right _ (List.mem_cons_of_mem _ hx)) ?_
    intro hmem
    exact hafter name hname name (List.mem_flatMap.mpr ⟨x, hx, hmem⟩) rfl
  rw [List.filterMap_append, List.filterMap_cons_some hb, hleft, hright]
  rfl

/-- No call ends in a semicolon of its own. -/
theorem Rule.endsIn_calls : ∀ rule ∈ allRules, ∀ call ∈ rule.calls,
    endsIn ";".toList call.toList = false := by
  decide

namespace Entity

variable {e : Entity} {solution : String}

theorem isCalled_chains : ∀ chain ∈ e.keyChain :: e.propertyChains, chain.IsCalled := by
  intro chain hchain
  rcases List.mem_cons.mp hchain with rfl | hchain
  · exact ⟨List.cons_ne_nil _ _, Rule.endsIn_calls .notEmpty (by decide)⟩
  · obtain ⟨p, _, rfl⟩ := List.mem_map.mp hchain
    refine ⟨List.cons_ne_nil _ _, ?_⟩
    intro call hcall
    obtain ⟨rule, hrule, hcall⟩ := List.mem_flatMap.mp hcall
    exact Rule.endsIn_calls rule (Property.mem_rules hrule) call hcall

/-- A validator of the family is read back from its text. -/
theorem validation?_validatorFile {folder : Folder} {request : String} {chains : List RuleChain}
    (hsolution : NoBlank solution) (hread : e.IsReadable) (hrequest : AllWord request)
    (hchains : ∀ chain ∈ chains, chain ∈ e.keyChain :: e.propertyChains) :
    validation? (e.validatorFile solution folder request chains).text = some ⟨request, chains⟩ :=
  SourceFile.validation?_text (isPlain_validatorFile hsolution hread hrequest hchains) rfl rfl rfl
    fun chain hchain => isCalled_chains chain (hchains chain hchain)

/-- The validators of a family are read back from their texts. -/
theorem validation?_family (hsolution : NoBlank solution) (hread : e.IsReadable) :
    ((e.family solution).filter (·.folder = .validators)).map
        (fun a => (a.fileName, validation? a.content)) =
      [("Create" ++ e.name ++ "CommandValidator.cs",
          some ⟨e.commandName .create, e.propertyChains⟩),
       ("Update" ++ e.name ++ "CommandValidator.cs",
          some ⟨e.commandName .update, e.keyChain :: e.propertyChains⟩),
       ("Get" ++ e.name ++ "ByIdQueryValidator.cs", some ⟨e.byIdName, [e.keyChain]⟩)] := by
  have hfile : ∀ s t u : String, s ++ t ++ u ++ "Validator" ++ "." ++ Artifact.extension =
      s ++ t ++ (u ++ "Validator.cs") := by
    intro s t u
    simp [Artifact.extension, String.append_assoc]
  have hfilter : (e.family solution).filter (·.folder = .validators) =
      [Draft.artifact ⟨.validators, validatorName (e.commandName .create),
          e.createValidatorFile solution⟩,
       Draft.artifact ⟨.validators, validatorName (e.commandName .update),
          e.updateValidatorFile solution⟩,
       Draft.artifact ⟨.validators, validatorName e.byIdName, e.byIdValidatorFile solution⟩] :=
    rfl
  have hcommand := allWord_commandName hread
  have hbyId := allWord_byIdName hread
  rw [hfilter]
  simp only [List.map_cons, List.map_nil, Draft.artifact, createValidatorFile, updateValidatorFile,
    byIdValidatorFile]
  rw [validation?_validatorFile hsolution hread (hcommand _)
      fun _ hchain => List.mem_cons_of_mem _ hchain,
    validation?_validatorFile hsolution hread (hcommand _) fun _ hchain => hchain,
    validation?_validatorFile hsolution hread hbyId (by simp)]
  simp only [validatorName, commandName, byIdName, Verb.word, hfile]
  rfl

/-- One file of the family declares the class, with these properties. -/
theorem declared?_family (hsolution : NoBlank solution) (hread : e.IsReadable) {d : Draft}
    (hd : d ∈ e.drafts solution) {c : ClassDecl} {cs : List ClassDecl}
    (hclasses : d.source.classes = c :: cs) {ps : List Property}
    (hmembers : List.Forall₂ Member.Declares c.members ps) :
    (e.family solution).filterMap (fun a => declared? c.name a.content) = [ps] := by
  have hplain := isPlain_of_mem_drafts hsolution hread
  have hnodup := e.classNames_nodup solution
  rw [classes, List.map_flatMap] at hnodup
  have hname : c.name ∈ d.source.classes.map ClassDecl.name := by simp [hclasses]
  rw [family, List.filterMap_map]
  refine filterMap_eq_singleton hnodup hd hname ?_ ?_
  · exact SourceFile.declared?_text (hplain d hd) hclasses hmembers
  · exact fun d' hd' hother => SourceFile.declared?_eq_none (hplain d' hd') hother

theorem declared?_commandName (hsolution : NoBlank solution) (hread : e.IsReadable) (v : Verb) :
    (e.family solution).filterMap (fun a => declared? (e.commandName v) a.content) =
      [e.requestProperties v] := by
  have hd : ⟨.commands, e.commandName v, e.commandFile solution v⟩ ∈ e.drafts solution := by
    cases v <;> simp [drafts]
  exact declared?_family hsolution hread hd rfl (declares_requestFields hread v)

theorem declared?_byIdName (hsolution : NoBlank solution) (hread : e.IsReadable) :
    (e.family solution).filterMap (fun a => declared? e.byIdName a.content) = [[e.key]] := by
  have hd : ⟨.queries, e.byIdName, e.byIdFile solution⟩ ∈ e.drafts solution := by
    simp [drafts]
  exact declared?_family hsolution hread hd rfl (.cons (declares_keyField hread) .nil)

end Entity

/-! ### What is validated and what is declared -/

/-- A key candidate is not named like an audit field. -/
theorem Property.not_mem_auditFields {p : Property} (h : p.isKey = true) :
    p.name ∉ auditFields := by
  have haudit : ∀ name ∈ auditFields, endsIn keySuffix.toList name.toList = false := by decide
  intro hmem
  rw [p.isKey_eq, haudit p.name hmem] at h
  cases h

namespace Entity

variable {e : Entity} {solution : String}

/-- The key is not named like an audit field, whether it is declared or made up. -/
theorem key_not_mem_auditFields (e : Entity) : e.key.name ∉ auditFields := by
  refine Property.not_mem_auditFields ?_
  unfold key
  cases hfind : e.properties.find? (·.isKey) with
  | some p => exact List.find?_some hfind
  | none => exact Property.isKey_iff.mpr (by simp)

/-- Without the audit fields, what is validated besides the key is what commands carry. -/
theorem filter_nonKey (e : Entity) :
    (e.nonKey.map Property.name).filter (· ∉ auditFields) = e.commandFields.map Property.name := by
  rw [List.filter_map, nonKey, List.filter_filter, commandFields]
  refine congrArg _ (List.filter_congr fun p _ => ?_)
  simp [Property.isCommandField, Bool.and_comm]

/-- The audit fields among the properties are not key candidates. -/
theorem forall_nonKey_iff (e : Entity) : (∀ name ∈ e.nonKey.map Property.name, name ∉ auditFields) ↔
    ∀ p ∈ e.properties, p.name ∉ auditFields := by
  rw [List.forall_mem_map]
  constructor
  · intro h p hp
    by_cases hkey : p.isKey = true
    · exact Property.not_mem_auditFields hkey
    · exact h p (List.mem_filter.mpr ⟨hp, by simpa using hkey⟩)
  · exact fun h p hp => h p (List.mem_of_mem_filter hp)

end Entity

/-- What is validated is declared when there are no audit fields in it. -/
theorem forall_mem_iff_of_filter {members declared : List String}
    (h : members.filter (· ∉ auditFields) = declared) :
    (∀ m ∈ members, m ∈ declared) ↔ ∀ m ∈ members, m ∉ auditFields := by
  rw [← h]
  simp +contextual

/-- **The validators of a family agree with the requests they validate.** What they state is read
back from their texts: to create or to update an entity, the rules on every property that is not a
key candidate, and whatever names an entity must have its key. Besides the audit fields, what they
are about is what the request declares, in the same order; so all that a command validates it
declares, if and only if there are no such fields. -/
theorem validators_agree {definition solution : String} {e : Entity}
    (hparse : Entity.parse definition = .ok e) (hsolution : NoBlank solution) :
    let shared : List RuleChain := e.nonKey.map fun p => ⟨p.name, p.rules.flatMap Rule.calls⟩
    let onKey : RuleChain := ⟨e.key.name, [".NotEmpty()"]⟩
    let create : Validation := ⟨"Create" ++ e.name ++ "Command", shared⟩
    let update : Validation := ⟨"Update" ++ e.name ++ "Command", onKey :: shared⟩
    let byId : Validation := ⟨"Get" ++ e.name ++ "ByIdQuery", [onKey]⟩
    let declared (v : Validation) : List (List Property) :=
      (e.family solution).filterMap fun a => declared? v.request a.content
    ((e.family solution).filter (·.folder = .validators)).map
        (fun a => (a.fileName, validation? a.content)) =
      [("Create" ++ e.name ++ "CommandValidator.cs", some create),
       ("Update" ++ e.name ++ "CommandValidator.cs", some update),
       ("Get" ++ e.name ++ "ByIdQueryValidator.cs", some byId)] ∧
    (∀ v ∈ [create, update, byId], ∃ ps, declared v = [ps] ∧
      v.members.filter (· ∉ auditFields) = ps.map Property.name) ∧
    ∀ v ∈ [create, update], ∀ ps, declared v = [ps] →
      ((∀ m ∈ v.members, m ∈ ps.map Property.name) ↔
        ∀ p ∈ e.properties, p.name ∉ auditFields) := by
  intro shared onKey create update byId declared
  have hread := isReadable_of_parse hparse
  have hshared : create.members = e.nonKey.map Property.name := List.map_map
  have hupdate : update.members = e.key.name :: e.nonKey.map Property.name :=
    congrArg (e.key.name :: ·) hshared
  have hkey := e.key_not_mem_auditFields
  have hcreated : create.members.filter (· ∉ auditFields) =
      (e.requestProperties .create).map Property.name := by
    rw [hshared]
    exact e.filter_nonKey
  have hupdated : update.members.filter (· ∉ auditFields) =
      (e.requestProperties .update).map Property.name := by
    rw [hupdate, List.filter_cons_of_pos (by simpa using hkey), e.filter_nonKey]
    rfl
  have hasked : byId.members.filter (· ∉ auditFields) = [e.key].map Property.name :=
    List.filter_cons_of_pos (by simpa using hkey)
  refine ⟨Entity.validation?_family hsolution hread, ?_, ?_⟩
  · simp only [List.forall_mem_cons]
    exact ⟨⟨_, Entity.declared?_commandName hsolution hread .create, hcreated⟩,
      ⟨_, Entity.declared?_commandName hsolution hread .update, hupdated⟩,
      ⟨_, Entity.declared?_byIdName hsolution hread, hasked⟩, List.forall_mem_nil _⟩
  · simp only [List.forall_mem_cons]
    refine ⟨?_, ?_, List.forall_mem_nil _⟩
    · intro ps hps
      obtain rfl : e.requestProperties .create = ps := List.singleton_inj.mp
        ((Entity.declared?_commandName hsolution hread .create).symm.trans hps)
      rw [forall_mem_iff_of_filter hcreated, hshared, e.forall_nonKey_iff]
    · intro ps hps
      obtain rfl : e.requestProperties .update = ps := List.singleton_inj.mp
        ((Entity.declared?_commandName hsolution hread .update).symm.trans hps)
      rw [forall_mem_iff_of_filter hupdated, hupdate, List.forall_mem_cons, e.forall_nonKey_iff]
      exact and_iff_right hkey

/-- With two key candidates, a name that comes twice, and an audit field, which the command that is
validated does not declare. -/
theorem validators_agree_with_audit_field :
    let definition := "public class Order \x7b public string Name \x7bget;set;\x7d" ++
      "public Guid CustomerId \x7bget;set;\x7d public int OrderId \x7bget;set;\x7d" ++
      "public DateTime CreatedDate \x7bget;set;\x7d public string Name \x7bget;set;\x7d \x7d"
    let order : Entity := ⟨"Order", [.of "Name" "string", .of "CustomerId" "Guid",
      .of "OrderId" "int", .of "CreatedDate" "DateTime", .of "Name" "string"]⟩
    let named : RuleChain := ⟨"Name", [".NotEmpty()", ".MaximumLength(100)"]⟩
    let update : Validation :=
      ⟨"UpdateOrderCommand", [⟨"CustomerId", [".NotEmpty()"]⟩, named,
        ⟨"CreatedDate", [".NotEmpty()"]⟩, named]⟩
    Entity.parse definition = .ok order ∧ NoBlank "S" ∧
      ("UpdateOrderCommandValidator.cs", some update) ∈
        ((order.family "S").filter (·.folder = .validators)).map
          (fun a => (a.fileName, validation? a.content)) ∧
      ∀ ps, (order.family "S").filterMap (fun a => declared? update.request a.content) = [ps] →
        ¬ ∀ m ∈ update.members, m ∈ ps.map Property.name := by
  intro definition order named update
  have hparse : Entity.parse definition = .ok order := by decide +kernel
  have hsolution : NoBlank "S" := by decide
  have hupdate : (⟨"Update" ++ order.name ++ "Command", ⟨order.key.name, [".NotEmpty()"]⟩ ::
      order.nonKey.map fun p => ⟨p.name, p.rules.flatMap Rule.calls⟩⟩ : Validation) = update := by
    decide +kernel
  obtain ⟨hvalidators, -, hdeclared⟩ := validators_agree hparse hsolution
  rw [hupdate] at hvalidators hdeclared
  refine ⟨hparse, hsolution, ?_, ?_⟩
  · rw [hvalidators]
    exact List.mem_cons_of_mem _ List.mem_cons_self
  · intro ps hps hall
    have hnone := (hdeclared update (by simp) ps hps).mp hall
    exact hnone (.of "CreatedDate" "DateTime") (by simp [order]) (by decide)

end Scaffold
