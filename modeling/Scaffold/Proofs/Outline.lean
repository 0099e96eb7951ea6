import Scaffold.Proofs.ReadBack

/-!
# The outline of a generated file

What a reader who knows the layout of generated files, but not how they are put together, sees in
one: the namespaces that it uses and the one it declares, the headers of its classes, the
signatures of its handlers, and what these create. All of this is read line by line from the text.

* `textLines_unlines`: lines are read back from the text that they are put together to.
* `between?_eq_some_iff`: what stands between two expected texts.
* `Base.ofText?_text`: what a class derives from is read back from how it is written.
* `ClassDecl.ofLine?_header`: so is a class header, which starts in the first column.
* `Signature.ofLine?_line`: so is the signature of a handler.
* `codeWords_append`, `codeWords_literal`: the words of a statement, without its string literals.
* `Outline`: what is read off a file.
-/

namespace Scaffold

open Text

/-! ### Lines -/

/-- The lines of a text: the pieces between its newlines. -/
def textLines (s : String) : List (List Char) := s.toList.splitOn '\n'

/-- A text without newlines. -/
def OneLine (s : String) : Prop := '\n' ∉ s.toList

instance (s : String) : Decidable (OneLine s) := inferInstanceAs (Decidable ('\n' ∉ s.toList))

theorem OneLine.append {s t : String} (hs : OneLine s) (ht : OneLine t) : OneLine (s ++ t) := by
  unfold OneLine
  rw [String.toList_append, List.mem_append, not_or]
  exact ⟨hs, ht⟩

theorem NoBlank.oneLine {s : String} (h : NoBlank s) : OneLine s := by
  intro hmem
  have hblank : isBlank '\n' = true := by decide
  rw [h _ hmem] at hblank
  cases hblank

/-- The lines of a text that is put together from lines are the lines of these. -/
theorem textLines_unlines_cons (line : String) (lines : List String) :
    textLines (unlines (line :: lines)) = textLines line ++ textLines (unlines lines) := by
  have htext := toList_unlines_cons line lines []
  rw [List.append_nil, List.append_nil] at htext
  rw [textLines, htext, List.splitOn_append_cons_self]
  rfl

/-- Lines are read back from the text that they are put together to. The last newline has nothing
behind it. -/
theorem textLines_unlines {lines : List String} (h : ∀ line ∈ lines, OneLine line) :
    textLines (unlines lines) = lines.map String.toList ++ [[]] := by
  induction lines with
  | nil => simp [textLines, unlines]
  | cons line lines ih =>
    obtain ⟨hline, hlines⟩ := List.forall_mem_cons.mp h
    have hsingle : textLines line = [line.toList] := List.splitOn_eq_singleton hline
    rw [textLines_unlines_cons, hsingle, ih hlines]
    rfl

/-! ### Between two texts -/

/-- What stands between an opening and a closing text, which make up the rest of `s`. -/
def between? (opening closing : String) (s : List Char) : Option (List Char) := do
  let rest ← after? opening.toList s
  if endsIn closing.toList rest then some (rest.take (rest.length - closing.toList.length))
  else none

theorem between?_eq_some_iff {opening closing : String} {s t : List Char} :
    between? opening closing s = some t ↔ s = opening.toList ++ (t ++ closing.toList) := by
  constructor
  · intro h
    obtain ⟨rest, hrest, h⟩ := Option.bind_eq_some_iff.mp h
    split at h
    · next hclosing =>
      obtain ⟨u, rfl⟩ := endsIn_iff.mp hclosing
      rw [List.length_append, Nat.add_sub_cancel, List.take_left] at h
      rw [after?_eq_some_iff.mp hrest, Option.some.inj h]
    · cases h
  · rintro rfl
    refine Option.bind_eq_some_iff.mpr ⟨_, after?_append _ _, ?_⟩
    rw [if_pos (endsIn_iff.mpr (List.suffix_append t closing.toList)), List.length_append,
      Nat.add_sub_cancel, List.take_left]

/-! ### Indentation -/

/-- A line that is empty or has at least `n` spaces in front. -/
def Indented (n : Nat) (line : String) : Prop := line = "" ∨ List.replicate n ' ' <+: line.toList

instance (n : Nat) (line : String) : Decidable (Indented n line) :=
  inferInstanceAs (Decidable (line = "" ∨ List.replicate n ' ' <+: line.toList))

variable {n : Nat} {line : String}

theorem Indented.mono {m : Nat} (h : Indented n line) (hmn : m ≤ n) : Indented m line := by
  refine h.imp_right fun hspaces => List.IsPrefix.trans ?_ hspaces
  exact ⟨List.replicate (n - m) ' ', by rw [List.replicate_append_replicate, Nat.add_sub_cancel' hmn]⟩

theorem Indented.append_semicolon (h : Indented n line) (hne : line ≠ "") :
    Indented n (line ++ ";") := by
  rw [Indented, String.toList_append]
  exact Or.inr ((h.resolve_left hne).trans (List.prefix_append _ _))

/-- What is expected in the first column does not stand in an indented line. -/
theorem after?_of_indented (h : Indented (n + 1) line) {e : Char} (he : e ≠ ' ')
    (expected : List Char) : after? (e :: expected) line.toList = none := by
  rcases h with rfl | ⟨rest, hline⟩
  · rfl
  · rw [← hline, List.replicate_succ, List.cons_append, after?, if_neg he]

/-! ### Types -/

theorem AllWord.not_mem {s : String} (h : AllWord s) {c : Char} (hc : isWord c = false) :
    c ∉ s.toList := by
  intro hmem
  rw [h c hmem] at hc
  cases hc

namespace ResponseType

/-- The type, or that of the items of a list. -/
def name : ResponseType → String
  | .one name => name
  | .many name => name

/-- The type that a text writes. -/
def ofText (s : List Char) : ResponseType :=
  match between? "List<" ">" s with
  | some item => .many (String.ofList item)
  | none => .one (String.ofList s)

theorem ofText_text {r : ResponseType} (h : AllWord r.name) : ofText r.text.toList = r := by
  cases r with
  | one name =>
    have hitem : between? "List<" ">" name.toList = none := by
      rw [Option.eq_none_iff_forall_ne_some]
      intro item hsome
      have hangle : '<' ∉ name.toList := h.not_mem (by decide +kernel)
      rw [between?_eq_some_iff.mp hsome] at hangle
      exact hangle (List.mem_append_left _ (by decide))
    rw [ofText, text, hitem]
    exact congrArg _ String.ofList_toList
  | many name =>
    have hitem : between? "List<" ">" (many name).text.toList = some name.toList :=
      between?_eq_some_iff.mpr (by simp [text])
    rw [ofText, hitem]
    exact congrArg _ String.ofList_toList

theorem noBlank_text {r : ResponseType} (h : AllWord r.name) : NoBlank r.text := by
  cases r with
  | one name => exact h.noBlank
  | many name =>
    have hopen : NoBlank "List<" := by decide
    have hclose : NoBlank ">" := by decide
    exact (hopen.append h.noBlank).append hclose

end ResponseType

namespace Base

/-- The types that are named, those of lists by their items. -/
def types : Base → List String
  | .request response => [response.name]
  | .validator target => [target]
  | .handler asked response => [asked, response.name]

/-- The base that a text writes. -/
def ofText? (s : List Char) : Option Base :=
  match between? "IRequest<" ">" s with
  | some response => some (.request (.ofText response))
  | none =>
    match between? "AbstractValidator<" ">" s with
    | some target => some (.validator (String.ofList target))
    | none => do
      let types ← between? "IRequestHandler<" ">" s
      let response ← after? ", ".toList (types.dropWhile (· ≠ ','))
      return .handler (String.ofList (types.takeWhile (· ≠ ','))) (.ofText response)

theorem ofText?_text {b : Base} (h : ∀ t ∈ b.types, AllWord t) : ofText? b.text.toList = some b := by
  cases b with
  | request response =>
    have htext : (request response).text.toList =
        "IRequest<".toList ++ (response.text.toList ++ ">".toList) := by
      change ("IRequest<" ++ response.text ++ ">").toList = _
      simp
    have hresponse : AllWord response.name := h _ List.mem_cons_self
    rw [ofText?, between?_eq_some_iff.mpr htext]
    simp only [ResponseType.ofText_text hresponse]
  | validator target =>
    have htext : (validator target).text.toList =
        "AbstractValidator<".toList ++ (target.toList ++ ">".toList) := by
      change ("AbstractValidator<" ++ target ++ ">").toList = _
      simp
    have hrequest : between? "IRequest<" ">" (validator target).text.toList = none := by
      rw [htext]
      rfl
    rw [ofText?, hrequest]
    simp only [between?_eq_some_iff.mpr htext, String.ofList_toList]
  | handler asked response =>
    have htext : (handler asked response).text.toList = "IRequestHandler<".toList ++
        (asked.toList ++ (", ".toList ++ response.text.toList) ++ ">".toList) := by
      change ("IRequestHandler<" ++ asked ++ ", " ++ response.text ++ ">").toList = _
      simp
    have hrequest : between? "IRequest<" ">" (handler asked response).text.toList = none := by
      rw [htext]
      rfl
    have hvalidator : between? "AbstractValidator<" ">" (handler asked response).text.toList =
        none := by
      rw [htext]
      rfl
    have hasked : ∀ c ∈ asked.toList, decide (c ≠ ',') = true := by
      have hword : isWord ',' = false := by decide +kernel
      rintro c hc
      refine decide_eq_true ?_
      rintro rfl
      exact (h asked List.mem_cons_self).not_mem hword hc
    have hcomma : ∀ c, (", ".toList ++ response.text.toList).head? = some c →
        decide (c ≠ ',') = false := by
      intro c hc
      cases hc
      rfl
    have hresponse : AllWord response.name := h _ (List.mem_cons_of_mem _ List.mem_cons_self)
    rw [ofText?, hrequest]
    simp only [hvalidator, between?_eq_some_iff.mpr htext, Option.bind_eq_bind, Option.bind_some]
    rw [takeWhile_run hasked hcomma, dropWhile_run hasked hcomma, after?_append, Option.bind_some,
      String.ofList_toList, ResponseType.ofText_text hresponse]
    rfl

end Base

/-! ### Headers -/

/-- The header of a class: its name, and what stands behind it. -/
structure Header where
  name : String
  tail : String
  deriving DecidableEq, Repr

namespace Header

/-- The class that a line declares in the first column. -/
def ofLine? (line : List Char) : Option Header := do
  let rest ← after? "public ".toList line
  let rest ← after? "class ".toList ((after? "sealed ".toList rest).getD rest)
  return ⟨String.ofList (rest.takeWhile (!isBlank ·)), String.ofList (rest.dropWhile (!isBlank ·))⟩

/-- What the class derives from. -/
def base? (h : Header) : Option Base := (after? " : ".toList h.tail.toList).bind Base.ofText?

end Header

/-- The header of a class, as it is read. -/
def ClassDecl.heading (c : ClassDecl) : Header :=
  ⟨c.name, match c.base with
    | none => ""
    | some base => " : " ++ base.text⟩

theorem ClassDecl.ofLine?_header {c : ClassDecl} (hname : NoBlank c.name) :
    Header.ofLine? c.header.toList = some c.heading := by
  have hrun : ∀ d ∈ c.name.toList, (!isBlank d) = true := by
    intro d hd
    rw [hname d hd]
    rfl
  have hstop : ∀ d, c.heading.tail.toList.head? = some d → (!isBlank d) = false := by
    intro d hd
    unfold ClassDecl.heading at hd
    cases hbase : c.base with
    | none =>
      rw [hbase] at hd
      cases hd
    | some base =>
      rw [hbase] at hd
      simp at hd
      subst hd
      decide
  have hrest : ((after? "sealed ".toList
      ((if c.isSealed then "sealed " else "").toList ++ ("class ".toList ++
        (c.name.toList ++ c.heading.tail.toList)))).getD
      ((if c.isSealed then "sealed " else "").toList ++ ("class ".toList ++
        (c.name.toList ++ c.heading.tail.toList)))) =
      "class ".toList ++ (c.name.toList ++ c.heading.tail.toList) := by
    cases c.isSealed with
    | false => simp [after?]
    | true => simp [after?]
  have htext : c.header.toList = "public ".toList ++
      ((if c.isSealed then "sealed " else "").toList ++ ("class ".toList ++
        (c.name.toList ++ c.heading.tail.toList))) := by
    obtain ⟨isSealed, name, base, members⟩ := c
    cases isSealed <;> cases base <;> simp [ClassDecl.header, ClassDecl.heading]
  rw [Header.ofLine?, htext, after?_append]
  simp only [Option.bind_eq_bind, Option.bind_some]
  rw [hrest, after?_append, Option.bind_some, takeWhile_run hrun hstop, dropWhile_run hrun hstop,
    String.ofList_toList, String.ofList_toList]
  rfl

theorem ClassDecl.base?_heading {c : ClassDecl}
    (h : ∀ b, c.base = some b → ∀ t ∈ b.types, AllWord t) : c.heading.base? = c.base := by
  unfold Header.base? ClassDecl.heading
  cases hbase : c.base with
  | none => simp [after?]
  | some base =>
    dsimp only
    rw [String.toList_append, after?_append, Option.bind_some, Base.ofText?_text (h base hbase)]

/-! ### Signatures -/

/-- What the signature of a handler says: the request that it handles and the response. -/
structure Signature where
  asked : String
  response : ResponseType
  deriving DecidableEq, Repr

/-- How the signature of a handler ends. -/
def signatureEnd : String := " request, CancellationToken cancellationToken)"

/-- The signature that a line writes. -/
def Signature.ofLine? (line : List Char) : Option Signature := do
  let rest ← after? "    public Task<".toList line
  let response ← between? "" ">" (rest.takeWhile (!isBlank ·))
  let rest ← after? " Handle(".toList (rest.dropWhile (!isBlank ·))
  if rest.dropWhile (!isBlank ·) = signatureEnd.toList then
    some ⟨String.ofList (rest.takeWhile (!isBlank ·)), .ofText response⟩
  else none

namespace Signature

variable {sig : Signature}

/-- A line that is read as a signature ends like one. -/
theorem suffix_of_ofLine? {s : List Char} (h : ofLine? s = some sig) : signatureEnd.toList <:+ s := by
  obtain ⟨rest, hrest, h⟩ := Option.bind_eq_some_iff.mp h
  obtain ⟨response, _, h⟩ := Option.bind_eq_some_iff.mp h
  obtain ⟨rest', hrest', h⟩ := Option.bind_eq_some_iff.mp h
  rw [after?_eq_some_iff.mp hrest]
  split at h
  · next hend =>
    rw [← hend]
    refine (List.dropWhile_suffix _).trans ?_
    have hbehind : rest' <:+ rest.dropWhile (!isBlank ·) := by
      rw [after?_eq_some_iff.mp hrest']
      exact List.suffix_append _ _
    exact (hbehind.trans (List.dropWhile_suffix _)).trans (List.suffix_append _ _)
  · cases h

/-- A line that ends differently is no signature. -/
theorem ofLine?_eq_none_of_ending {s ending : String}
    (hending : ending.toList.length ≤ signatureEnd.toList.length)
    (h : ¬ ending.toList <:+ signatureEnd.toList) : ofLine? (s ++ ending).toList = none := by
  rw [Option.eq_none_iff_forall_ne_some]
  intro sig hsome
  have hsuffix := suffix_of_ofLine? hsome
  rw [String.toList_append] at hsuffix
  exact h (List.suffix_of_suffix_length_le (List.suffix_append _ _) hsuffix hending)

/-- A line that is indented further than members are is no signature. -/
theorem ofLine?_of_indented (h : Indented 8 line) : ofLine? line.toList = none := by
  rcases h with rfl | ⟨rest, hline⟩
  · rfl
  · rw [← hline]
    rfl

/-- A signature is read back from its line. -/
theorem ofLine?_line {asked : String} {response : ResponseType} (hasked : AllWord asked)
    (hresponse : AllWord response.name) :
    ofLine? ("    public Task<" ++ response.text ++ "> Handle(" ++ asked ++
      " request, CancellationToken cancellationToken)").toList = some ⟨asked, response⟩ := by
  have hrun : ∀ c ∈ response.text.toList ++ ">".toList, (!isBlank c) = true := by
    have hclose : NoBlank ">" := by decide
    have hword := (ResponseType.noBlank_text hresponse).append hclose
    rw [NoBlank, String.toList_append] at hword
    intro c hc
    rw [hword c hc]
    rfl
  have hasked' : ∀ c ∈ asked.toList, (!isBlank c) = true := by
    intro c hc
    rw [hasked.noBlank c hc]
    rfl
  have hspace : ∀ rest c, (" Handle(".toList ++ rest).head? = some c → (!isBlank c) = false := by
    intro rest c hc
    cases hc
    decide
  have hend : ∀ c, signatureEnd.toList.head? = some c → (!isBlank c) = false := by
    intro c hc
    cases hc
    decide
  have htext : ("    public Task<" ++ response.text ++ "> Handle(" ++ asked ++
      " request, CancellationToken cancellationToken)").toList =
      "    public Task<".toList ++ ((response.text.toList ++ ">".toList) ++
        (" Handle(".toList ++ (asked.toList ++ signatureEnd.toList))) := by
    simp [signatureEnd]
  have htype : between? "" ">" (response.text.toList ++ ">".toList) = some response.text.toList :=
    between?_eq_some_iff.mpr rfl
  rw [ofLine?, htext, after?_append]
  simp only [Option.bind_eq_bind, Option.bind_some]
  rw [takeWhile_run hrun (hspace _), dropWhile_run hrun (hspace _), htype]
  simp only [Option.bind_some, after?_append]
  rw [takeWhile_run hasked' hend, dropWhile_run hasked' hend, if_pos rfl, String.ofList_toList,
    ResponseType.ofText_text hresponse]

end Signature

/-! ### What a statement creates -/

/-- A line without its string literals. -/
def outsideQuotes (inside : Bool) : List Char → List Char
  | [] => []
  | c :: s =>
    if c = '"' then c :: outsideQuotes (!inside) s
    else if inside then outsideQuotes inside s
    else c :: outsideQuotes inside s

/-- What ends a word in a statement, besides blanks. -/
def punctuation : List Char := "()\x7b\x7d;,=.\"".toList

/-- Whether a character can stand in a name or a type. -/
def isTypeChar (c : Char) : Bool := !isBlank c && !punctuation.contains c

/-- The words and types of a line, those in string literals left out. -/
def codeWords (line : List Char) : List (List Char) :=
  ((outsideQuotes false line).splitOnP (!isTypeChar ·)).filter (!·.isEmpty)

/-- The types behind `new`. -/
def createdTypes : List (List Char) → List ResponseType
  | word :: type :: rest =>
    if word = "new".toList then .ofText type :: createdTypes (type :: rest)
    else createdTypes (type :: rest)
  | _ => []

theorem outsideQuotes_append {s : List Char} (hs : '"' ∉ s) (t : List Char) :
    outsideQuotes false (s ++ t) = s ++ outsideQuotes false t := by
  induction s with
  | nil => rfl
  | cons c s ih =>
    obtain ⟨hc, hs⟩ := not_or.mp (mt List.mem_cons.mpr hs)
    rw [List.cons_append, outsideQuotes, if_neg (Ne.symm hc), ih hs]
    rfl

/-- What is in quotes is left out. -/
theorem outsideQuotes_literal {s : List Char} (hs : '"' ∉ s) (t : List Char) :
    outsideQuotes true (s ++ '"' :: t) = '"' :: outsideQuotes false t := by
  induction s with
  | nil => rfl
  | cons c s ih =>
    obtain ⟨hc, hs⟩ := not_or.mp (mt List.mem_cons.mpr hs)
    rw [List.cons_append, outsideQuotes, if_neg (Ne.symm hc), if_pos rfl, ih hs]

/-- Words are read on both sides of what separates them. -/
theorem codeWords_append {s : List Char} (hs : '"' ∉ s) {c : Char} (hc : isTypeChar c = false)
    (hquote : c ≠ '"') (t : List Char) : codeWords (s ++ c :: t) = codeWords s ++ codeWords t := by
  have hleft : outsideQuotes false s = s := by
    rw [← List.append_nil s, outsideQuotes_append hs]
    rfl
  have hright : outsideQuotes false (c :: t) = c :: outsideQuotes false t := by
    rw [outsideQuotes, if_neg hquote]
    rfl
  simp only [codeWords]
  rw [outsideQuotes_append hs, hright, List.splitOnP_append_cons _ _ (by simp [hc]),
    List.filter_append, hleft]

/-- No words are read in a string literal. -/
theorem codeWords_literal {s m : List Char} (hs : '"' ∉ s) (hm : '"' ∉ m) :
    codeWords (s ++ '"' :: (m ++ ['"'])) = codeWords s := by
  have hquote : isTypeChar '"' = false := by decide +kernel
  have hliteral : outsideQuotes false ('"' :: (m ++ ['"'])) = ['"', '"'] := by
    rw [outsideQuotes, if_pos rfl, Bool.not_false, outsideQuotes_literal hm]
    rfl
  have hleft : outsideQuotes false s = s := by
    rw [← List.append_nil s, outsideQuotes_append hs]
    rfl
  simp only [codeWords]
  rw [outsideQuotes_append hs, hliteral, hleft, List.splitOnP_append_cons _ _ (by simp [hquote]),
    List.filter_append]
  have hnone : (List.splitOnP (!isTypeChar ·) ['"']).filter (!·.isEmpty) = [] := by decide +kernel
  rw [hnone, List.append_nil]

theorem ResponseType.isTypeChar_text {r : ResponseType} (h : AllWord r.name) :
    ∀ c ∈ r.text.toList, isTypeChar c = true := by
  have hpunctuation : punctuation.all (!isWord ·) = true := by decide +kernel
  have hword : ∀ {s : String}, AllWord s → ∀ c ∈ s.toList, isTypeChar c = true := by
    intro s hs c hc
    have hfree : c ∉ punctuation := by
      intro hmem
      have hnone := List.all_eq_true.mp hpunctuation c hmem
      rw [hs c hc] at hnone
      cases hnone
    simp [isTypeChar, hs.noBlank c hc, hfree]
  have hopen : "List<".toList.all isTypeChar = true := by decide
  have hclose : ">".toList.all isTypeChar = true := by decide
  cases r with
  | one name => exact hword h
  | many name =>
    rw [text, String.toList_append, String.toList_append]
    simp only [List.forall_mem_append]
    exact ⟨⟨List.all_eq_true.mp hopen, hword h⟩, List.all_eq_true.mp hclose⟩

theorem ResponseType.quote_not_mem_text {r : ResponseType} (h : AllWord r.name) :
    '"' ∉ r.text.toList := by
  intro hmem
  have hfalse : isTypeChar '"' = false := by decide
  rw [isTypeChar_text h _ hmem] at hfalse
  cases hfalse

/-- A type is one word. -/
theorem codeWords_text {r : ResponseType} (h : AllWord r.name) (hne : r.name ≠ "") :
    codeWords r.text.toList = [r.text.toList] := by
  have hnonempty : r.text.toList ≠ [] := by
    cases r with
    | one name => exact fun hnil => hne (String.toList_eq_nil_iff.mp hnil)
    | many name => simp [ResponseType.text]
  have houtside : outsideQuotes false r.text.toList = r.text.toList := by
    rw [← List.append_nil r.text.toList, outsideQuotes_append (ResponseType.quote_not_mem_text h)]
    rfl
  have hrun : ∀ c ∈ r.text.toList, (!isTypeChar c) = false := by
    intro c hc
    rw [ResponseType.isTypeChar_text h c hc]
    rfl
  rw [codeWords, houtside, List.splitOnP_eq_singleton hrun]
  simp [hnonempty]

/-! ### Outlines -/

/-- The lines behind the first signature. -/
def handlerBody (lines : List (List Char)) : List (List Char) :=
  (lines.dropWhile fun line => (Signature.ofLine? line).isNone).tail

/-- What is read off a generated file. -/
@[ext]
structure Outline where
  uses : List String
  homes : List String
  headers : List Header
  signatures : List Signature
  created : List ResponseType
  deriving DecidableEq, Repr

/-- What a line says behind a keyword and in front of a semicolon. -/
def statement? (keyword : String) (line : List Char) : Option String :=
  (between? keyword ";" line).map String.ofList

/-- The outline of a text. -/
def outline (text : String) : Outline where
  uses := (textLines text).filterMap (statement? "using ")
  homes := (textLines text).filterMap (statement? "namespace ")
  headers := (textLines text).filterMap Header.ofLine?
  signatures := (textLines text).filterMap Signature.ofLine?
  created := (handlerBody (textLines text)).flatMap fun line => createdTypes (codeWords line)

end Scaffold
