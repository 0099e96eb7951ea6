import Scaffold.Proofs.JsonTree

/-!
# Values of any shape are skipped

A value that nothing is known about is skipped by what its characters look like. Whatever the value
is and however it is written, it is skipped whole, and what stands behind it is left.

* `skipText_glyphs`, `skipNumber_text`: texts and numbers.
* `skipInside_seam`: one round inside of brackets.
* `skipValue_text`: values.
-/

namespace Scaffold.Json.Reader

variable {α : Type}

/-! ### Texts -/

/-- Four digits are a code unit. -/
theorem codeUnit_digits (a b c d : HexDigit) (rest : List Char) :
    codeUnit (a.val :: b.val :: c.val :: d.val :: rest) = .ok (codeUnitOf a b c d, rest) := by
  simp only [codeUnit, HexDigit.hexValue?]
  rfl

/-- A letter that stands for a character is not the one in front of a number. -/
theorem ne_of_simpleEscape? {letter c : Char} (h : simpleEscape? letter = some c) :
    letter ≠ 'u' := by
  rintro rfl
  cases h

theorem skipTextBody_plain {c : Char} (hquote : c ≠ '"') (hbackslash : c ≠ '\\')
    (hcontrol : ¬c.toNat < 0x20) (n : Nat) (rest : List Char) :
    skipTextBody (n + 1) (c :: rest) = skipTextBody n rest := by
  rw [skipTextBody]
  dsimp only
  split
  case h_1 hcons => cases hcons
  case h_2 hcons => exact absurd (List.cons.inj hcons).1 hquote
  case h_3 hcons => exact absurd (List.cons.inj hcons).1 hbackslash
  case h_4 hcons => exact absurd (List.cons.inj hcons).1 hbackslash
  case h_5 hcons => exact absurd (List.cons.inj hcons).1 hbackslash
  case h_6 hcons =>
    obtain ⟨rfl, rfl⟩ := List.cons.inj hcons
    exact if_neg hcontrol

theorem skipTextBody_short {letter c : Char} (h : simpleEscape? letter = some c) (n : Nat)
    (rest : List Char) :
    skipTextBody (n + 1) ('\\' :: letter :: rest) = skipTextBody n rest := by
  have hletter : letter = 'u' → False := ne_of_simpleEscape? h
  rw [skipTextBody]
  simp only [h, Option.isSome_some, if_true]

/-- Surrogates are skipped like any other code unit, in pairs or alone. -/
theorem skipTextBody_glyphs (gs : List Glyph) (rest : List Char) {n : Nat} (h : gs.length < n) :
    skipTextBody n (gs.flatMap Glyph.text ++ '"' :: rest) = .ok ((), rest) := by
  induction gs generalizing n with
  | nil =>
    obtain ⟨n, rfl⟩ := Nat.exists_eq_add_one.mpr h
    rfl
  | cons g gs ih =>
    obtain ⟨n, rfl⟩ := Nat.exists_eq_add_one.mpr (Nat.zero_lt_of_lt h)
    have hrest := ih (Nat.lt_of_succ_lt_succ h)
    cases g with
    | plain c hquote hbackslash hcontrol =>
      rw [glyphs_plain, skipTextBody_plain hquote hbackslash hcontrol, hrest]
    | short letter c hletter => rw [glyphs_short, skipTextBody_short hletter, hrest]
    | unit a b c d =>
      rw [glyphs_unit]
      exact (bind_of_ok (map_of_ok (codeUnit_digits a b c d _))).trans hrest

theorem skipText_glyphs (gs : List Glyph) (rest : List Char) :
    skipText (gs.flatMap Glyph.text ++ '"' :: rest) = .ok ((), rest) := by
  have hle := length_le_flatMap Glyph.text_ne_nil gs
  refine skipTextBody_glyphs gs rest ?_
  rw [List.length_append]
  omega

/-- The name of a member is skipped, and the colon behind it. -/
theorem skipName_text (l : Label) (rest : List Char) :
    skipName (l.text ++ rest) = .ok ((), l.behindColon.val ++ rest) := by
  have htext : l.text ++ rest = '"' :: (l.glyphs.flatMap Glyph.text ++
      '"' :: (l.beforeColon.val ++ ':' :: (l.behindColon.val ++ rest))) := by
    rw [Label.text, List.append_assoc, quotation_append, List.append_assoc, List.cons_append]
  rw [htext, skipName, bind_of_ok (peek_cons rfl _)]
  refine (bind_of_ok (skip_cons _ _)).trans ?_
  refine (bind_of_ok (skipText_glyphs l.glyphs _)).trans ?_
  exact colon_gap l.beforeColon _

/-! ### Numbers -/

/-- Digits are taken up to what is no digit. -/
theorem digits_append (ds : Digits) {rest : List Char}
    (h : ∀ c, rest.head? = some c → c.isDigit = false) :
    digits (ds.val ++ rest) = .ok (ds.val, rest) := by
  rw [digits, Text.takeWhile_run ds.property.2 h, Text.dropWhile_run ds.property.2 h]

theorem skipDigits_append (ds : Digits) {rest : List Char}
    (h : ∀ c, rest.head? = some c → c.isDigit = false) :
    skipDigits (ds.val ++ rest) = .ok ((), rest) := by
  have hne : ds.val.isEmpty = false := List.isEmpty_eq_false_iff.mpr ds.property.1
  rw [skipDigits, bind_of_ok (digits_append ds h), hne]
  rfl

/-- An exponent is skipped; without one nothing is. -/
theorem skipExponent_text (e : Option Exponent) {rest : List Char} (h : AfterValue rest) :
    skipExponent (e.elim [] Exponent.text ++ rest) = .ok ((), rest) := by
  cases e with
  | none =>
    cases rest with
    | nil => rfl
    | cons c rest =>
      refine if_neg ?_
      rintro (rfl | rfl)
      · exact h.ne (by decide) rfl
      · exact h.ne (by decide) rfl
  | some e =>
    have hskip := skipDigits_append e.size h.not_digit
    obtain ⟨hne, hdigits⟩ := e.size.property
    obtain ⟨c, cs, hcons⟩ := List.exists_cons_of_ne_nil hne
    have hdigit := hdigits c (hcons ▸ List.mem_cons_self)
    have hplus : ∀ s, c :: (cs ++ rest) = '+' :: s → False := by
      rintro s hs
      rw [(List.cons.inj hs).1] at hdigit
      cases hdigit
    have hminus : ∀ s, c :: (cs ++ rest) = '-' :: s → False := by
      rintro s hs
      rw [(List.cons.inj hs).1] at hdigit
      cases hdigit
    rw [Option.elim_some, Exponent.text, List.cons_append, List.append_assoc]
    rw [hcons, List.cons_append] at hskip ⊢
    refine (if_pos e.isLetter).trans ?_
    rcases e.isSign with hsign | hsign | hsign
    · rw [hsign, List.nil_append]
      simp only
      exact hskip
    · rw [hsign]
      exact hskip
    · rw [hsign]
      exact hskip

/-- Behind the digits of a number there is an exponent or the end. -/
theorem head?_exponent (e : Option Exponent) {rest : List Char} (h : AfterValue rest) {c : Char}
    (hc : (e.elim [] Exponent.text ++ rest).head? = some c) : c.isDigit = false ∧ c ≠ '.' := by
  cases e with
  | none => exact ⟨h.not_digit c hc, fun hpoint => h.ne (by decide) (hpoint ▸ hc)⟩
  | some e =>
    obtain rfl : e.letter = c := Option.some.inj hc
    rcases e.isLetter with hletter | hletter <;> rw [hletter] <;> decide

/-- What stands behind the whole part of a number is no digit. -/
theorem not_digit_tail (n : Numeral) {rest : List Char} (h : AfterValue rest) :
    ∀ c, (n.tail ++ rest).head? = some c → c.isDigit = false := by
  intro c hc
  rw [Numeral.tail] at hc
  cases hfraction : n.fraction with
  | some ds =>
    rw [hfraction] at hc
    cases hc
    rfl
  | none =>
    rw [hfraction] at hc
    exact (head?_exponent n.exponent h hc).1

theorem skipNumber_digits (n : Numeral) {rest : List Char} (h : AfterValue rest) :
    skipNumber (n.whole.val ++ (n.tail ++ rest)) = .ok ((), rest) := by
  have hexponent := skipExponent_text n.exponent h
  rw [skipNumber, bind_of_ok (digits_append n.whole (not_digit_tail n h))]
  have hne : n.whole.val = [] → False := n.whole.property.1
  have hzero : ∀ d ds, n.whole.val = '0' :: d :: ds → False := n.noLeadingZero
  simp only
  rw [bind_of_ok (r := get) (s := n.tail ++ rest) rfl, Numeral.tail, List.append_assoc]
  cases hfraction : n.fraction with
  | some ds =>
    have hskip := skipDigits_append ds fun c hc => (head?_exponent n.exponent h hc).1
    exact (bind_of_ok (f := fun _ => skipExponent) hskip).trans hexponent
  | none =>
    have hpoint : ∀ s, n.exponent.elim [] Exponent.text ++ rest = '.' :: s → False := by
      intro s hs
      exact (head?_exponent n.exponent h (congrArg List.head? hs)).2 rfl
    simp only [Option.elim_none, List.nil_append]
    exact hexponent

/-! ### Brackets -/

/-- Skips an item or a member. -/
def skipPart (n : Nat) : Nesting → Reader Unit
  | .array => skipValueWith (skipInside n true)
  | .object => do skipName; skipValueWith (skipInside n true)

/-- The bracket at the end is taken. -/
theorem skipInside_closing (n : Nat) (first : Bool) (nesting : Nesting) (closing : Gap)
    (rest : List Char) :
    skipInside (n + 1) first nesting (closing.val ++ nesting.closing :: rest) = .ok ((), rest) := by
  have hspace : isSpace nesting.closing = false := by cases nesting <;> rfl
  rw [skipInside, bind_of_ok (peek_gap_cons closing hspace rest)]
  simp only [if_true]
  rfl

theorem skipPart_bind (n : Nat) (nesting : Nesting) (f : Unit → Reader α) :
    skipPart n nesting >>= f =
      if nesting = .object then skipName >>= fun _ => skipValueWith (skipInside n true) >>= f
      else skipValueWith (skipInside n true) >>= f := by
  cases nesting
  · rfl
  · exact bind_assoc _ _ _

/-- What stands in front of a part is passed over, and then the part is skipped. -/
theorem skipInside_seam (n : Nat) (first : Bool) {nesting : Nesting} (seam : Seam) {c : Char}
    (hspace : isSpace c = false) (hc : c ≠ nesting.closing) (s : List Char) :
    skipInside (n + 1) first nesting (seam.text first ++ c :: s) =
      (skipPart n nesting >>= fun _ => skipInside n false nesting) (c :: s) := by
  have hcomma : ',' ≠ nesting.closing := by cases nesting <;> decide
  rw [skipInside, Seam.text]
  cases first with
  | true =>
    rw [if_pos rfl, bind_of_ok (peek_gap_cons seam.behindComma hspace s), skipPart_bind]
    simp only [hc]
    rfl
  | false =>
    have hblanks : PassesBlanks (skipPart n nesting >>= fun _ => skipInside n false nesting) := by
      cases nesting
      · exact (passesBlanks_skipValueWith _).bind _
      · exact (passesBlanks_skipName.bind _).bind _
    rw [if_neg Bool.false_ne_true, List.append_assoc, List.cons_append,
      bind_of_ok (peek_gap_cons seam.beforeComma rfl _), ← hblanks seam.behindComma, skipPart_bind]
    simp only [hcomma]
    rfl

/-- Behind a part there is another one or the end. -/
theorem afterValue_joined (entries : List (Seam × List Char)) {rest : List Char}
    (h : AfterValue rest) : AfterValue (joined false entries ++ rest) := by
  cases entries with
  | nil => exact h
  | cons entry entries =>
    obtain ⟨seam, part⟩ := entry
    rw [joined, Seam.text, if_neg Bool.false_ne_true, List.append_assoc, List.append_assoc]
    exact .blanks seam.beforeComma.property (.comma _)

theorem afterValue_closing (closing : Gap) (nesting : Nesting) (rest : List Char) :
    AfterValue (closing.val ++ nesting.closing :: rest) := by
  refine .blanks closing.property ?_
  cases nesting
  · exact .bracket rest
  · exact .brace rest

/-- What can be skipped part by part is skipped up to the bracket at its end. -/
theorem skipInside_joined (nesting : Nesting) (closing : Gap) {entries : List (Seam × List Char)}
    (hfront : ∀ e ∈ entries, ∃ c cs, e.2 = c :: cs ∧ isSpace c = false ∧ c ≠ nesting.closing)
    (hskip : ∀ e ∈ entries, ∀ n rest, e.2.length ≤ n → AfterValue rest →
      skipPart n nesting (e.2 ++ rest) = .ok ((), rest))
    (first : Bool) (rest : List Char) {n : Nat}
    (hn : (joined first entries ++ (closing.val ++ [nesting.closing])).length ≤ n) :
    skipInside n first nesting (joined first entries ++ (closing.val ++ nesting.closing :: rest)) =
      .ok ((), rest) := by
  induction entries generalizing first n with
  | nil =>
    obtain ⟨n, rfl⟩ : ∃ k, n = k + 1 := Nat.exists_eq_add_one.mpr (by
      rw [List.length_append, List.length_append, List.length_singleton] at hn
      omega)
    exact skipInside_closing n first nesting closing rest
  | cons entry entries ih =>
    obtain ⟨seam, part⟩ := entry
    obtain ⟨⟨c, cs, hcons, hspace, hc⟩, hfronts⟩ := List.forall_mem_cons.mp hfront
    obtain ⟨hpart, hparts⟩ := List.forall_mem_cons.mp hskip
    dsimp only at hcons hpart
    have hlength : 0 < part.length := by
      rw [hcons]
      exact Nat.zero_lt_succ _
    rw [joined] at hn ⊢
    simp only [List.length_append, List.length_singleton] at hn ih
    obtain ⟨n, rfl⟩ : ∃ k, n = k + 1 := Nat.exists_eq_add_one.mpr (by omega)
    have hmore := ih hfronts hparts false (n := n) (by omega)
    have hthis := hpart n (joined false entries ++ (closing.val ++ nesting.closing :: rest))
      (by omega) (afterValue_joined entries (afterValue_closing closing nesting rest))
    rw [List.append_assoc, List.append_assoc]
    rw [hcons, List.cons_append] at hthis ⊢
    rw [skipInside_seam n first seam hspace hc]
    exact (bind_of_ok hthis).trans hmore

/-! ### Values -/

theorem skipValueWith_digit (inside : Nesting → Reader Unit) {c : Char} (h : c.isDigit = true)
    (s : List Char) : skipValueWith inside (c :: s) = skipNumber (c :: s) := by
  rw [skipValueWith, bind_of_ok (peek_cons (isSpace_of_isDigit h) s)]
  refine congrFun (g := skipNumber) ?_ (c :: s)
  split
  case h_9 hc =>
    cases hc
    rw [if_pos h]
  all_goals
    next hc =>
    cases hc <;> cases h

theorem skipValueWith_number (inside : Nesting → Reader Unit) (m : Numeral) {rest : List Char}
    (hrest : AfterValue rest) : skipValueWith inside (m.text ++ rest) = .ok ((), rest) := by
  have hnumber := skipNumber_digits m hrest
  obtain ⟨c, cs, hcons, hdigit⟩ := m.exists_whole
  rw [Numeral.text, List.append_assoc, List.append_assoc]
  cases m.isNegative with
  | true => exact (bind_of_ok (peek_cons rfl _)).trans hnumber
  | false =>
    rw [hcons] at hnumber ⊢
    exact (skipValueWith_digit inside hdigit _).trans hnumber

/-- A value is skipped whole. -/
theorem skipValueWith_text (t : Tree) {n : Nat} (hn : t.text.length ≤ n) {rest : List Char}
    (hrest : AfterValue rest) :
    skipValueWith (skipInside n true) (t.text ++ rest) = .ok ((), rest) := by
  induction t using Tree.induction generalizing n rest with
  | null => exact bind_of_ok (peek_cons rfl _)
  | bool b => cases b <;> exact bind_of_ok (peek_cons rfl _)
  | number m => exact skipValueWith_number _ m hrest
  | string gs =>
    rw [Tree.text, quotation_append, skipValueWith, bind_of_ok (peek_cons rfl _)]
    exact skipText_glyphs gs rest
  | array items closing ih =>
    rw [Tree.text, Tree.itemTexts_eq] at hn ⊢
    rw [List.cons_append, List.append_assoc, List.append_assoc, skipValueWith,
      bind_of_ok (peek_cons rfl _)]
    refine skipInside_joined .array closing ?_ ?_ true rest (Nat.le_of_succ_le hn)
    · intro e he
      obtain ⟨item, -, rfl⟩ := List.mem_map.mp he
      obtain ⟨c, cs, hcons, hspace, hbracket, -⟩ := item.2.exists_front
      exact ⟨c, cs, hcons, hspace, hbracket⟩
    · intro e he k rest' hk hrest'
      obtain ⟨item, hitem, rfl⟩ := List.mem_map.mp he
      exact ih item hitem hk hrest'
  | object members closing ih =>
    rw [Tree.text, Tree.memberTexts_eq] at hn ⊢
    rw [List.cons_append, List.append_assoc, List.append_assoc, skipValueWith,
      bind_of_ok (peek_cons rfl _)]
    refine skipInside_joined .object closing ?_ ?_ true rest (Nat.le_of_succ_le hn)
    · intro e he
      obtain ⟨m, -, rfl⟩ := List.mem_map.mp he
      exact ⟨'"', _, rfl, rfl, by decide⟩
    · intro e he k rest' hk hrest'
      obtain ⟨m, hm, rfl⟩ := List.mem_map.mp he
      dsimp only at hk ⊢
      rw [List.length_append] at hk
      rw [List.append_assoc]
      refine (bind_of_ok (skipName_text m.1 _)).trans ?_
      rw [passesBlanks_skipValueWith]
      exact ih m hm (by omega) hrest'

/-- Whatever a value is, it is skipped, and the blanks in front of it. -/
theorem skipValue_text (gap : Gap) (t : Tree) {rest : List Char} (hrest : AfterValue rest) :
    skipValue (gap.val ++ (t.text ++ rest)) = .ok ((), rest) := by
  refine (passesBlanks_skipValueWith _ gap _).trans (skipValueWith_text t ?_ hrest)
  rw [List.length_append, List.length_append]
  omega

end Scaffold.Json.Reader
