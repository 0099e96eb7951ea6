import Scaffold.Proofs.BalancedReaders
import Scaffold.Proofs.Skipping

/-!
# What is read is JSON

A reader of some type accepts nothing but JSON: what it takes is a value as it is written, with
blanks in front of it. This holds of the values that it skips, too.

* `TakesValue`: a reader that takes a value.
* `takesValue_skipValue`: values of any shape.
* `takesValue_text`, `TakesValue.list`, `takesValue_record`: values of a known shape.
* `TakesValue.exists_document`: a text that is read is a whole JSON text.
-/

namespace Scaffold.Json

/-- Blanks and more blanks. -/
def Gap.append (g g' : Gap) : Gap :=
  ⟨g.val ++ g'.val, fun c hc => (List.mem_append.mp hc).elim (g.property c) (g'.property c)⟩

namespace Reader

variable {α β ρ : Type}

/-! ### Texts -/

theorem exists_hexDigit {c : Char} {n : Nat} (h : hexValue? c = some n) :
    ∃ d : HexDigit, d.val = c := ⟨⟨c, Option.isSome_of_eq_some h⟩, rfl⟩

theorem codeUnit_eq_ok {s rest : List Char} {n : Nat} (h : codeUnit s = .ok (n, rest)) :
    ∃ a b c d : HexDigit, s = a.val :: b.val :: c.val :: d.val :: rest := by
  unfold codeUnit at h
  split at h
  · split at h
    · next ha hb hc hd =>
      cases h
      obtain ⟨a, rfl⟩ := exists_hexDigit ha
      obtain ⟨b, rfl⟩ := exists_hexDigit hb
      obtain ⟨c, rfl⟩ := exists_hexDigit hc
      obtain ⟨d, rfl⟩ := exists_hexDigit hd
      exact ⟨a, b, c, d, rfl⟩
    · cases h
  · split at h <;> cases h

/-- A character by its number is one code unit or a pair of them. -/
theorem numberedChar_eq_ok {s rest : List Char} {c : Char}
    (h : numberedChar s = .ok (c, rest)) :
    ∃ gs : List Glyph, '\\' :: 'u' :: s = gs.flatMap Glyph.text ++ rest := by
  obtain ⟨high, t, hhigh, hthen⟩ := bind_eq_ok h
  obtain ⟨a, b, c, d, rfl⟩ := codeUnit_eq_ok hhigh
  dsimp only at hthen
  split at hthen
  · cases hthen
  split at hthen
  · cases hthen
    exact ⟨[.unit a b c d], rfl⟩
  · obtain ⟨_, t', hexpect, hpair⟩ := bind_eq_ok hthen
    obtain rfl := expect_eq_ok hexpect
    obtain ⟨low, t'', hlow, hend⟩ := bind_eq_ok hpair
    obtain ⟨a', b', c', d', rfl⟩ := codeUnit_eq_ok hlow
    generalize Char.ofNat (0x10000 + (high - 0xD800) * 0x400 + (low - 0xDC00)) = pair at hend
    split at hend
    · cases hend
    · cases hend
      exact ⟨[.unit a b c d, .unit a' b' c' d'], rfl⟩

/-- Before the quote that ends it, a text is made of characters as they may be written. -/
theorem glyphs_of_textChar {s rest : List Char} {c : Char}
    (h : textChar s = .ok (some c, rest)) :
    ∃ gs : List Glyph, s = gs.flatMap Glyph.text ++ rest := by
  unfold textChar at h
  split at h
  case h_1 => cases h
  case h_2 => cases h
  case h_3 s =>
    obtain ⟨d, hnumbered, -⟩ := map_eq_ok h
    exact numberedChar_eq_ok hnumbered
  case h_4 letter s _ =>
    cases hsimple : simpleEscape? letter with
    | none =>
      rw [hsimple] at h
      cases h
    | some d =>
      rw [hsimple] at h
      cases h
      exact ⟨[.short letter _ hsimple], rfl⟩
  case h_5 => cases h
  case h_6 d s hquote hnumber hescape hlone =>
    split at h
    · cases h
    · next hcontrol =>
      cases h
      exact ⟨[.plain _ hquote (ne_backslash hescape hlone) hcontrol], rfl⟩

/-- What is behind the quote that opens a text. -/
def IsRestOfText (cs : List Char) : Prop := ∃ gs : List Glyph, cs = gs.flatMap Glyph.text ++ ['"']

theorem IsRestOfText.glyphs {cs : List Char} (gs : List Glyph) (h : IsRestOfText cs) :
    IsRestOfText (gs.flatMap Glyph.text ++ cs) := by
  obtain ⟨gs', rfl⟩ := h
  exact ⟨gs ++ gs', by rw [List.flatMap_append, List.append_assoc]⟩

theorem textBody_takes (n : Nat) (s : List Char) : Consumes IsRestOfText (textBody n) s := by
  induction n generalizing s with
  | zero => exact .throw _
  | succ n ih =>
    intro cs rest hok
    obtain ⟨next, t, hchar, hmore⟩ := bind_eq_ok hok
    cases next with
    | none =>
      rcases textChar_eq_ok hchar with ⟨hnext, -⟩ | ⟨-, rfl⟩
      · exact absurd rfl hnext
      · cases hmore
        exact ⟨['"'], ⟨[], rfl⟩, rfl⟩
    | some c =>
      obtain ⟨gs, rfl⟩ := glyphs_of_textChar hchar
      obtain ⟨cs', hbody, -⟩ := map_eq_ok (g := (c :: ·)) hmore
      obtain ⟨taken, htaken, rfl⟩ := ih t cs' rest hbody
      exact ⟨_, htaken.glyphs gs, (List.append_assoc ..).symm⟩

theorem quoted_takes (s : List Char) : Consumes IsRestOfText quoted s :=
  (textBody_takes (s.length + 1) s).map

theorem skipTextBody_takes (n : Nat) (s : List Char) :
    Consumes IsRestOfText (skipTextBody n) s := by
  induction n generalizing s with
  | zero => exact .throw _
  | succ n ih =>
    intro _ rest hok
    unfold skipTextBody at hok
    split at hok
    case h_1 => cases hok
    case h_2 s =>
      cases hok
      exact ⟨['"'], ⟨[], rfl⟩, rfl⟩
    case h_3 s =>
      obtain ⟨_, t, hunit, hmore⟩ := bind_eq_ok hok
      obtain ⟨_, hdigits, -⟩ := map_eq_ok hunit
      obtain ⟨a, b, c, d, rfl⟩ := codeUnit_eq_ok hdigits
      obtain ⟨taken, htaken, rfl⟩ := ih t _ rest hmore
      exact ⟨_, htaken.glyphs [.unit a b c d], rfl⟩
    case h_4 letter s _ =>
      split at hok
      · next hsome =>
        obtain ⟨c, hc⟩ := Option.isSome_iff_exists.mp hsome
        obtain ⟨taken, htaken, rfl⟩ := ih s _ _ hok
        exact ⟨_, htaken.glyphs [.short letter c hc], rfl⟩
      · cases hok
    case h_5 => cases hok
    case h_6 c s hquote hnumber hescape hlone =>
      split at hok
      · cases hok
      · next hcontrol =>
        obtain ⟨taken, htaken, rfl⟩ := ih s _ _ hok
        exact ⟨_, htaken.glyphs [.plain c hquote (ne_backslash hescape hlone) hcontrol], rfl⟩

theorem skipText_takes (s : List Char) : Consumes IsRestOfText skipText s :=
  skipTextBody_takes (s.length + 1) s

/-! ### Numbers -/

theorem digits_eq_ok {s rest ds : List Char} (h : digits s = .ok (ds, rest)) :
    s = ds ++ rest ∧ ∀ d ∈ ds, d.isDigit = true := by
  cases h
  exact ⟨List.takeWhile_append_dropWhile.symm, fun _ => List.mem_takeWhile_imp⟩

theorem skipDigits_eq_ok {s rest : List Char} {u : Unit} (h : skipDigits s = .ok (u, rest)) :
    ∃ ds : Digits, s = ds.val ++ rest := by
  obtain ⟨ds, t, hdigits, hthen⟩ := bind_eq_ok h
  obtain ⟨rfl, hall⟩ := digits_eq_ok hdigits
  split at hthen
  · cases hthen
  · next hne =>
    cases hthen
    exact ⟨⟨ds, by simpa using hne, hall⟩, rfl⟩

theorem skipExponent_eq_ok {s rest : List Char} {u : Unit}
    (h : skipExponent s = .ok (u, rest)) :
    ∃ e : Option Exponent, s = e.elim [] Exponent.text ++ rest := by
  cases s with
  | nil =>
    cases h
    exact ⟨none, rfl⟩
  | cons c s =>
    unfold skipExponent at h
    dsimp only at h
    split at h
    · next hletter =>
      split at h
      · obtain ⟨ds, rfl⟩ := skipDigits_eq_ok h
        exact ⟨some ⟨c, ['+'], ds, hletter, .inr (.inl rfl)⟩, rfl⟩
      · obtain ⟨ds, rfl⟩ := skipDigits_eq_ok h
        exact ⟨some ⟨c, ['-'], ds, hletter, .inr (.inr rfl)⟩, rfl⟩
      · obtain ⟨ds, rfl⟩ := skipDigits_eq_ok h
        exact ⟨some ⟨c, [], ds, hletter, .inl rfl⟩, rfl⟩
    · cases h
      exact ⟨none, rfl⟩

theorem skipNumber_eq_ok {s rest : List Char} {u : Unit} (isNegative : Bool)
    (h : skipNumber s = .ok (u, rest)) :
    ∃ n : Numeral, n.isNegative = isNegative ∧ s = n.whole.val ++ (n.tail ++ rest) := by
  obtain ⟨ds, t, hdigits, hthen⟩ := bind_eq_ok h
  obtain ⟨rfl, hall⟩ := digits_eq_ok hdigits
  split at hthen
  · cases hthen
  · cases hthen
  · next hne hzero =>
    obtain ⟨t', t'', hget, hbehind⟩ := bind_eq_ok hthen
    cases hget
    split at hbehind
    · obtain ⟨_, t', hset, hfraction⟩ := bind_eq_ok hbehind
      cases hset
      obtain ⟨_, t', hdigits', hexponent⟩ := bind_eq_ok hfraction
      obtain ⟨fraction, rfl⟩ := skipDigits_eq_ok hdigits'
      obtain ⟨exponent, rfl⟩ := skipExponent_eq_ok hexponent
      refine ⟨⟨isNegative, ⟨ds, hne, hall⟩, some fraction, exponent, hzero⟩, rfl, ?_⟩
      simp [Numeral.tail]
    · obtain ⟨exponent, rfl⟩ := skipExponent_eq_ok hbehind
      exact ⟨⟨isNegative, ⟨ds, hne, hall⟩, none, exponent, hzero⟩, rfl, rfl⟩

/-! ### Kinds of parts -/

/-- What is of one kind and behind it what is of another. -/
def Then (kind kind' : List Char → Prop) (cs : List Char) : Prop :=
  ∃ ds es, kind ds ∧ kind' es ∧ cs = ds ++ es

/-- What is of a kind, with blanks in front of it. -/
def Spaced (kind : List Char → Prop) (cs : List Char) : Prop :=
  ∃ (gap : Gap) (ds : List Char), kind ds ∧ cs = gap.val ++ ds

def IsQuotation (cs : List Char) : Prop := ∃ gs : List Glyph, cs = quotation gs

def IsColon (cs : List Char) : Prop := ∃ gap : Gap, cs = gap.val ++ [':']

def IsTree (cs : List Char) : Prop := ∃ t : Tree, cs = t.text

/-- An item of an array or a member of an object. -/
def IsPart : Nesting → List Char → Prop
  | .array, cs => IsTree cs
  | .object, cs => ∃ (l : Label) (t : Tree), cs = l.text ++ t.text

/-- The bracket at the end. -/
def IsEnd (nesting : Nesting) (cs : List Char) : Prop :=
  ∃ closing : Gap, cs = closing.val ++ [nesting.closing]

/-- What is behind the bracket that opens an array or an object, or behind one of its parts. -/
def IsInside (nesting : Nesting) (first : Bool) (cs : List Char) : Prop :=
  ∃ (entries : List (Seam × List Char)) (closing : Gap), (∀ e ∈ entries, IsPart nesting e.2) ∧
    cs = joined first entries ++ (closing.val ++ [nesting.closing])

/-- What lacks nothing but the bracket at the end. -/
def IsUnclosed (nesting : Nesting) (first : Bool) (cs : List Char) : Prop :=
  ∀ ds, IsEnd nesting ds → IsInside nesting first (cs ++ ds)

section

variable {kind kind' : List Char → Prop} {nesting : Nesting} {first : Bool} {cs ds : List Char}

theorem Spaced.of (h : kind cs) : Spaced kind cs := ⟨.none, cs, h, rfl⟩

theorem Spaced.blanks (hcs : ∀ c ∈ cs, isSpace c = true) (h : Spaced kind ds) :
    Spaced kind (cs ++ ds) := by
  obtain ⟨gap, ds, hds, rfl⟩ := h
  exact ⟨.append ⟨cs, hcs⟩ gap, ds, hds, (List.append_assoc ..).symm⟩

theorem Spaced.mono (hkind : ∀ cs, kind cs → kind' cs) (h : Spaced kind cs) : Spaced kind' cs := by
  obtain ⟨gap, ds, hds, rfl⟩ := h
  exact ⟨gap, ds, hkind ds hds, rfl⟩

theorem isTree_quotation (cs : List Char) (h : IsQuotation cs) : IsTree cs := by
  obtain ⟨gs, rfl⟩ := h
  exact ⟨.string gs, rfl⟩

theorem IsRestOfText.isQuotation (h : IsRestOfText cs) : IsQuotation ('"' :: cs) := by
  obtain ⟨gs, rfl⟩ := h
  exact ⟨gs, rfl⟩

theorem Then.append {kind'' : List Char → Prop} (h : Then kind kind' cs) (hds : kind'' ds) :
    Then kind (Then kind' kind'') (cs ++ ds) := by
  obtain ⟨es, fs, hes, hfs, rfl⟩ := h
  exact ⟨es, fs ++ ds, hes, ⟨fs, ds, hfs, hds, rfl⟩, List.append_assoc ..⟩

/-- A name, a colon and a value are a member. -/
theorem Then.member (h : Then (Spaced IsQuotation) (Then IsColon (Then (Spaced IsTree) kind)) cs) :
    Then (Spaced (IsPart .object)) kind cs := by
  obtain ⟨_, _, ⟨gap, _, ⟨gs, rfl⟩, rfl⟩, ⟨_, _, ⟨beforeColon, rfl⟩, hvalue, rfl⟩, rfl⟩ := h
  obtain ⟨_, es, ⟨behindColon, _, ⟨t, rfl⟩, rfl⟩, hes, rfl⟩ := hvalue
  refine ⟨_, es, ⟨gap, _, ⟨⟨{}, gs, beforeColon, behindColon⟩, t, rfl⟩, rfl⟩, hes, ?_⟩
  simp [Label.text]

theorem IsEnd.isInside (first : Bool) (h : IsEnd nesting cs) : IsInside nesting first cs := by
  obtain ⟨closing, rfl⟩ := h
  exact ⟨[], closing, List.forall_mem_nil _, by rw [joined, List.nil_append]⟩

/-- A part stands behind its seam, and more may follow it. -/
theorem IsInside.seam (seam : Seam)
    (h : Then (Spaced (IsPart nesting)) (IsInside nesting false) cs) :
    IsInside nesting first (seam.text first ++ cs) := by
  obtain ⟨_, _, ⟨gap, part, hpart, rfl⟩, ⟨entries, closing, hparts, rfl⟩, rfl⟩ := h
  refine ⟨(⟨seam.beforeComma, .append seam.behindComma gap⟩, part) :: entries, closing,
    List.forall_mem_cons.mpr ⟨hpart, hparts⟩, ?_⟩
  cases first <;> simp [joined, Seam.text, Gap.append]

/-- Blanks are part of what stands in front of the next part or of the end. -/
theorem IsInside.blanks (hcs : ∀ c ∈ cs, isSpace c = true) (h : IsInside nesting first ds) :
    IsInside nesting first (cs ++ ds) := by
  obtain ⟨entries, closing, hparts, rfl⟩ := h
  cases entries with
  | nil =>
    refine ⟨[], .append ⟨cs, hcs⟩ closing, hparts, ?_⟩
    simp [joined, Gap.append]
  | cons entry entries =>
    obtain ⟨hpart, hmore⟩ := List.forall_mem_cons.mp hparts
    cases first with
    | true =>
      refine ⟨(⟨.none, .append ⟨cs, hcs⟩ entry.1.behindComma⟩, entry.2) :: entries, closing,
        List.forall_mem_cons.mpr ⟨hpart, hmore⟩, ?_⟩
      simp [joined, Seam.text, Gap.append]
    | false =>
      refine ⟨(⟨.append ⟨cs, hcs⟩ entry.1.beforeComma, entry.1.behindComma⟩, entry.2) :: entries,
        closing, List.forall_mem_cons.mpr ⟨hpart, hmore⟩, ?_⟩
      simp [joined, Seam.text, Gap.append]

theorem isUnclosed_gap (gap : Gap) : IsUnclosed nesting first gap.val :=
  fun _ hend => (hend.isInside first).blanks gap.property

theorem IsUnclosed.blanks (hcs : ∀ c ∈ cs, isSpace c = true) (h : IsUnclosed nesting first ds) :
    IsUnclosed nesting first (cs ++ ds) := by
  intro es hend
  rw [List.append_assoc]
  exact (h es hend).blanks hcs

theorem IsUnclosed.seam (seam : Seam)
    (h : Then (Spaced (IsPart nesting)) (IsUnclosed nesting false) cs) :
    IsUnclosed nesting first (seam.text first ++ cs) := by
  obtain ⟨ds, es, hpart, hmore, rfl⟩ := h
  intro fs hend
  rw [List.append_assoc, List.append_assoc]
  exact .seam seam ⟨ds, es ++ fs, hpart, hmore fs hend, rfl⟩

/-- Items between brackets are an array. -/
theorem IsInside.array (h : IsInside .array true cs) : IsTree ('[' :: cs) := by
  obtain ⟨entries, closing, hparts, rfl⟩ := h
  have hitems : ∃ items, entries = Tree.itemTexts items := by
    induction entries with
    | nil => exact ⟨[], rfl⟩
    | cons e entries ih =>
      obtain ⟨⟨t, ht⟩, hmore⟩ := List.forall_mem_cons.mp hparts
      obtain ⟨items, rfl⟩ := ih hmore
      exact ⟨(e.1, t) :: items, congrArg (· :: _) (Prod.ext rfl ht)⟩
  obtain ⟨items, rfl⟩ := hitems
  exact ⟨.array items closing, rfl⟩

/-- Members between braces are an object. -/
theorem IsInside.object (h : IsInside .object true cs) : IsTree ('\x7b' :: cs) := by
  obtain ⟨entries, closing, hparts, rfl⟩ := h
  have hmembers : ∃ members, entries = Tree.memberTexts members := by
    induction entries with
    | nil => exact ⟨[], rfl⟩
    | cons e entries ih =>
      obtain ⟨⟨l, t, ht⟩, hmore⟩ := List.forall_mem_cons.mp hparts
      obtain ⟨members, rfl⟩ := ih hmore
      exact ⟨({ l with seam := e.1 }, t) :: members, congrArg (· :: _) (Prod.ext rfl ht)⟩
  obtain ⟨members, rfl⟩ := hmembers
  exact ⟨.object members closing, rfl⟩

end

/-! ### Rules -/

section

variable {kind kind' whole : List Char → Prop} {read : Reader α} {f : α → Reader β} {s : List Char}

theorem Consumes.mono (h : ∀ cs, kind cs → whole cs) (hread : Consumes kind read s) :
    Consumes whole read s := by
  intro a rest hok
  obtain ⟨taken, htaken, hsplit⟩ := hread a rest hok
  exact ⟨taken, h taken htaken, hsplit⟩

/-- One reader after the other takes one part after the other. -/
theorem Consumes.append (h : ∀ cs ds, kind cs → kind' ds → whole (cs ++ ds))
    (hread : Consumes kind read s) (hf : ∀ a t, Consumes kind' (f a) t) :
    Consumes whole (read >>= f) s :=
  .bind_of_ensures h hread .trivial fun a t _ => hf a t

theorem Consumes.before (hread : Consumes kind read s) (hf : ∀ a t, Consumes kind' (f a) t) :
    Consumes (Then kind kind') (read >>= f) s :=
  .append (fun cs ds hcs hds => ⟨cs, ds, hcs, hds, rfl⟩) hread hf

/-- Blanks in front of a part do not change of what kind it is. -/
theorem Consumes.peek_spaced {f : Option Char → Reader β} (hnone : Consumes (Spaced kind) (f none) [])
    (hsome : ∀ c t, Consumes (Spaced kind) (f (some c)) (c :: t)) :
    Consumes (Spaced kind) (Reader.peek >>= f) s :=
  .peek_of_append (fun _ _ => Spaced.blanks) hnone hsome

end

/-- Whatever text it is given, the reader takes a value, with blanks in front of it. -/
def TakesValue (read : Reader α) : Prop := ∀ s, Consumes (Spaced IsTree) read s

theorem TakesValue.bind_pure {read : Reader α} (h : TakesValue read) (f : α → β) :
    TakesValue (read >>= fun a => pure (f a)) := by
  intro s b rest hok
  obtain ⟨a, t, hread, hpure⟩ := bind_eq_ok hok
  cases hpure
  exact h s a rest hread

theorem consumes_colon (s : List Char) : Consumes IsColon colon s := by
  have hblanks (cs ds : List Char) (hcs : ∀ c ∈ cs, isSpace c = true) (hds : ds = [':']) :
      IsColon (cs ++ ds) := ⟨⟨cs, hcs⟩, hds ▸ rfl⟩
  refine .peek_of_append hblanks (.throw _) fun c t => ?_
  split
  case h_1 hc =>
    cases hc
    exact .skip_one rfl
  all_goals exact .throw _

/-! ### Values of any shape -/

theorem consumes_word {cs : List Char} (h : IsTree cs) (s : List Char) :
    Consumes (Spaced IsTree) (expect cs) s :=
  fun _ _ hok => ⟨cs, .of h, expect_eq_ok hok⟩

/-- The number behind a sign, or without one. -/
theorem consumes_skipNumber (isNegative : Bool) (s : List Char) :
    Consumes (fun cs => IsTree ((if isNegative then ['-'] else []) ++ cs)) skipNumber s := by
  intro _ rest hok
  obtain ⟨n, hsign, rfl⟩ := skipNumber_eq_ok isNegative hok
  refine ⟨n.whole.val ++ n.tail, ⟨.number n, ?_⟩, (List.append_assoc ..).symm⟩
  rw [Tree.text, Numeral.text, hsign]

theorem consumes_skipName (s : List Char) :
    Consumes (Then (Spaced IsQuotation) IsColon) skipName s := by
  have hblanks (cs ds : List Char) (hcs : ∀ c ∈ cs, isSpace c = true)
      (h : Then (Spaced IsQuotation) IsColon ds) : Then (Spaced IsQuotation) IsColon (cs ++ ds) := by
    obtain ⟨es, fs, hes, hfs, rfl⟩ := h
    exact ⟨cs ++ es, fs, hes.blanks hcs, hfs, (List.append_assoc ..).symm⟩
  unfold skipName
  refine .peek_of_append hblanks (.throw_bind _) fun c t => ?_
  split
  case h_1 hc =>
    cases hc
    refine .skip ?_ (.before (skipText_takes t) fun _ t => consumes_colon t)
    rintro _ ⟨ds, es, hds, hes, rfl⟩
    exact ⟨'"' :: ds, es, .of hds.isQuotation, hes, rfl⟩
  all_goals exact .throw_bind _

theorem takesValue_skipValueWith {inside : Nesting → Reader Unit}
    (h : ∀ nesting s, Consumes (IsInside nesting true) (inside nesting) s) :
    TakesValue (skipValueWith inside) := by
  intro s
  unfold skipValueWith
  refine .peek_spaced (.throw _) fun c t => ?_
  split
  case h_1 => exact .throw _
  case h_2 => exact consumes_word ⟨.null, rfl⟩ _
  case h_3 => exact consumes_word ⟨.bool true, rfl⟩ _
  case h_4 => exact consumes_word ⟨.bool false, rfl⟩ _
  case h_5 hc =>
    cases hc
    exact .skip (fun _ h => .of (isTree_quotation _ h.isQuotation)) (skipText_takes t)
  case h_6 hc =>
    cases hc
    exact .skip (fun _ h => .of h) (consumes_skipNumber true t)
  case h_7 hc =>
    cases hc
    exact .skip (fun _ h => .of h.array) (h .array t)
  case h_8 hc =>
    cases hc
    exact .skip (fun _ h => .of h.object) (h .object t)
  case h_9 =>
    refine .ite (fun _ => ?_) fun _ => .throw _
    exact (consumes_skipNumber false _).mono fun _ h => .of h

theorem skipInside_takes (n : Nat) (first : Bool) (nesting : Nesting) (s : List Char) :
    Consumes (IsInside nesting first) (skipInside n first nesting) s := by
  induction n generalizing first nesting s with
  | zero => exact .throw _
  | succ n ih =>
    have hvalue (t : List Char) : Consumes (Then (Spaced IsTree) (IsInside nesting false))
        (do skipValueWith (skipInside n true); skipInside n false nesting) t :=
      .before (takesValue_skipValueWith (fun nesting s => ih true nesting s) t)
        fun _ t => ih false nesting t
    have hpart (t : List Char) :
        Consumes (Then (Spaced (IsPart nesting)) (IsInside nesting false))
          (do
            if nesting = .object then skipName
            skipValueWith (skipInside n true)
            skipInside n false nesting) t := by
      cases nesting with
      | array => exact hvalue t
      | object =>
        refine .mono (fun _ => Then.member) ?_
        exact .append (fun _ _ => Then.append) (consumes_skipName t) fun _ t => hvalue t
    refine .peek_of_append (fun _ _ => IsInside.blanks) (.throw _) fun c t =>
      .ite (fun hc => ?_) fun _ => .ite (fun hfirst => ?_) fun hfirst => ?_
    · subst hc
      exact .skip_one (IsEnd.isInside first ⟨.none, rfl⟩)
    · refine .ite (fun hc => ?_) fun _ => .throw_bind _
      subst hc
      obtain rfl : first = false := by simpa using hfirst
      exact .skip (fun _ => IsInside.seam {}) (hpart t)
    · obtain rfl : first = true := by simpa using hfirst
      exact (hpart (c :: t)).mono fun _ => IsInside.seam {}

theorem takesValue_skipValue : TakesValue skipValue := by
  intro s a rest hok
  exact takesValue_skipValueWith (skipInside_takes (s.length + 1) true) s a rest hok

/-! ### Texts and lists -/

theorem consumes_text (s : List Char) : Consumes (Spaced IsQuotation) text s := by
  refine .peek_spaced (.throw _) fun c t => ?_
  split
  case h_1 hc =>
    cases hc
    exact .skip (fun _ h => .of h.isQuotation) (quoted_takes t)
  case h_2 => exact consumes_mismatch _
  case h_3 => exact .throw _

theorem takesValue_text : TakesValue text := fun s =>
  (consumes_text s).mono fun _ => Spaced.mono isTree_quotation

/-- The reader takes what stands between two parts, or blanks if no part follows. -/
def Separates (first : Bool) (read : Reader Bool) : Prop :=
  ∀ s, Ensures (fun more rest => ∃ taken, s = taken ++ rest ∧
    if more then ∃ seam : Seam, taken = seam.text first else ∃ gap : Gap, taken = gap.val) read s

theorem peek_eq_ok {s rest : List Char} {next : Option Char} (h : peek s = .ok (next, rest)) :
    ∃ gap : Gap, s = gap.val ++ rest ∧ next = rest.head? := by
  cases h
  exact ⟨⟨s.takeWhile isSpace, fun _ => List.mem_takeWhile_imp⟩,
    List.takeWhile_append_dropWhile.symm, rfl⟩

theorem seam_first {first : Bool} (hfirst : first = true) (gap : Gap) (rest : List Char) :
    ∃ taken, gap.val ++ rest = taken ++ rest ∧ ∃ seam : Seam, taken = seam.text first :=
  ⟨gap.val, rfl, ⟨.none, gap⟩, by rw [Seam.text, if_pos hfirst]⟩

/-- A comma is a seam, with the blanks around it. -/
theorem seam_comma {first : Bool} (hfirst : ¬first = true) (gap : Gap) {t rest : List Char}
    {next : Option Char} (hcomma : some ',' = t.head?) (hpeek : peek t.tail = .ok (next, rest)) :
    ∃ taken, gap.val ++ t = taken ++ rest ∧ ∃ seam : Seam, taken = seam.text first := by
  obtain ⟨t, rfl⟩ := List.head?_eq_some_iff.mp hcomma.symm
  obtain ⟨gap', hsplit, -⟩ := peek_eq_ok hpeek
  refine ⟨gap.val ++ ',' :: gap'.val, ?_, ⟨gap, gap'⟩, by rw [Seam.text, if_neg hfirst]⟩
  rw [List.append_assoc, List.cons_append, ← hsplit, List.tail_cons]

theorem separates_hasItem (first : Bool) : Separates first (hasItem first) := by
  intro s more rest hok
  obtain ⟨next, t, hpeek, hthen⟩ := bind_eq_ok hok
  obtain ⟨gap, rfl, hnext⟩ := peek_eq_ok hpeek
  split at hthen
  case h_1 => cases hthen
  case h_2 =>
    cases hthen
    exact ⟨gap.val, rfl, gap, rfl⟩
  case h_3 c _ =>
    split at hthen
    · next hfirst =>
      cases hthen
      exact seam_first hfirst gap rest
    · next hfirst =>
      dsimp only at hthen
      split at hthen
      · cases hthen
      · next hc =>
        obtain rfl : c = ',' := not_not.mp hc
        obtain ⟨_, t', hskip, hbehind⟩ := bind_eq_ok hthen
        cases hskip
        obtain ⟨next', t'', hpeek', hmore⟩ := bind_eq_ok hbehind
        split at hmore
        · cases hmore
        · cases hmore
        · cases hmore
          exact seam_comma hfirst gap hnext hpeek'

theorem separates_hasMember (first : Bool) : Separates first (hasMember first) := by
  intro s more rest hok
  obtain ⟨next, t, hpeek, hthen⟩ := bind_eq_ok hok
  obtain ⟨gap, rfl, hnext⟩ := peek_eq_ok hpeek
  split at hthen
  case h_1 => cases hthen
  case h_2 =>
    cases hthen
    exact ⟨gap.val, rfl, gap, rfl⟩
  case h_3 c _ =>
    by_cases hfirst : first = true
    · rw [if_pos hfirst] at hthen
      split at hthen
      · cases hthen
        exact seam_first hfirst gap rest
      · cases hthen
    · rw [if_neg hfirst] at hthen
      dsimp only at hthen
      split at hthen
      · cases hthen
      · next hc =>
        obtain rfl : c = ',' := not_not.mp hc
        obtain ⟨_, t', hskip, hbehind⟩ := bind_eq_ok hthen
        cases hskip
        obtain ⟨next', t'', hpeek', hmore⟩ := bind_eq_ok hbehind
        split at hmore
        · cases hmore
          exact seam_comma hfirst gap hnext hpeek'
        · cases hmore
        · cases hmore

/-- Parts are taken one after the other. -/
theorem Separates.bind {nesting : Nesting} {first : Bool} {read : Reader Bool}
    (h : Separates first read) {f : Bool → Reader α}
    (hmore : ∀ t, Consumes (Then (Spaced (IsPart nesting)) (IsUnclosed nesting false)) (f true) t)
    (hend : ∀ t, Consumes (IsUnclosed nesting first) (f false) t) (s : List Char) :
    Consumes (IsUnclosed nesting first) (read >>= f) s := by
  intro a rest hok
  obtain ⟨more, t, hread, hthen⟩ := bind_eq_ok hok
  obtain ⟨taken, rfl, htaken⟩ := h s more t hread
  cases more with
  | true =>
    obtain ⟨seam, rfl⟩ := htaken
    obtain ⟨parts, hparts, rfl⟩ := hmore t a rest hthen
    exact ⟨_, IsUnclosed.seam seam hparts, (List.append_assoc ..).symm⟩
  | false =>
    obtain ⟨gap, rfl⟩ := htaken
    obtain ⟨parts, hparts, rfl⟩ := hend t a rest hthen
    exact ⟨_, hparts.blanks gap.property, (List.append_assoc ..).symm⟩

theorem isUnclosed_nil (nesting : Nesting) (first : Bool) : IsUnclosed nesting first [] :=
  isUnclosed_gap .none

theorem endArray_takes (s : List Char) : Consumes (IsEnd .array) endArray s := by
  have hblanks (cs ds : List Char) (hcs : ∀ c ∈ cs, isSpace c = true) (hds : ds = [']']) :
      IsEnd .array (cs ++ ds) := ⟨⟨cs, hcs⟩, hds ▸ rfl⟩
  refine .peek_of_append hblanks (.throw _) fun c t => ?_
  split
  case h_1 hc =>
    cases hc
    exact .skip_one rfl
  all_goals exact .throw _

theorem TakesValue.items {read : Reader α} (h : TakesValue read) (n : Nat) (first : Bool)
    (s : List Char) : Consumes (IsUnclosed .array first) (items read n first) s := by
  induction n generalizing first s with
  | zero => exact .throw _
  | succ n ih =>
    refine (separates_hasItem first).bind (fun t => ?_) (fun t => ?_) s
    · exact .before (h t) fun a t => (ih false t).map
    · exact .pure (isUnclosed_nil _ _)

theorem TakesValue.list {read : Reader α} (h : TakesValue read) :
    TakesValue (Reader.list read) := by
  intro s
  refine .peek_spaced (.throw _) fun c t => ?_
  split
  case h_1 hc =>
    cases hc
    refine .skip (fun _ h => .of h.array) (.append (fun _ ds h => h ds) (h.items _ _ _) ?_)
    exact fun as t => (endArray_takes t).map (g := fun _ => as)
  case h_2 => exact consumes_mismatch _
  case h_3 => exact .throw _

/-! ### Records -/

section

variable {fields : List (Field ρ)}

theorem members_take (h : ∀ field ∈ fields, ∀ r, TakesValue (field.read r)) (n : Nat)
    (first : Bool) (r : ρ) (s : List Char) :
    Consumes (IsUnclosed .object first) (members fields n first r) s := by
  induction n generalizing first r s with
  | zero => exact .throw _
  | succ n ih =>
    refine (separates_hasMember first).bind (fun t => ?_) (fun t => ?_) s
    · refine .mono (fun _ => Then.member) (.before (consumes_text t) fun name t => ?_)
      split
      · next field hfield =>
        refine .ite (fun _ => .throw_bind _) fun _ => .before (consumes_colon t) fun _ t => ?_
        exact .before (h field (List.mem_of_find?_eq_some hfield) r t) fun r t => ih false r t
      · exact .before (consumes_colon t) fun _ t =>
          .before (takesValue_skipValue t) fun _ t => ih false r t
    · exact .pure (isUnclosed_nil _ _)

theorem positional_takes (h : ∀ field ∈ fields, ∀ r, TakesValue (field.read r)) (first : Bool)
    (r : ρ) (s : List Char) : Consumes (IsUnclosed .array first) (positional fields first r) s := by
  induction fields generalizing first r s with
  | nil => exact .pure (isUnclosed_nil _ _)
  | cons field fields ih =>
    obtain ⟨hfield, hfields⟩ := List.forall_mem_cons.mp h
    refine (separates_hasItem first).bind (fun t => ?_) (fun t => ?_) s
    · exact .before (hfield r t) fun r t => ih hfields false r t
    · exact .throw _

theorem takesValue_record (h : ∀ field ∈ fields, ∀ r, TakesValue (field.read r)) (empty : ρ)
    (complete : ρ → Option α) : TakesValue (record fields empty complete) := by
  intro s
  refine .peek_spaced (.throw _) fun c t => ?_
  split
  case h_1 hc =>
    cases hc
    refine .skip (fun _ h => .of (IsInside.object h)) ?_
    refine .bind_of_ensures (fun _ ds h => h ds) (members_take h (t.length + 1) true empty t)
      (ensures_members (t.length + 1) true empty t) fun r t hend => ?_
    obtain ⟨t', rfl⟩ := hend
    split
    · next a _ => exact (Consumes.skip_one ⟨.none, rfl⟩).map (g := fun _ => a)
    · exact .throw _
  case h_2 hc =>
    cases hc
    refine .skip (fun _ h => .of (IsInside.array h)) ?_
    refine .append (fun _ ds h => h ds) (positional_takes h true empty t) fun r t => ?_
    split
    · next a _ => exact (endArray_takes t).map (g := fun _ => a)
    · exact .throw _
  case h_3 => exact consumes_mismatch _
  case h_4 => exact .throw _

end

/-! ### Whole texts -/

/-- A text that is read is a whole JSON text. -/
theorem TakesValue.exists_document {read : Reader α} (h : TakesValue read) {text : String} {a : α}
    (hrun : run read text = .ok a) : ∃ d : Document, d.text = text := by
  rw [run] at hrun
  cases hread : read text.toList with
  | error e =>
    rw [hread] at hrun
    cases hrun
  | ok p =>
    obtain ⟨a', rest⟩ := p
    rw [hread] at hrun
    dsimp only [bind, Except.bind] at hrun
    split at hrun
    · next hblank =>
      obtain ⟨taken, ⟨gap, _, ⟨t, rfl⟩, rfl⟩, hsplit⟩ := h text.toList a' rest hread
      have hrest : ∀ c ∈ rest, isSpace c = true := List.dropWhile_eq_nil_iff.mp hblank
      refine ⟨⟨gap, t, rest, hrest⟩, String.toList_injective ?_⟩
      rw [Document.text, String.toList_ofList, hsplit, List.append_assoc]
    · cases hrun

end Reader

end Scaffold.Json
