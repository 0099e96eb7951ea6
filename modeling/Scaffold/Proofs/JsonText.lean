import Scaffold.Json
import Scaffold.Json.Reader
import Scaffold.Proofs.Decimals

/-!
# Values read back from their texts

A reader that takes the text of a value takes it whole and leaves what stands behind it. This holds
of the readers for texts, counts and truth values, and a list hands it on from its items.

* `Decodes`: what a reader takes a value to be.
* `decodes_text`, `decodes_count`, `decodes_bool`: single values.
* `Decodes.optional`, `decodes_none`: values that may be missing.
* `decodes_list`: lists.
-/

namespace Scaffold.Json

open Reader

variable {α β ρ : Type}

/-! ### Running readers -/

namespace Reader

theorem bind_of_ok {r : Reader α} {f : α → Reader β} {s s' : List Char} {a : α}
    (h : r s = .ok (a, s')) : (r >>= f) s = f a s' := by
  change (r s >>= fun p => f p.1 p.2) = f a s'
  rw [h]
  rfl

theorem bind_of_eq {r : Reader α} {f : α → Reader β} {s s' : List Char} (h : r s = r s') :
    (r >>= f) s = (r >>= f) s' := by
  change (r s >>= fun p => f p.1 p.2) = (r s' >>= fun p => f p.1 p.2)
  rw [h]

theorem map_of_ok {r : Reader α} {f : α → β} {s s' : List Char} {a : α}
    (h : r s = .ok (a, s')) : (f <$> r) s = .ok (f a, s') := by
  change (r s >>= fun p => pure (f p.1, p.2)) = .ok (f a, s')
  rw [h]
  rfl

theorem peek_cons {c : Char} (h : isSpace c = false) (s : List Char) :
    peek (c :: s) = .ok (some c, c :: s) := by
  have hdrop : (c :: s).dropWhile isSpace = c :: s := List.dropWhile_cons_of_neg (by simp [h])
  simp only [peek, hdrop, List.head?_cons]

theorem skip_cons (c : Char) (s : List Char) : skip (c :: s) = .ok ((), s) := rfl

theorem isSpace_of_isDigit {c : Char} (h : c.isDigit = true) : isSpace c = false := by
  have hrange := toNat_of_isDigit h
  rw [Bool.eq_false_iff]
  intro hspace
  simp only [isSpace, Bool.or_eq_true, beq_iff_eq] at hspace
  rcases hspace with ((rfl | rfl) | rfl) | rfl <;> simp at hrange

/-! ### Texts -/

theorem hexValue?_hexDigit {n : Nat} (h : n < 16) : hexValue? (hexDigit n) = some n := by
  have hall : ∀ n < 16, hexValue? (hexDigit n) = some n := by decide
  exact hall n h

theorem textChar_plain {c : Char} (hquote : c ≠ '"') (hbackslash : c ≠ '\\')
    (hcontrol : ¬c.toNat < 0x20) (rest : List Char) :
    textChar (c :: rest) = .ok (some c, rest) := by
  unfold textChar
  split
  case h_1 hcons => cases hcons
  case h_2 hcons => exact absurd (List.cons.inj hcons).1 hquote
  case h_3 hcons => exact absurd (List.cons.inj hcons).1 hbackslash
  case h_4 hcons => exact absurd (List.cons.inj hcons).1 hbackslash
  case h_5 hcons => exact absurd (List.cons.inj hcons).1 hbackslash
  case h_6 hcons =>
    obtain ⟨rfl, rfl⟩ := List.cons.inj hcons
    exact if_neg hcontrol

/-- A character is read back from the way it stands in quotes. -/
theorem textChar_escape (c : Char) (rest : List Char) :
    textChar (escape c ++ rest) = .ok (some c, rest) := by
  unfold escape
  split
  case h_8 hquote hbackslash _ _ _ _ _ =>
    split
    case isTrue hcontrol =>
      have hhigh := hexValue?_hexDigit (n := c.toNat / 16) (by omega)
      have hlow := hexValue?_hexDigit (n := c.toNat % 16) (by omega)
      have hunit : codeUnit ('0' :: '0' :: hexDigit (c.toNat / 16) :: hexDigit (c.toNat % 16) ::
          rest) = .ok (c.toNat, rest) := by
        have hzero : hexValue? '0' = some 0 := by decide
        have hvalue : ((0 * 16 + 0) * 16 + c.toNat / 16) * 16 + c.toNat % 16 = c.toNat := by
          omega
        simp only [codeUnit, hzero, hhigh, hlow, hvalue]
      have hnumbered : numberedChar ('0' :: '0' :: hexDigit (c.toNat / 16) ::
          hexDigit (c.toNat % 16) :: rest) = .ok (c, rest) := by
        rw [numberedChar, bind_of_ok hunit, if_neg (by omega), if_pos (by omega),
          Char.ofNat_toNat]
        rfl
      exact map_of_ok hnumbered
    case isFalse hcontrol => exact textChar_plain hquote hbackslash hcontrol rest
  all_goals rfl

theorem textBody_escaped (cs rest : List Char) {n : Nat} (h : cs.length < n) :
    textBody n (cs.flatMap escape ++ '"' :: rest) = .ok (cs, rest) := by
  induction cs generalizing n with
  | nil =>
    obtain ⟨n, rfl⟩ := Nat.exists_eq_add_one.mpr h
    rfl
  | cons c cs ih =>
    obtain ⟨n, rfl⟩ := Nat.exists_eq_add_one.mpr (Nat.zero_lt_of_lt h)
    rw [List.flatMap_cons, List.append_assoc, textBody, bind_of_ok (textChar_escape c _)]
    exact bind_of_ok (ih (Nat.lt_of_succ_lt_succ h))

/-- Rounds are enough that are as many as the characters. -/
theorem length_le_flatMap {f : α → List β} (h : ∀ a, f a ≠ []) (as : List α) :
    as.length ≤ (as.flatMap f).length := by
  induction as with
  | nil => exact Nat.le_refl _
  | cons a as ih =>
    have hpos : 0 < (f a).length := List.length_pos_iff.mpr (h a)
    rw [List.flatMap_cons, List.length_append, List.length_cons]
    omega

theorem escape_ne_nil (c : Char) : escape c ≠ [] := by
  unfold escape
  split <;> try decide
  split <;> exact List.cons_ne_nil _ _

theorem quoted_escaped (s : String) (rest : List Char) :
    quoted (s.toList.flatMap escape ++ '"' :: rest) = .ok (s, rest) := by
  have hle := length_le_flatMap escape_ne_nil s.toList
  have hbody := textBody_escaped s.toList rest
    (n := (s.toList.flatMap escape ++ '"' :: rest).length + 1)
    (by rw [List.length_append]; omega)
  rw [quoted, map_of_ok hbody, String.ofList_toList]

theorem toList_quote (s : String) :
    (quote s).toList = '"' :: (s.toList.flatMap escape ++ ['"']) := by
  simp [quote]

theorem text_quote (s : String) (rest : List Char) :
    text ((quote s).toList ++ rest) = .ok (s, rest) := by
  rw [toList_quote, List.cons_append, List.append_assoc, text, bind_of_ok (peek_cons rfl _)]
  exact quoted_escaped s rest

/-! ### Counts -/

/-- Every digit makes a number larger, or leaves zero. -/
theorem le_foldl_digits (ds : List Char) (m : Nat) :
    m ≤ ds.foldl (fun n c => n * 10 + digitValue c) m := by
  induction ds generalizing m with
  | nil => exact Nat.le_refl _
  | cons c ds ih => exact Nat.le_trans (by omega) (ih (m * 10 + digitValue c))

/-- Digits make up a count as long as their value is one. -/
theorem absorb_of_le {m : Nat} (ds : List Char)
    (h : ds.foldl (fun n c => n * 10 + digitValue c) m ≤ countLimit) :
    absorb m ds = (ds.foldl (fun n c => n * 10 + digitValue c) m, 0) := by
  induction ds generalizing m with
  | nil => rfl
  | cons c ds ih =>
    rw [List.foldl_cons] at h ⊢
    rw [absorb, if_pos (Nat.le_trans (le_foldl_digits ds _) h)]
    exact ih h

theorem absorb_decimal {n : Nat} (h : n ≤ countLimit) : absorb 0 (decimal n) = (n, 0) := by
  have hvalue : (decimal n).foldl (fun n c => n * 10 + digitValue c) 0 = n :=
    Instant.digitsValue_decimal n
  have habsorb := absorb_of_le (m := 0) (decimal n) (by rwa [hvalue])
  rwa [hvalue] at habsorb

end Reader

/-! ### Single values -/

/-- What may stand behind a value: nothing, a mark that separates or closes, or a blank. -/
def AfterValue (rest : List Char) : Prop :=
  ∀ c, rest.head? = some c → c = ',' ∨ c = ']' ∨ c = '\x7d' ∨ isSpace c = true

/-- The reader takes the text of the value, and nothing else, and gives what it stands for. -/
def Decodes (read : Reader α) (v : Json) (a : α) : Prop :=
  ∀ rest, AfterValue rest → read (v.compact.toList ++ rest) = .ok (a, rest)

theorem AfterValue.nil : AfterValue [] := nofun

theorem AfterValue.comma (rest : List Char) : AfterValue (',' :: rest) := by
  rintro c ⟨⟩
  exact .inl rfl

theorem AfterValue.bracket (rest : List Char) : AfterValue (']' :: rest) := by
  rintro c ⟨⟩
  exact .inr (.inl rfl)

theorem AfterValue.brace (rest : List Char) : AfterValue ('\x7d' :: rest) := by
  rintro c ⟨⟩
  exact .inr (.inr (.inl rfl))

/-- What is behind blanks may have a blank in front of it. -/
theorem AfterValue.blanks {blanks rest : List Char} (h : ∀ c ∈ blanks, isSpace c = true)
    (hrest : AfterValue rest) : AfterValue (blanks ++ rest) := by
  cases blanks with
  | nil => exact hrest
  | cons c cs =>
    rintro _ ⟨⟩
    exact .inr (.inr (.inr (h c List.mem_cons_self)))

/-- What stands behind a value is none of the marks that a number goes on with. -/
theorem AfterValue.ne {rest : List Char} (h : AfterValue rest) {c : Char}
    (hmark : c ≠ ',' ∧ c ≠ ']' ∧ c ≠ '\x7d' ∧ isSpace c = false) : rest.head? ≠ some c := by
  intro hhead
  obtain ⟨hcomma, hbracket, hbrace, hspace⟩ := hmark
  rcases h c hhead with rfl | rfl | rfl | hc
  · exact hcomma rfl
  · exact hbracket rfl
  · exact hbrace rfl
  · rw [hspace] at hc
    cases hc

theorem decodes_text (s : String) : Decodes Reader.text (.text s) s :=
  fun rest _ => by rw [compact]; exact text_quote s rest

theorem Decodes.map {read : Reader α} {v : Json} {a : α} (h : Decodes read v a) (f : α → β) :
    Decodes (f <$> read) v (f a) := fun rest hrest => map_of_ok (h rest hrest)

theorem Decodes.bind_pure {read : Reader α} {v : Json} {a : α} (h : Decodes read v a)
    (f : α → β) : Decodes (read >>= fun a => pure (f a)) v (f a) :=
  fun rest hrest => bind_of_ok (h rest hrest)

theorem decodes_bool (b : Bool) : Decodes Reader.bool (.bool b) b := by
  intro rest _
  cases b <;> rw [compact, Reader.bool] <;> exact bind_of_ok (peek_cons rfl _)

/-- What stands behind a value is no part of a number. -/
theorem AfterValue.not_digit {rest : List Char} (h : AfterValue rest) :
    ∀ c, rest.head? = some c → c.isDigit = false := by
  intro c hc
  rcases h c hc with rfl | rfl | rfl | hspace
  · rfl
  · rfl
  · rfl
  · rw [Bool.eq_false_iff]
    intro hdigit
    rw [isSpace_of_isDigit hdigit] at hspace
    cases hspace

theorem unsigned_decimal {n : Nat} (h : n ≤ countLimit) {rest : List Char}
    (hrest : AfterValue rest) : unsigned (decimal n ++ rest) = .ok (some n, rest) := by
  have hdigits : digits (decimal n ++ rest) = .ok (decimal n, rest) := by
    rw [digits, Text.takeWhile_run (fun _ => isDigit_of_mem_decimal) hrest.not_digit,
      Text.dropWhile_run (fun _ => isDigit_of_mem_decimal) hrest.not_digit]
  have hne : decimal n = [] → False := decimal_ne_nil n
  have hzero : ∀ c cs, decimal n = '0' :: c :: cs → False := by
    intro c cs hcons
    cases Nat.eq_zero_or_pos n with
    | inl hzero => subst hzero; cases hcons
    | inr hpos => exact head?_decimal hpos (by rw [hcons]; rfl)
  have hget : (get : Reader (List Char)) rest = .ok (rest, rest) := rfl
  have hsmall : beyondRange n ((0 : Nat) : Int) = false := by simp [beyondRange]
  rw [unsigned, bind_of_ok hdigits]
  simp only [absorb_decimal h]
  rw [bind_of_ok hget]
  cases rest with
  | nil =>
    simp only [hsmall]
    rfl
  | cons c rest =>
    have hpoint : c = '.' → False := fun hc => hrest.ne (by decide) (congrArg some hc)
    have hletter : ¬(c = 'e' ∨ c = 'E') := by
      rintro (rfl | rfl)
      · exact hrest.ne (by decide) rfl
      · exact hrest.ne (by decide) rfl
    simp only [hsmall, hletter]
    rfl

theorem toList_number (n : Nat) : (compact (.number n)).toList = decimal n := by
  rw [compact, Nat.toString_eq_ofList_toDigits, String.toList_ofList]
  rfl

theorem decodes_count {n : Nat} (h : n ≤ countLimit) : Decodes Reader.count (.number n) n := by
  intro rest hrest
  rw [toList_number]
  have hunsigned := unsigned_decimal h hrest
  obtain ⟨c, cs, hcons, hdigit⟩ := exists_decimal n
  rw [hcons, List.cons_append] at hunsigned ⊢
  rw [Reader.count, bind_of_ok (peek_cons (isSpace_of_isDigit hdigit) _)]
  have hminus : c = '-' → False := by rintro rfl; cases hdigit
  simp only [hdigit, if_true]
  exact bind_of_ok hunsigned

/-! ### The front of a value -/

/-- The text of a value begins neither with a blank nor with the end of a list, and only `null`
begins with its first letter. -/
theorem exists_compact (v : Json) :
    ∃ c cs, v.compact.toList = c :: cs ∧ isSpace c = false ∧ c ≠ ']' ∧ (v ≠ .null → c ≠ 'n') := by
  cases v with
  | null => exact ⟨'n', ['u', 'l', 'l'], rfl, rfl, by decide, fun h => absurd rfl h⟩
  | bool b =>
    cases b
    · exact ⟨'f', ['a', 'l', 's', 'e'], rfl, rfl, by decide, fun _ => by decide⟩
    · exact ⟨'t', ['r', 'u', 'e'], rfl, rfl, by decide, fun _ => by decide⟩
  | number n =>
    obtain ⟨c, cs, hcons, hdigit⟩ := exists_decimal n
    refine ⟨c, cs, by rw [toList_number, hcons], isSpace_of_isDigit hdigit, ?_, fun _ => ?_⟩
    all_goals rintro rfl; cases hdigit
  | text s =>
    exact ⟨'"', _, by rw [compact, toList_quote], rfl, by decide, fun _ => by decide⟩
  | array items =>
    exact ⟨'[', _, by rw [compact, String.append_assoc, String.toList_append]; rfl, rfl,
      by decide, fun _ => by decide⟩
  | object members =>
    exact ⟨'\x7b', _, by rw [compact, String.append_assoc, String.toList_append]; rfl, rfl,
      by decide, fun _ => by decide⟩

/-! ### What may be missing -/

theorem decodes_none (read : Reader α) : Decodes (Reader.optional read) .null none := by
  intro rest _
  rw [compact, Reader.optional]
  exact bind_of_ok (peek_cons rfl _)

theorem Decodes.optional {read : Reader α} {v : Json} {a : α} (h : Decodes read v a)
    (hv : v ≠ .null) : Decodes (Reader.optional read) v (some a) := by
  intro rest hrest
  have hread := h rest hrest
  obtain ⟨c, cs, hcons, hspace, -, hnull⟩ := exists_compact v
  rw [hcons, List.cons_append] at hread ⊢
  rw [Reader.optional, bind_of_ok (peek_cons hspace _)]
  have hc : some c = some 'n' → False := fun h => hnull hv (Option.some.inj h)
  simp only
  exact map_of_ok hread

/-! ### Lists -/

theorem toList_compactItems_cons (v : Json) (vs : List Json) :
    (compactItems (v :: vs)).toList =
      v.compact.toList ++ vs.flatMap fun w => ',' :: w.compact.toList := by
  induction vs generalizing v with
  | nil => simp [compactItems]
  | cons w vs ih => simp [compactItems, ih]

theorem afterValue_items (f : α → Json) (as : List α) (rest : List Char) :
    AfterValue ((as.flatMap fun a => ',' :: (f a).compact.toList) ++ ']' :: rest) := by
  cases as with
  | nil => exact .bracket rest
  | cons a as => exact .comma _

/-- The end of a list is left to be taken. -/
theorem hasItem_end (first : Bool) (rest : List Char) :
    hasItem first (']' :: rest) = .ok (false, ']' :: rest) := by
  rw [hasItem]
  exact bind_of_ok (peek_cons rfl rest)

/-- The first item of a list is left to be read. -/
theorem hasItem_first (v : Json) (rest : List Char) :
    hasItem true (v.compact.toList ++ rest) = .ok (true, v.compact.toList ++ rest) := by
  obtain ⟨c, cs, hcons, hspace, hbracket, -⟩ := exists_compact v
  have hc : c = ']' → False := hbracket
  rw [hcons, List.cons_append, hasItem, bind_of_ok (peek_cons hspace _)]
  simp only [if_true]
  rfl

/-- The comma in front of another item is taken. -/
theorem hasItem_comma (v : Json) (rest : List Char) :
    hasItem false (',' :: (v.compact.toList ++ rest)) = .ok (true, v.compact.toList ++ rest) := by
  obtain ⟨c, cs, hcons, hspace, hbracket, -⟩ := exists_compact v
  have hc : c = ']' → False := hbracket
  rw [hcons, List.cons_append, hasItem, bind_of_ok (peek_cons rfl _)]
  refine (bind_of_ok (skip_cons _ _)).trans ?_
  rw [bind_of_ok (peek_cons hspace _)]
  simp only
  rfl

/-- One round of reading takes one item. -/
theorem items_item {read : Reader α} {v : Json} {a : α} {as : List α} {first : Bool} {n : Nat}
    {s rest rest' : List Char} (h : Decodes read v a) (hrest : AfterValue rest)
    (hnext : hasItem first s = .ok (true, v.compact.toList ++ rest))
    (hmore : items read n false rest = .ok (as, rest')) :
    items read (n + 1) first s = .ok (a :: as, rest') := by
  rw [items, bind_of_ok hnext]
  simp only [if_true]
  rw [bind_of_ok (h rest hrest)]
  exact bind_of_ok hmore

/-- The items behind the first one are taken together with the commas in front of them. -/
theorem items_behind {read : Reader α} {f : α → Json} {as : List α}
    (h : ∀ a ∈ as, Decodes read (f a) a) {n : Nat} (hn : as.length < n) (rest : List Char) :
    items read n false ((as.flatMap fun a => ',' :: (f a).compact.toList) ++ ']' :: rest) =
      .ok (as, ']' :: rest) := by
  induction as generalizing n with
  | nil =>
    obtain ⟨n, rfl⟩ := Nat.exists_eq_add_one.mpr hn
    rw [items]
    exact bind_of_ok (hasItem_end false rest)
  | cons a as ih =>
    obtain ⟨n, rfl⟩ := Nat.exists_eq_add_one.mpr (Nat.zero_lt_of_lt hn)
    obtain ⟨ha, has⟩ := List.forall_mem_cons.mp h
    rw [List.flatMap_cons, List.append_assoc, List.cons_append]
    exact items_item ha (afterValue_items f as rest) (hasItem_comma _ _)
      (ih has (Nat.lt_of_succ_lt_succ hn))

theorem items_compact {read : Reader α} {f : α → Json} {as : List α}
    (h : ∀ a ∈ as, Decodes read (f a) a) {n : Nat} (hn : as.length < n) (rest : List Char) :
    items read n true ((compactItems (as.map f)).toList ++ ']' :: rest) =
      .ok (as, ']' :: rest) := by
  obtain ⟨n, rfl⟩ := Nat.exists_eq_add_one.mpr (Nat.zero_lt_of_lt hn)
  cases as with
  | nil =>
    rw [items]
    exact bind_of_ok (hasItem_end true rest)
  | cons a as =>
    obtain ⟨ha, has⟩ := List.forall_mem_cons.mp h
    rw [List.map_cons, toList_compactItems_cons, List.append_assoc, List.flatMap_map]
    exact items_item ha (afterValue_items f as rest) (hasItem_first _ _)
      (items_behind has (Nat.lt_of_succ_lt_succ hn) rest)

theorem length_le_compactItems (vs : List Json) : vs.length ≤ (compactItems vs).toList.length := by
  cases vs with
  | nil => exact Nat.zero_le _
  | cons v vs =>
    obtain ⟨c, cs, hcons, -⟩ := exists_compact v
    have hle := length_le_flatMap (f := fun w : Json => ',' :: w.compact.toList)
      (fun _ => List.cons_ne_nil _ _) vs
    rw [toList_compactItems_cons, hcons, List.length_append, List.length_cons, List.length_cons]
    omega

/-- The items of a list are read one after the other. -/
theorem decodes_list {read : Reader α} {f : α → Json} {as : List α}
    (h : ∀ a ∈ as, Decodes read (f a) a) :
    Decodes (Reader.list read) (.array (as.map f)) as := by
  intro rest _
  have htext : (compact (.array (as.map f))).toList ++ rest =
      '[' :: ((compactItems (as.map f)).toList ++ ']' :: rest) := by
    simp [compact]
  have hitems := items_compact h
    (n := ((compactItems (as.map f)).toList ++ ']' :: rest).length + 1) (by
      have hle := length_le_compactItems (as.map f)
      rw [List.length_map] at hle
      rw [List.length_append]
      omega) rest
  have hend : endArray (']' :: rest) = .ok ((), rest) := by
    rw [endArray]
    exact bind_of_ok (peek_cons rfl rest)
  rw [htext, Reader.list, bind_of_ok (peek_cons rfl _)]
  refine (bind_of_ok (skip_cons _ _)).trans ?_
  rw [bind_of_ok (r := fun s => items read (s.length + 1) true s) hitems]
  exact bind_of_ok hend

end Scaffold.Json
