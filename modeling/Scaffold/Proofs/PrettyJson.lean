import Scaffold.Proofs.RecordMeanings

/-!
# Values over several lines

A value over several lines is written like any other, with line breaks and indentations as the
blanks between its parts. It is read back by readers of any shape as what it is.

* `Json.laidOut`, `Json.text_laidOut`: a value over several lines as it is written.
* `meaning_text_laidOut`, `meaning_list_laidOut`: what is read of texts and lists in it.
-/

namespace Scaffold.Json

open Reader

/-! ### Texts in quotes -/

/-- A character as it stands in quotes. -/
def Glyph.of (c : Char) : Glyph :=
  if hquote : c = '"' then .short '"' '"' rfl
  else if hbackslash : c = '\\' then .short '\\' '\\' rfl
  else if c = '\x08' then .short 'b' '\x08' rfl
  else if c = '\x0c' then .short 'f' '\x0c' rfl
  else if c = '\n' then .short 'n' '\n' rfl
  else if c = '\r' then .short 'r' '\r' rfl
  else if c = '\t' then .short 't' '\t' rfl
  else if hcontrol : c.toNat < 0x20 then
    .unit ⟨'0', rfl⟩ ⟨'0', rfl⟩
      ⟨hexDigit (c.toNat / 16), by rw [hexValue?_hexDigit (by omega)]; rfl⟩
      ⟨hexDigit (c.toNat % 16), by rw [hexValue?_hexDigit (by omega)]; rfl⟩
  else .plain c hquote hbackslash hcontrol

/-- A character stands in quotes as it is escaped. -/
theorem Glyph.text_of (c : Char) : (Glyph.of c).text = escape c := by
  unfold escape
  split
  case h_8 hquote hbackslash hback hfeed hline hreturn htab =>
    rw [Glyph.of, dif_neg hquote, dif_neg hbackslash, if_neg hback, if_neg hfeed, if_neg hline,
      if_neg hreturn, if_neg htab]
    split <;> rfl
  all_goals rfl

theorem value_hexDigit {n : Nat} (hn : n < 16) (h : (hexValue? (hexDigit n)).isSome = true) :
    HexDigit.value ⟨hexDigit n, h⟩ = n := by
  simp only [HexDigit.value, hexValue?_hexDigit hn, Option.get_some]

/-- Whatever way a character stands in quotes, it spells itself. -/
theorem spelled_cons_of (c : Char) (gs : List Glyph) :
    spelled (Glyph.of c :: gs) = (spelled gs).map (c :: ·) := by
  rw [Glyph.of]
  split_ifs with hquote hbackslash hback hfeed hline hreturn htab hcontrol
  · subst hquote
    rfl
  · subst hbackslash
    rfl
  · subst hback
    rfl
  · subst hfeed
    rfl
  · subst hline
    rfl
  · subst hreturn
    rfl
  · subst htab
    rfl
  · have hzero : HexDigit.value ⟨'0', rfl⟩ = 0 := rfl
    have hunit : codeUnitOf ⟨'0', rfl⟩ ⟨'0', rfl⟩
        ⟨hexDigit (c.toNat / 16), by rw [hexValue?_hexDigit (by omega)]; rfl⟩
        ⟨hexDigit (c.toNat % 16), by rw [hexValue?_hexDigit (by omega)]; rfl⟩ = c.toNat := by
      rw [codeUnitOf, hzero, value_hexDigit (by omega), value_hexDigit (by omega)]
      omega
    rw [spelled_unit (by rw [hunit]; omega) (by rw [hunit]; omega), hunit, Char.ofNat_toNat]
  · rw [spelled]

/-- A text as it stands in quotes. -/
def glyphs (s : String) : List Glyph := s.toList.map Glyph.of

theorem quotation_glyphs (s : String) : quotation (glyphs s) = (quote s).toList := by
  rw [toList_quote, quotation, glyphs, List.flatMap_map]
  simp only [Glyph.text_of]

/-- A text in quotes spells what it is. -/
theorem spelled_glyphs (s : String) : spelled (glyphs s) = some s.toList := by
  rw [glyphs]
  induction s.toList with
  | nil => rfl
  | cons c cs ih => rw [List.map_cons, spelled_cons_of, ih, Option.map_some]

/-! ### Numbers -/

/-- A count as a number. -/
def Numeral.of (n : Nat) : Numeral where
  whole := ⟨decimal n, decimal_ne_nil n, fun _ => isDigit_of_mem_decimal⟩
  noLeadingZero := by
    intro d ds hzero
    cases Nat.eq_zero_or_pos n with
    | inl hn => subst hn; cases hzero
    | inr hn =>
      refine head?_decimal hn ?_
      dsimp only at hzero
      rw [hzero]
      rfl

theorem Numeral.text_of (n : Nat) : (Numeral.of n).text = decimal n := by
  simp [Numeral.text, Numeral.tail, Numeral.of]

/-! ### Values -/

/-- A line break followed by the indentation of a level, as blanks. -/
def indentation (level : Nat) : Gap where
  val := (lineBreak level).toList
  property := by
    intro c hc
    have hsplit : c ∈ '\n' :: List.replicate (2 * level) ' ' := by
      simpa [lineBreak] using hc
    rcases List.mem_cons.mp hsplit with rfl | hspace
    · rfl
    · rw [List.eq_of_mem_replicate hspace]
      rfl

mutual

/-- A value over several lines as it is written. -/
def laidOut (level : Nat) : Json → Tree
  | .null => .null
  | .bool b => .bool b
  | .number n => .number (.of n)
  | .text s => .string (glyphs s)
  | .array [] => .array [] .none
  | .array (v :: vs) => .array (laidOutItems (level + 1) (v :: vs)) (indentation level)
  | .object [] => .object [] .none
  | .object (m :: ms) => .object (laidOutMembers (level + 1) (m :: ms)) (indentation level)

/-- Items on lines of their own. -/
def laidOutItems (level : Nat) : List Json → List (Seam × Tree)
  | [] => []
  | v :: vs => (⟨.none, indentation level⟩, v.laidOut level) :: laidOutItems level vs

/-- Members on lines of their own. -/
def laidOutMembers (level : Nat) : List (String × Json) → List (Label × Tree)
  | [] => []
  | (k, v) :: ms =>
    (⟨⟨.none, indentation level⟩, glyphs k, .none, ⟨[' '], List.forall_mem_singleton.mpr rfl⟩⟩, v.laidOut level) ::
      laidOutMembers level ms

end

/-- What stands in front of a line. -/
theorem text_seam (level : Nat) (first : Bool) :
    Seam.text first ⟨.none, indentation level⟩ =
      (if first then [] else [',']) ++ (lineBreak level).toList := by
  cases first <;> rfl

mutual

theorem text_laidOut (level : Nat) : (v : Json) → (v.laidOut level).text = (v.prettyAt level).toList
  | .null => rfl
  | .bool true => rfl
  | .bool false => rfl
  | .number n => by
    rw [laidOut, Tree.text, Numeral.text_of, ← toList_number]
    rfl
  | .text s => by rw [laidOut, Tree.text, quotation_glyphs, prettyAt]
  | .array [] => by
    rw [laidOut, prettyAt]
    rfl
  | .array (v :: vs) => by
    rw [laidOut, Tree.text, joined_laidOutItems (level + 1) true (v :: vs) (List.cons_ne_nil v vs)]
    simp [prettyAt, indentation]
  | .object [] => by
    rw [laidOut, prettyAt]
    rfl
  | .object (m :: ms) => by
    rw [laidOut, Tree.text,
      joined_laidOutMembers (level + 1) true (m :: ms) (List.cons_ne_nil m ms)]
    simp [prettyAt, indentation]

theorem joined_laidOutItems (level : Nat) (first : Bool) : (vs : List Json) → vs ≠ [] →
    joined first (Tree.itemTexts (laidOutItems level vs)) =
      (if first then [] else [',']) ++ ((lineBreak level).toList ++ (prettyItems level vs).toList)
  | [], h => absurd rfl h
  | [v], _ => by
    rw [laidOutItems, Tree.itemTexts, joined, text_seam, text_laidOut level v]
    simp [laidOutItems, Tree.itemTexts, joined, prettyItems]
  | v :: w :: vs, _ => by
    rw [laidOutItems, Tree.itemTexts, joined, text_seam, text_laidOut level v,
      joined_laidOutItems level false (w :: vs) (List.cons_ne_nil w vs)]
    simp [prettyItems]

theorem joined_laidOutMembers (level : Nat) (first : Bool) : (ms : List (String × Json)) →
    ms ≠ [] → joined first (Tree.memberTexts (laidOutMembers level ms)) =
      (if first then [] else [',']) ++ ((lineBreak level).toList ++ (prettyMembers level ms).toList)
  | [], h => absurd rfl h
  | [(k, v)], _ => by
    rw [laidOutMembers, Tree.memberTexts, joined, text_seam, text_laidOut level v]
    simp [laidOutMembers, Tree.memberTexts, joined, prettyMembers, Label.text, quotation_glyphs,
      Gap.none]
  | (k, v) :: m :: ms, _ => by
    rw [laidOutMembers, Tree.memberTexts, joined, text_seam, text_laidOut level v,
      joined_laidOutMembers level false (m :: ms) (List.cons_ne_nil m ms)]
    simp [prettyMembers, Label.text, quotation_glyphs, Gap.none]

end

/-! ### What readers make of them -/

variable {α ρ : Type}

theorem meaning_text_laidOut (level : Nat) (s : String) :
    meaning Reader.text (laidOut level (.text s)) = some s := by
  rw [(means_text _).meaning_eq, laidOut, Tree.string?, spelled_glyphs, Option.map_some,
    String.ofList_toList]

theorem laidOutItems_map (level : Nat) (f : α → Json) (as : List α) :
    laidOutItems level (as.map f) =
      as.map fun a => (⟨.none, indentation level⟩, (f a).laidOut level) := by
  induction as with
  | nil => rfl
  | cons a as ih => rw [List.map_cons, laidOutItems, ih, List.map_cons]

theorem list?_laidOut (level : Nat) (vs : List Json) (item? : Tree → Option α) :
    (laidOut level (.array vs)).list? item? =
      (laidOutItems (level + 1) vs).mapM fun item => item? item.2 := by
  cases vs <;> rfl

/-- A list is read back if its items are. -/
theorem meaning_list_laidOut {read : Reader α} (hread : Settles read) {f : α → Json}
    (h : ∀ level a, meaning read ((f a).laidOut level) = some a) (level : Nat) (as : List α) :
    meaning (Reader.list read) (laidOut level (.array (as.map f))) = some as := by
  rw [(means_list hread _).meaning_eq, list?_laidOut, laidOutItems_map, List.mapM_map]
  induction as with
  | nil => rfl
  | cons a as ih =>
    rw [List.mapM_cons, ih]
    simp only [Function.comp_apply, h (level + 1) a]
    rfl

section

variable {fields : List (Reader.Field ρ)} {r r' : ρ} {l : Label} {name : String} {t : Tree}

/-- A field that has not been read before reads its member. -/
theorem takeMember_of_field {field : Reader.Field ρ} (hl : l.glyphs = glyphs name)
    (hfield : fields.find? (·.name == name) = some field) (hset : field.isSet r = false)
    (ht : meaning (field.read r) t = some r') : takeMember fields r (l, t) = some r' := by
  rw [takeMember, Label.name?, hl, spelled_glyphs, Option.map_some, String.ofList_toList,
    Option.bind_some, hfield]
  simp only [hset, ht]
  rfl

theorem takeMember_of_no_field (hl : l.glyphs = glyphs name)
    (hfield : fields.find? (·.name == name) = none) : takeMember fields r (l, t) = some r := by
  rw [takeMember, Label.name?, hl, spelled_glyphs, Option.map_some, String.ofList_toList,
    Option.bind_some, hfield]

/-- Members make up a record one after the other. -/
theorem foldlM_takeMember_cons {ms : List (Label × Tree)}
    (h : takeMember fields r (l, t) = some r') :
    ((l, t) :: ms).foldlM (takeMember fields) r = ms.foldlM (takeMember fields) r' := by
  rw [List.foldlM_cons, h]
  rfl

end

end Scaffold.Json
