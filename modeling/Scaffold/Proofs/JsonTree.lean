import Scaffold.Proofs.JsonText

/-!
# JSON as it is written

One value can be written in many ways: with blanks between its parts, with characters escaped or
not, with numbers in several notations, with members in any order and any number of them under one
name. A tree holds all of these choices and nothing that is not JSON.

* `Tree`, `Tree.text`: values as they are written, and their texts.
* `Document`: a value with the blanks around it.
* `Tree.without`: what is left of a value without the members of some name.
-/

namespace Scaffold.Json

open Reader

/-! ### Blanks -/

/-- Blanks that may stand between parts. -/
abbrev Gap := {cs : List Char // ∀ c ∈ cs, isSpace c = true}

/-- No blanks. -/
def Gap.none : Gap := ⟨[], List.forall_mem_nil _⟩

namespace Reader

variable {α β : Type}

/-- Blanks in front of what it reads make no difference to the reader. -/
def PassesBlanks (read : Reader α) : Prop := ∀ (gap : Gap) s, read (gap.val ++ s) = read s

theorem peek_gap (gap : Gap) (s : List Char) : peek (gap.val ++ s) = peek s := by
  simp only [peek, List.dropWhile_append_of_pos gap.property]

theorem peek_gap_cons (gap : Gap) {c : Char} (hc : isSpace c = false) (s : List Char) :
    peek (gap.val ++ c :: s) = .ok (some c, c :: s) :=
  (peek_gap gap _).trans (peek_cons hc s)

theorem passesBlanks_peek (f : Option Char → Reader β) : PassesBlanks (peek >>= f) :=
  fun gap s => bind_of_eq (peek_gap gap s)

theorem PassesBlanks.bind {read : Reader α} (h : PassesBlanks read) (f : α → Reader β) :
    PassesBlanks (read >>= f) :=
  fun gap s => bind_of_eq (h gap s)

theorem passesBlanks_skipName : PassesBlanks skipName := passesBlanks_peek _

theorem passesBlanks_skipValueWith (inside : Nesting → Reader Unit) :
    PassesBlanks (skipValueWith inside) := passesBlanks_peek _

theorem colon_gap (gap : Gap) (s : List Char) : colon (gap.val ++ ':' :: s) = .ok ((), s) :=
  bind_of_ok (peek_gap_cons gap rfl s)

end Reader

/-! ### Texts in quotes -/

/-- A digit of a hexadecimal number, in either case. -/
abbrev HexDigit := {c : Char // (hexValue? c).isSome = true}

def HexDigit.value (d : HexDigit) : Nat := (hexValue? d.val).get d.property

theorem HexDigit.hexValue? (d : HexDigit) : hexValue? d.val = some d.value :=
  (Option.some_get d.property).symm

/-- A part of a text in quotes. -/
inductive Glyph where
  /-- A character that stands for itself. -/
  | plain (c : Char) (hquote : c ≠ '"') (hbackslash : c ≠ '\\') (hcontrol : ¬c.toNat < 0x20)
  /-- A letter behind a backslash that stands for a character. -/
  | short (letter c : Char) (h : simpleEscape? letter = some c)
  /-- A code unit by its number. -/
  | unit (a b c d : HexDigit)

/-- A part of a text as it is written. -/
def Glyph.text : Glyph → List Char
  | .plain c _ _ _ => [c]
  | .short letter _ _ => ['\\', letter]
  | .unit a b c d => ['\\', 'u', a.val, b.val, c.val, d.val]

theorem Glyph.text_ne_nil (g : Glyph) : g.text ≠ [] := by
  cases g <;> exact List.cons_ne_nil _ _

section

variable {gs : List Glyph} {rest : List Char}

theorem glyphs_plain {c : Char} {hquote : c ≠ '"'} {hbackslash : c ≠ '\\'}
    {hcontrol : ¬c.toNat < 0x20} :
    (Glyph.plain c hquote hbackslash hcontrol :: gs).flatMap Glyph.text ++ rest =
      c :: (gs.flatMap Glyph.text ++ rest) := rfl

theorem glyphs_short {letter c : Char} {h : simpleEscape? letter = some c} :
    (Glyph.short letter c h :: gs).flatMap Glyph.text ++ rest =
      '\\' :: letter :: (gs.flatMap Glyph.text ++ rest) := rfl

theorem glyphs_unit {a b c d : HexDigit} :
    (Glyph.unit a b c d :: gs).flatMap Glyph.text ++ rest =
      '\\' :: 'u' :: a.val :: b.val :: c.val :: d.val :: (gs.flatMap Glyph.text ++ rest) := rfl

end

/-- A text in quotes. -/
def quotation (gs : List Glyph) : List Char := '"' :: (gs.flatMap Glyph.text ++ ['"'])

theorem quotation_append (gs : List Glyph) (rest : List Char) :
    quotation gs ++ rest = '"' :: (gs.flatMap Glyph.text ++ '"' :: rest) := by
  simp [quotation]

/-- The code unit that four digits stand for. -/
def codeUnitOf (a b c d : HexDigit) : Nat :=
  ((a.value * 16 + b.value) * 16 + c.value) * 16 + d.value

/-- What the parts of a text spell. Surrogates spell something in pairs only. -/
def spelled : List Glyph → Option (List Char)
  | [] => some []
  | .plain c _ _ _ :: gs => (spelled gs).map (c :: ·)
  | .short _ c _ :: gs => (spelled gs).map (c :: ·)
  | .unit a b c d :: gs =>
    let high := codeUnitOf a b c d
    if 0xDC00 ≤ high ∧ high ≤ 0xDFFF then none
    else if high < 0xD800 ∨ 0xDBFF < high then (spelled gs).map (Char.ofNat high :: ·)
    else
      match gs with
      | .unit a b c d :: gs =>
        let low := codeUnitOf a b c d
        if low < 0xDC00 ∨ 0xDFFF < low then none
        else
          (spelled gs).map (Char.ofNat (0x10000 + (high - 0xD800) * 0x400 + (low - 0xDC00)) :: ·)
      | _ => none

/-- A code unit that is no surrogate spells a character by itself. -/
theorem spelled_unit {a b c d : HexDigit}
    (hlow : ¬(0xDC00 ≤ codeUnitOf a b c d ∧ codeUnitOf a b c d ≤ 0xDFFF))
    (hhigh : codeUnitOf a b c d < 0xD800 ∨ 0xDBFF < codeUnitOf a b c d) (gs : List Glyph) :
    spelled (.unit a b c d :: gs) = (spelled gs).map (Char.ofNat (codeUnitOf a b c d) :: ·) := by
  rw [spelled.eq_def]
  exact (if_neg hlow).trans (if_pos hhigh)

/-! ### Numbers -/

/-- Digits, at least one. -/
abbrev Digits := {ds : List Char // ds ≠ [] ∧ ∀ d ∈ ds, d.isDigit = true}

/-- An exponent with the letter in front of it. -/
structure Exponent where
  letter : Char
  sign : List Char
  size : Digits
  isLetter : letter = 'e' ∨ letter = 'E'
  isSign : sign = [] ∨ sign = ['+'] ∨ sign = ['-']

/-- An exponent as it is written. -/
def Exponent.text (e : Exponent) : List Char := e.letter :: (e.sign ++ e.size.val)

/-- A number. Only zero begins with a zero. -/
structure Numeral where
  isNegative : Bool := false
  whole : Digits
  fraction : Option Digits := none
  exponent : Option Exponent := none
  noLeadingZero : ∀ d ds, whole.val ≠ '0' :: d :: ds

namespace Numeral

/-- What stands behind the whole part of a number. -/
def tail (n : Numeral) : List Char :=
  n.fraction.elim [] ('.' :: ·.val) ++ n.exponent.elim [] Exponent.text

/-- A number as it is written. -/
def text (n : Numeral) : List Char :=
  (if n.isNegative then ['-'] else []) ++ (n.whole.val ++ n.tail)

theorem exists_whole (n : Numeral) : ∃ c cs, n.whole.val = c :: cs ∧ c.isDigit = true := by
  obtain ⟨hne, hdigits⟩ := n.whole.property
  obtain ⟨c, cs, hcons⟩ := List.exists_cons_of_ne_nil hne
  exact ⟨c, cs, hcons, hdigits c (hcons ▸ List.mem_cons_self)⟩

end Numeral

/-! ### Values -/

/-- What stands in front of an item or a member: a comma, unless it is the first one, and blanks
around it. -/
structure Seam where
  beforeComma : Gap := .none
  behindComma : Gap := .none

/-- What stands in front of the value of a member. -/
structure Label where
  seam : Seam := {}
  glyphs : List Glyph
  beforeColon : Gap := .none
  behindColon : Gap := .none

/-- A value as it is written. -/
inductive Tree where
  | null
  | bool (b : Bool)
  | number (n : Numeral)
  | string (glyphs : List Glyph)
  | array (items : List (Seam × Tree)) (closing : Gap)
  | object (members : List (Label × Tree)) (closing : Gap)

/-- What stands in front of an item or a member. -/
def Seam.text (first : Bool) (seam : Seam) : List Char :=
  if first then seam.behindComma.val else seam.beforeComma.val ++ ',' :: seam.behindComma.val

/-- The name of a member, if it is one. -/
def Label.name? (l : Label) : Option String := (spelled l.glyphs).map String.ofList

/-- The name of a member up to its value. -/
def Label.text (l : Label) : List Char :=
  quotation l.glyphs ++ (l.beforeColon.val ++ ':' :: l.behindColon.val)

/-- The texts of items or members, one after the other. -/
def joined : Bool → List (Seam × List Char) → List Char
  | _, [] => []
  | first, (seam, entry) :: entries => seam.text first ++ (entry ++ joined false entries)

/-- Every part has characters of its own. -/
theorem length_le_joined {entries : List (Seam × List Char)} (h : ∀ e ∈ entries, e.2 ≠ [])
    (first : Bool) : entries.length ≤ (joined first entries).length := by
  induction entries generalizing first with
  | nil => exact Nat.zero_le _
  | cons entry entries ih =>
    obtain ⟨hpart, hparts⟩ := List.forall_mem_cons.mp h
    have hmore := ih hparts false
    have hlength : 0 < entry.2.length := List.length_pos_iff.mpr hpart
    rw [joined, List.length_append, List.length_append, List.length_cons]
    omega

namespace Tree

mutual

/-- A value as it is written. -/
def text : Tree → List Char
  | .null => "null".toList
  | .bool true => "true".toList
  | .bool false => "false".toList
  | .number n => n.text
  | .string gs => quotation gs
  | .array items closing => '[' :: (joined true (itemTexts items) ++ (closing.val ++ [']']))
  | .object members closing =>
    '\x7b' :: (joined true (memberTexts members) ++ (closing.val ++ ['\x7d']))

/-- The texts of items. -/
def itemTexts : List (Seam × Tree) → List (Seam × List Char)
  | [] => []
  | (seam, t) :: items => (seam, t.text) :: itemTexts items

/-- The texts of members. -/
def memberTexts : List (Label × Tree) → List (Seam × List Char)
  | [] => []
  | (l, t) :: members => (l.seam, l.text ++ t.text) :: memberTexts members

end

theorem itemTexts_eq (items : List (Seam × Tree)) :
    itemTexts items = items.map fun item => (item.1, item.2.text) := by
  induction items with
  | nil => rfl
  | cons item items ih => rw [itemTexts, ih, List.map_cons]

theorem memberTexts_eq (members : List (Label × Tree)) :
    memberTexts members = members.map fun m => (m.1.seam, m.1.text ++ m.2.text) := by
  induction members with
  | nil => rfl
  | cons m members ih => rw [memberTexts, ih, List.map_cons]

mutual

/-- What is left of a value without blanks and without the members of a name, however deep inside
they are. -/
def without (name : String) : Tree → Tree
  | .null => .null
  | .bool b => .bool b
  | .number n => .number n
  | .string gs => .string gs
  | .array items _ => .array (itemsWithout name items) .none
  | .object members _ => .object (membersWithout name members) .none

/-- What is left of items. -/
def itemsWithout (name : String) : List (Seam × Tree) → List (Seam × Tree)
  | [] => []
  | (_, t) :: items => ({}, t.without name) :: itemsWithout name items

/-- What is left of members. -/
def membersWithout (name : String) : List (Label × Tree) → List (Label × Tree)
  | [] => []
  | (l, t) :: members =>
    if l.name? = some name then membersWithout name members
    else (⟨{}, l.glyphs, .none, .none⟩, t.without name) :: membersWithout name members

end

/-- What holds of all values: it holds of values with parts if it holds of the parts. -/
theorem induction {motive : Tree → Prop} (null : motive .null) (bool : ∀ b, motive (.bool b))
    (number : ∀ n, motive (.number n)) (string : ∀ gs, motive (.string gs))
    (array : ∀ items closing, (∀ item ∈ items, motive item.2) → motive (.array items closing))
    (object : ∀ members closing, (∀ member ∈ members, motive member.2) →
      motive (.object members closing)) : ∀ t, motive t
  | .null => null
  | .bool b => bool b
  | .number n => number n
  | .string gs => string gs
  | .array items closing => array items closing fun item hitem =>
    have hpart : sizeOf item.2 < sizeOf (Tree.array items closing) := by
      have := List.sizeOf_lt_of_mem hitem
      cases item
      simp only [Prod.mk.sizeOf_spec, Tree.array.sizeOf_spec] at this ⊢
      omega
    induction null bool number string array object item.2
  | .object members closing => object members closing fun member hmember =>
    have hpart : sizeOf member.2 < sizeOf (Tree.object members closing) := by
      have := List.sizeOf_lt_of_mem hmember
      cases member
      simp only [Prod.mk.sizeOf_spec, Tree.object.sizeOf_spec] at this ⊢
      omega
    induction null bool number string array object member.2
termination_by t => sizeOf t
decreasing_by all_goals exact hpart

/-- A value begins with a character that tells texts, arrays and objects from everything else. -/
theorem exists_front (t : Tree) :
    ∃ c cs, t.text = c :: cs ∧ isSpace c = false ∧ c ≠ ']' ∧
      (c = '"' → ∃ gs, t = .string gs) ∧ (c = '[' → ∃ items closing, t = .array items closing) ∧
      (c = '\x7b' → ∃ members closing, t = .object members closing) := by
  have hkind {c d : Char} (h : c ≠ d) {p : Prop} : c = d → p := fun hc => absurd hc h
  have hother {c : Char} (h : c ≠ '"' ∧ c ≠ '[' ∧ c ≠ '\x7b') {p q r : Prop} :
      (c = '"' → p) ∧ (c = '[' → q) ∧ (c = '\x7b' → r) := ⟨hkind h.1, hkind h.2.1, hkind h.2.2⟩
  cases t with
  | null => exact ⟨'n', _, rfl, rfl, by decide, hother (by decide)⟩
  | bool b =>
    cases b
    · exact ⟨'f', _, rfl, rfl, by decide, hother (by decide)⟩
    · exact ⟨'t', _, rfl, rfl, by decide, hother (by decide)⟩
  | number n =>
    obtain ⟨c, cs, hcons, hdigit⟩ := n.exists_whole
    have hne {d : Char} (hd : d.isDigit = false) : c ≠ d := by
      rintro rfl
      rw [hd] at hdigit
      cases hdigit
    rw [text, Numeral.text, hcons]
    cases n.isNegative
    · exact ⟨c, _, rfl, isSpace_of_isDigit hdigit, hne rfl, hother ⟨hne rfl, hne rfl, hne rfl⟩⟩
    · exact ⟨'-', _, rfl, rfl, by decide, hother (by decide)⟩
  | string gs =>
    exact ⟨'"', _, rfl, rfl, by decide, fun _ => ⟨gs, rfl⟩, hkind (by decide), hkind (by decide)⟩
  | array items closing =>
    exact ⟨'[', _, rfl, rfl, by decide, hkind (by decide), fun _ => ⟨items, closing, rfl⟩,
      hkind (by decide)⟩
  | object members closing =>
    exact ⟨'\x7b', _, rfl, rfl, by decide, hkind (by decide), hkind (by decide),
      fun _ => ⟨members, closing, rfl⟩⟩

theorem text_ne_nil (t : Tree) : t.text ≠ [] := by
  obtain ⟨c, cs, hcons, -⟩ := t.exists_front
  rw [hcons]
  exact List.cons_ne_nil c cs

theorem length_le_itemTexts (items : List (Seam × Tree)) (first : Bool) :
    items.length ≤ (joined first (itemTexts items)).length := by
  rw [itemTexts_eq]
  refine Nat.le_trans (Nat.le_of_eq (List.length_map _).symm) (length_le_joined ?_ first)
  intro e he
  obtain ⟨item, -, rfl⟩ := List.mem_map.mp he
  exact item.2.text_ne_nil

theorem length_le_memberTexts (members : List (Label × Tree)) (first : Bool) :
    members.length ≤ (joined first (memberTexts members)).length := by
  rw [memberTexts_eq]
  refine Nat.le_trans (Nat.le_of_eq (List.length_map _).symm) (length_le_joined ?_ first)
  intro e he
  obtain ⟨m, -, rfl⟩ := List.mem_map.mp he
  exact List.append_ne_nil_of_right_ne_nil _ m.2.text_ne_nil

/-- The text that a value is. -/
def string? : Tree → Option String
  | .string gs => (spelled gs).map String.ofList
  | _ => none

/-- The list that a value is, if every item is something. -/
def list? {α : Type} (item? : Tree → Option α) : Tree → Option (List α)
  | .array items _ => items.mapM fun item => item? item.2
  | _ => none

end Tree

/-- A value with the blanks around it. -/
structure Document where
  before : Gap := .none
  value : Tree
  behind : Gap := .none

/-- A whole JSON text. -/
def Document.text (d : Document) : String :=
  String.ofList (d.before.val ++ (d.value.text ++ d.behind.val))

end Scaffold.Json
