import Scaffold.Proofs.Meanings

/-!
# What values mean as records

A record is put together from the members of an object, one after the other and whatever else the
object holds, or from the items of an array. What it becomes depends on nothing but what its fields
make of these values.

* `takeMember`, `fillFields`, `Tree.record?`: what members and items make of a record.
* `settles_record`: records are read like that, however their text is written.
* `run_text`: what becomes of a whole JSON text.
-/

namespace Scaffold.Json

variable {α ρ : Type} {fields : List (Reader.Field ρ)}

namespace Reader

/-! ### What members and items make of a record -/

/-- What a member makes of a record of which some fields have been read: a field reads its member
unless it has been read before, and a member that is no field leaves the record as it is. -/
def takeMember (fields : List (Field ρ)) (r : ρ) (m : Label × Tree) : Option ρ :=
  m.1.name?.bind fun name =>
    match fields.find? (·.name == name) with
    | some field => if field.isSet r then none else meaning (field.read r) m.2
    | none => some r

/-- What items make of a record: one for each field, in their order. -/
def fillFields : List (Field ρ) → List (Seam × Tree) → ρ → Option ρ
  | [], [], r => some r
  | field :: fields, item :: items, r =>
    (meaning (field.read r) item.2).bind (fillFields fields items)
  | _, _, _ => none

end Reader

/-- The record that a value is. -/
def Tree.record? (fields : List (Reader.Field ρ)) (empty : ρ)
    (complete : ρ → Option α) : Tree → Option α
  | .object members _ => (members.foldlM (Reader.takeMember fields) empty).bind complete
  | .array items _ => (Reader.fillFields fields items empty).bind complete
  | _ => none

namespace Reader

/-! ### Reading members -/

/-- Blanks in front of the end of an object are passed over. -/
theorem hasMember_closing (first : Bool) (closing : Gap) (rest : List Char) :
    hasMember first (closing.val ++ '\x7d' :: rest) = .ok (false, '\x7d' :: rest) := by
  rw [hasMember]
  exact bind_of_ok (peek_gap_cons closing rfl rest)

/-- What stands in front of a member is taken. -/
theorem hasMember_seam (first : Bool) (seam : Seam) (gs : List Glyph) (s : List Char) :
    hasMember first (seam.text first ++ (quotation gs ++ s)) = .ok (true, quotation gs ++ s) := by
  rw [quotation_append, hasMember, Seam.text]
  cases first with
  | true =>
    rw [if_pos rfl, bind_of_ok (peek_gap_cons seam.behindComma rfl _)]
    rfl
  | false =>
    rw [if_neg Bool.false_ne_true, List.append_assoc, List.cons_append,
      bind_of_ok (peek_gap_cons seam.beforeComma rfl _)]
    refine (bind_of_ok (skip_cons _ _)).trans ?_
    exact bind_of_ok (peek_gap_cons seam.behindComma rfl _)

/-- One round of reading takes one member. -/
theorem outcome_members_member (h : ∀ field ∈ fields, ∀ r, Settles (field.read r)) (first : Bool)
    (l : Label) (t : Tree) (r : ρ) (n : Nat) {rest : List Char} (hrest : AfterValue rest) :
    outcome (members fields (n + 1) first r)
        (l.seam.text first ++ ((l.text ++ t.text) ++ rest)) =
      (takeMember fields r (l, t)).bind fun r' => outcome (members fields n false r') rest := by
  have htext : (l.text ++ t.text) ++ rest = quotation l.glyphs ++
      (l.beforeColon.val ++ ':' :: (l.behindColon.val ++ (t.text ++ rest))) := by
    simp only [Label.text, List.append_assoc, List.cons_append]
  have hname := outcome_text_quotation l.glyphs
    (l.beforeColon.val ++ ':' :: (l.behindColon.val ++ (t.text ++ rest)))
  have hcolon := colon_gap l.beforeColon (l.behindColon.val ++ (t.text ++ rest))
  rw [htext, members, outcome_bind_of_ok (hasMember_seam first l.seam l.glyphs _)]
  simp only [if_true]
  rw [outcome_bind, hname, takeMember, Label.name?]
  cases (spelled l.glyphs).map String.ofList with
  | none => rfl
  | some name =>
    simp only [Option.map_some, Option.bind_some]
    cases hfield : fields.find? (·.name == name) with
    | none =>
      simp only
      rw [outcome_bind_of_ok hcolon, outcome_bind_of_ok (skipValue_text l.behindColon t hrest)]
      rfl
    | some field =>
      simp only
      cases field.isSet r with
      | true => rfl
      | false =>
        have hsettles := h field (List.mem_of_find?_eq_some hfield) r
        refine (outcome_bind_of_ok hcolon _).trans ?_
        rw [outcome_bind, hsettles.outcome_gap l.behindColon t hrest]
        cases meaning (field.read r) t <;> rfl

/-- The members of an object are read one after the other. -/
theorem outcome_members (h : ∀ field ∈ fields, ∀ r, Settles (field.read r)) (closing : Gap)
    (rest : List Char) (ms : List (Label × Tree)) (first : Bool) (r : ρ) {n : Nat}
    (hn : ms.length < n) :
    outcome (members fields n first r)
        (joined first (Tree.memberTexts ms) ++ (closing.val ++ '\x7d' :: rest)) =
      (ms.foldlM (takeMember fields) r).map (·, '\x7d' :: rest) := by
  induction ms generalizing first r n with
  | nil =>
    obtain ⟨n, rfl⟩ := Nat.exists_eq_add_one.mpr hn
    rw [members]
    exact outcome_bind_of_ok (hasMember_closing first closing rest) _
  | cons m ms ih =>
    obtain ⟨l, t⟩ := m
    obtain ⟨n, rfl⟩ := Nat.exists_eq_add_one.mpr (Nat.zero_lt_of_lt hn)
    have hend : AfterValue (closing.val ++ '\x7d' :: rest) := afterValue_closing closing .object rest
    rw [Tree.memberTexts, joined, List.append_assoc, List.append_assoc,
      outcome_members_member h first l t r n (afterValue_joined _ hend), List.foldlM_cons]
    cases takeMember fields r (l, t) with
    | none => rfl
    | some r' => exact ih false r' (Nat.lt_of_succ_lt_succ hn)

/-! ### Reading items -/

/-- Where another item follows, an array does not end. -/
theorem outcome_endArray_of_item (first : Bool) (seam : Seam) (t : Tree) (s : List Char) :
    outcome endArray (seam.text first ++ (t.text ++ s)) = none := by
  rw [endArray, Seam.text]
  cases first with
  | true =>
    obtain ⟨c, cs, hcons, hspace, hc, -⟩ := t.exists_front
    have hbracket : c = ']' → False := hc
    rw [if_pos rfl, hcons, List.cons_append,
      outcome_bind_of_ok (peek_gap_cons seam.behindComma hspace _)]
    simp only
    rfl
  | false =>
    rw [if_neg Bool.false_ne_true, List.append_assoc, List.cons_append,
      outcome_bind_of_ok (peek_gap_cons seam.beforeComma rfl _)]
    rfl

/-- Reads the fields of a record from an array, and the bracket at its end. -/
def arrayRecord (fields : List (Field ρ)) (complete : ρ → Option α) (first : Bool) (r : ρ) :
    Reader α := do
  let r ← positional fields first r
  match complete r with
  | some a => do endArray; return a
  | none => throw .mismatched

/-- The fields of a record are read from an array one after the other. -/
theorem outcome_arrayRecord (h : ∀ field ∈ fields, ∀ r, Settles (field.read r))
    (complete : ρ → Option α) (closing : Gap) (rest : List Char) (items : List (Seam × Tree))
    (first : Bool) (r : ρ) :
    outcome (arrayRecord fields complete first r)
        (joined first (Tree.itemTexts items) ++ (closing.val ++ ']' :: rest)) =
      ((fillFields fields items r).bind complete).map (·, rest) := by
  induction fields generalizing items first r with
  | nil =>
    rw [arrayRecord, positional, pure_bind]
    cases items with
    | nil =>
      rw [fillFields, Option.bind_some]
      cases complete r with
      | none => rfl
      | some a => exact outcome_bind_of_ok (endArray_closing closing rest) _
    | cons item items =>
      obtain ⟨seam, t⟩ := item
      rw [Tree.itemTexts, joined, List.append_assoc, List.append_assoc]
      cases complete r with
      | none => rfl
      | some a => exact outcome_bind_of_none (outcome_endArray_of_item first seam t _) _
  | cons field fields ih =>
    obtain ⟨hfield, hfields⟩ := List.forall_mem_cons.mp h
    rw [arrayRecord, positional]
    cases items with
    | nil =>
      rw [bind_assoc]
      exact outcome_bind_of_ok (hasItem_closing first closing rest) _
    | cons item items =>
      obtain ⟨seam, t⟩ := item
      obtain ⟨c, cs, hcons, hspace, hbracket, -⟩ := t.exists_front
      have hend : AfterValue (closing.val ++ ']' :: rest) := afterValue_closing closing .array rest
      have hread := (hfield r).means t _ (afterValue_joined (Tree.itemTexts items) hend)
      rw [Tree.itemTexts, joined, List.append_assoc, List.append_assoc]
      rw [hcons, List.cons_append] at hread ⊢
      rw [bind_assoc, outcome_bind_of_ok (hasItem_seam first seam hspace hbracket _)]
      simp only [if_true]
      rw [bind_assoc, outcome_bind, hread, fillFields]
      cases meaning (field.read r) t with
      | none => rfl
      | some r' => exact ih hfields items false r'

/-! ### Records -/

theorem passesBlanks_record (empty : ρ) (complete : ρ → Option α) :
    PassesBlanks (record fields empty complete) := passesBlanks_peek _

/-- A value that is neither an object nor an array is not read as a record. -/
theorem outcome_record_of_ne (empty : ρ) (complete : ρ → Option α) {c : Char}
    (hspace : isSpace c = false) (hc : c ≠ '[') (hc' : c ≠ '\x7b') (s : List Char) :
    outcome (record fields empty complete) (c :: s) = none := by
  have hbracket : c = '[' → False := hc
  have hbrace : c = '\x7b' → False := hc'
  rw [record, outcome_bind_of_ok (peek_cons hspace s)]
  simp only
  exact outcome_mismatch _

theorem means_record (h : ∀ field ∈ fields, ∀ r, Settles (field.read r)) (empty : ρ)
    (complete : ρ → Option α) (t : Tree) :
    Means (record fields empty complete) t (t.record? fields empty complete) := by
  intro rest _
  obtain ⟨c, cs, hcons, hspace, -, -, harray, hobject⟩ := t.exists_front
  by_cases hc : c = '['
  · obtain ⟨items, closing, rfl⟩ := harray hc
    rw [Tree.text, List.cons_append, List.append_assoc, List.append_assoc, record,
      outcome_bind_of_ok (peek_cons rfl _)]
    refine (outcome_bind_of_ok (skip_cons _ _) _).trans ?_
    exact outcome_arrayRecord h complete closing rest items true empty
  by_cases hc' : c = '\x7b'
  · obtain ⟨ms, closing, rfl⟩ := hobject hc'
    have hmembers := outcome_members h closing rest ms true empty (n := (joined true
      (Tree.memberTexts ms) ++ (closing.val ++ '\x7d' :: rest)).length + 1) (by
        have hle := Tree.length_le_memberTexts ms true
        rw [List.length_append]
        omega)
    rw [Tree.text, List.cons_append, List.append_assoc, List.append_assoc, record,
      outcome_bind_of_ok (peek_cons rfl _)]
    refine (outcome_bind_of_ok (skip_cons _ _) _).trans ?_
    rw [outcome_bind (fun s => members fields (s.length + 1) true empty s)]
    refine (congrArg (Option.bind · _) hmembers).trans ?_
    rw [Tree.record?]
    cases ms.foldlM (takeMember fields) empty with
    | none => rfl
    | some r =>
      simp only [Option.map_some, Option.bind_some]
      cases complete r <;> rfl
  · rw [hcons, List.cons_append, outcome_record_of_ne empty complete hspace hc hc']
    cases t with
    | array items closing => exact absurd (List.cons.inj hcons).1.symm hc
    | object members closing => exact absurd (List.cons.inj hcons).1.symm hc'
    | _ => rfl

theorem settles_record (h : ∀ field ∈ fields, ∀ r, Settles (field.read r)) (empty : ρ)
    (complete : ρ → Option α) : Settles (record fields empty complete) :=
  .of_means (passesBlanks_record empty complete) (means_record h empty complete)

/-! ### Whole texts -/

/-- A whole JSON text is read as the value that it is about. -/
theorem run_text {read : Reader α} (h : Settles read) (d : Document) :
    (read.run d.text).toOption = meaning read d.value := by
  have hend : AfterValue d.behind.val := by
    have hblanks := AfterValue.blanks d.behind.property .nil
    rwa [List.append_nil] at hblanks
  have hblanks : d.behind.val.dropWhile isSpace = [] :=
    List.dropWhile_eq_nil_iff.mpr d.behind.property
  have hread := h.outcome_gap d.before d.value hend
  rw [outcome] at hread
  rw [run, Document.text, String.toList_ofList]
  cases hok : read (d.before.val ++ (d.value.text ++ d.behind.val)) with
  | error e =>
    rw [hok] at hread
    exact (Option.map_eq_none_iff.mp hread.symm).symm
  | ok p =>
    rw [hok] at hread
    obtain ⟨a, hmeaning, rfl⟩ := Option.map_eq_some_iff.mp hread.symm
    rw [hmeaning]
    simp only [bind, Except.bind, hblanks]
    rfl

end Scaffold.Json.Reader
