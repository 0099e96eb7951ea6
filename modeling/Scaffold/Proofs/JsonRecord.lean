import Scaffold.Proofs.JsonText

/-!
# Records and alternatives read back from their texts

A record is put together from the members of an object one after the other: a member that names a
field is read by that field, any other one is skipped. One of several alternatives is told by its
name.

* `Assembles`: how the members of an object make up a record, whatever their order.
* `decodes_record`: a record is what its members make up.
* `decodes_choice`, `decodes_bare`: alternatives with and without something behind their name.
-/

namespace Scaffold.Json

open Reader

variable {α ρ : Type} {fields : List (Reader.Field ρ)}

/-! ### What members make up -/

/-- What a member does to a record of which some fields have been read. -/
inductive TakesMember (fields : List (Reader.Field ρ)) : ρ → String × Json → ρ → Prop
  /-- A field reads its member unless it has been read before. -/
  | known {name : String} {v : Json} {field : Reader.Field ρ} {r r' : ρ}
      (hfield : fields.find? (·.name == name) = some field) (hset : field.isSet r = false)
      (hv : Decodes (field.read r) v r') : TakesMember fields r (name, v) r'
  /-- A member that is no field is skipped. -/
  | unknown {name : String} {v : Json} {r : ρ}
      (hfield : fields.find? (·.name == name) = none) (hv : Decodes skipValue v ()) :
      TakesMember fields r (name, v) r

/-- What some members, one after the other, make of a record. -/
inductive Assembles (fields : List (Reader.Field ρ)) : ρ → List (String × Json) → ρ → Prop
  | done (r : ρ) : Assembles fields r [] r
  | member {m : String × Json} {ms : List (String × Json)} {r r' r'' : ρ}
      (hm : TakesMember fields r m r') (hms : Assembles fields r' ms r'') :
      Assembles fields r (m :: ms) r''

/-! ### The text of an object -/

/-- A member as it stands in the text of an object. -/
def memberText (m : String × Json) : List Char := (quote m.1).toList ++ ':' :: m.2.compact.toList

theorem toList_compactMembers_cons (m : String × Json) (ms : List (String × Json)) :
    (compactMembers (m :: ms)).toList =
      memberText m ++ ms.flatMap fun m => ',' :: memberText m := by
  induction ms generalizing m with
  | nil => simp [compactMembers, memberText]
  | cons m' ms ih => simp [compactMembers, memberText, ih]

theorem exists_memberText (m : String × Json) : ∃ cs, memberText m = '"' :: cs :=
  ⟨_, by rw [memberText, toList_quote]; rfl⟩

theorem afterValue_members (ms : List (String × Json)) (rest : List Char) :
    AfterValue ((ms.flatMap fun m => ',' :: memberText m) ++ '\x7d' :: rest) := by
  cases ms with
  | nil => exact .brace rest
  | cons m ms => exact .comma _

theorem length_le_compactMembers (ms : List (String × Json)) :
    ms.length ≤ (compactMembers ms).toList.length := by
  cases ms with
  | nil => exact Nat.zero_le _
  | cons m ms =>
    obtain ⟨cs, hcons⟩ := exists_memberText m
    have hle := length_le_flatMap (f := fun m => ',' :: memberText m)
      (fun _ => List.cons_ne_nil _ _) ms
    rw [toList_compactMembers_cons, hcons, List.length_append, List.length_cons, List.length_cons]
    omega

/-! ### Reading members -/

theorem hasMember_end (first : Bool) (rest : List Char) :
    hasMember first ('\x7d' :: rest) = .ok (false, '\x7d' :: rest) := by
  rw [hasMember]
  exact bind_of_ok (peek_cons rfl rest)

theorem hasMember_first (cs : List Char) :
    hasMember true ('"' :: cs) = .ok (true, '"' :: cs) := by
  rw [hasMember]
  exact bind_of_ok (peek_cons rfl cs)

/-- The comma in front of another member is taken. -/
theorem hasMember_comma (cs : List Char) :
    hasMember false (',' :: '"' :: cs) = .ok (true, '"' :: cs) := by
  rw [hasMember, bind_of_ok (peek_cons rfl _)]
  refine (bind_of_ok (skip_cons _ _)).trans ?_
  exact bind_of_ok (peek_cons rfl cs)

theorem colon_cons (s : List Char) : colon (':' :: s) = .ok ((), s) := by
  rw [colon]
  exact bind_of_ok (peek_cons rfl s)

/-- One round of reading takes one member. -/
theorem members_member {m : String × Json} {r r' : ρ} (h : TakesMember fields r m r')
    {first : Bool} {s rest : List Char} (hrest : AfterValue rest)
    (hnext : hasMember first s = .ok (true, memberText m ++ rest)) (n : Nat) :
    members fields (n + 1) first r s = members fields n false r' rest := by
  have hname := text_quote m.1 (':' :: (m.2.compact.toList ++ rest))
  have hcolon := colon_cons (m.2.compact.toList ++ rest)
  rw [memberText, List.append_assoc, List.cons_append] at hnext
  rw [members, bind_of_ok hnext]
  simp only [if_true]
  rw [bind_of_ok hname]
  cases h with
  | known hfield hset hv =>
    simp only [hfield, hset]
    refine (bind_of_ok hcolon).trans ?_
    exact bind_of_ok (hv rest hrest)
  | unknown hfield hv =>
    simp only [hfield]
    rw [bind_of_ok hcolon]
    exact bind_of_ok (hv rest hrest)

/-- The members behind the first one are taken together with the commas in front of them. -/
theorem members_behind {ms : List (String × Json)} {r r' : ρ} (h : Assembles fields r ms r')
    {n : Nat} (hn : ms.length < n) (rest : List Char) :
    members fields n false r ((ms.flatMap fun m => ',' :: memberText m) ++ '\x7d' :: rest) =
      .ok (r', '\x7d' :: rest) := by
  induction h generalizing n with
  | done r =>
    obtain ⟨n, rfl⟩ := Nat.exists_eq_add_one.mpr hn
    rw [members]
    exact bind_of_ok (hasMember_end false rest)
  | @member m ms r r' r'' hm _ ih =>
    obtain ⟨n, rfl⟩ := Nat.exists_eq_add_one.mpr (Nat.zero_lt_of_lt hn)
    rw [List.flatMap_cons, List.append_assoc, List.cons_append]
    rw [members_member hm (afterValue_members ms rest)]
    · exact ih (Nat.lt_of_succ_lt_succ hn)
    · obtain ⟨cs, hcons⟩ := exists_memberText m
      rw [hcons, List.cons_append]
      exact hasMember_comma _

theorem members_compact {ms : List (String × Json)} {r r' : ρ} (h : Assembles fields r ms r')
    {n : Nat} (hn : ms.length < n) (rest : List Char) :
    members fields n true r ((compactMembers ms).toList ++ '\x7d' :: rest) =
      .ok (r', '\x7d' :: rest) := by
  obtain ⟨n, rfl⟩ := Nat.exists_eq_add_one.mpr (Nat.zero_lt_of_lt hn)
  cases h with
  | done =>
    rw [members]
    exact bind_of_ok (hasMember_end true rest)
  | @member m ms _ _ _ hm hms =>
    rw [toList_compactMembers_cons, List.append_assoc,
      members_member hm (afterValue_members ms rest)]
    · exact members_behind hms (Nat.lt_of_succ_lt_succ hn) rest
    · obtain ⟨cs, hcons⟩ := exists_memberText m
      rw [hcons, List.cons_append]
      exact hasMember_first _

/-! ### Records -/

theorem toList_object (ms : List (String × Json)) (rest : List Char) :
    (compact (.object ms)).toList ++ rest =
      '\x7b' :: ((compactMembers ms).toList ++ '\x7d' :: rest) := by
  simp [compact]

/-- A record is what the members of an object make up. -/
theorem decodes_record {ms : List (String × Json)} {empty r : ρ} {complete : ρ → Option α} {a : α}
    (h : Assembles fields empty ms r) (hcomplete : complete r = some a) :
    Decodes (record fields empty complete) (.object ms) a := by
  intro rest _
  have hmembers := members_compact h
    (n := ((compactMembers ms).toList ++ '\x7d' :: rest).length + 1) (by
      have hle := length_le_compactMembers ms
      rw [List.length_append]
      omega) rest
  rw [toList_object, record, bind_of_ok (peek_cons rfl _)]
  refine (bind_of_ok (skip_cons _ _)).trans ?_
  rw [bind_of_ok (r := fun s => members fields (s.length + 1) true empty s) hmembers]
  simp only [hcomplete]
  rfl

/-- Blanks in front of a record are passed over. -/
theorem record_blanks {blanks : List Char} (h : ∀ c ∈ blanks, isSpace c = true) (empty : ρ)
    (complete : ρ → Option α) (s : List Char) :
    record fields empty complete (blanks ++ s) = record fields empty complete s := by
  have hpeek : peek (blanks ++ s) = peek s := by
    simp only [peek, List.dropWhile_append_of_pos h]
  exact bind_of_eq hpeek

/-! ### Alternatives -/

theorem decodes_choice {alternatives : List (Alternative α)} {alternative : Alternative α}
    {name : String} {v : Json} {a : α}
    (hname : alternatives.find? (·.name == name) = some alternative)
    (hv : Decodes alternative.content v a) :
    Decodes (choice alternatives) (.object [(name, v)]) a := by
  intro rest _
  have htext : (compactMembers [(name, v)]).toList ++ '\x7d' :: rest =
      (quote name).toList ++ ':' :: (v.compact.toList ++ '\x7d' :: rest) := by
    simp [compactMembers]
  rw [toList_object, htext, choice, bind_of_ok (peek_cons rfl _)]
  refine (bind_of_ok (skip_cons _ _)).trans ?_
  rw [bind_of_ok (text_quote name _)]
  simp only [hname]
  rw [bind_of_ok (colon_cons _), bind_of_ok (hv _ (.brace rest))]
  exact bind_of_ok (peek_cons rfl rest)

theorem decodes_bare {alternatives : List (Alternative α)} {name : String} {a : α}
    (h : (alternatives.find? (·.name == name)).bind (·.bare) = some a) :
    Decodes (choice alternatives) (.text name) a := by
  intro rest _
  have hname := text_quote name rest
  rw [compact]
  rw [toList_quote, List.cons_append] at hname ⊢
  rw [choice, bind_of_ok (peek_cons rfl _)]
  refine (bind_of_ok hname).trans ?_
  simp only [h]
  rfl

theorem decodes_skip_bool (b : Bool) : Decodes skipValue (.bool b) () := by
  intro rest _
  cases b <;> rw [compact, skipValue, skipValueWith] <;> exact bind_of_ok (peek_cons rfl _)

end Scaffold.Json
