import Scaffold.Proofs.RecordMeanings

/-!
# Members that are overlooked

A reader that has no field of some name makes the same of a value with members of that name and
without them, whatever these members are and wherever they stand.

* `Overlooks`: a reader that does not see the members of a name.
* `overlooks_text`, `Overlooks.list`, `overlooks_record`: the readers that do not.
-/

namespace Scaffold.Json

namespace Tree

theorem itemsWithout_eq (name : String) (items : List (Seam × Tree)) :
    itemsWithout name items = items.map fun item => ({}, item.2.without name) := by
  induction items with
  | nil => rfl
  | cons item items ih => rw [itemsWithout, ih, List.map_cons]

theorem string?_without (name : String) (t : Tree) : (t.without name).string? = t.string? := by
  cases t <;> rfl

theorem list?_without {α : Type} {name : String} {item? : Tree → Option α}
    (h : ∀ t, item? (t.without name) = item? t) (t : Tree) :
    (t.without name).list? item? = t.list? item? := by
  cases t with
  | array items closing =>
    rw [without, itemsWithout_eq, list?, list?, List.mapM_map]
    exact congrArg (List.mapM · items) (funext fun item => h item.2)
  | _ => rfl

end Tree

namespace Reader

variable {α ρ : Type} {name : String} {fields : List (Field ρ)}

/-- The reader does not see the members of a name. -/
def Overlooks (name : String) (read : Reader α) : Prop :=
  ∀ t : Tree, meaning read (t.without name) = meaning read t

theorem overlooks_text (name : String) : Overlooks name text := by
  intro t
  rw [(means_text _).meaning_eq, (means_text t).meaning_eq, Tree.string?_without]

theorem Overlooks.list {read : Reader α} (h : Overlooks name read) (hread : Settles read) :
    Overlooks name (Reader.list read) := by
  intro t
  rw [(means_list hread _).meaning_eq, (means_list hread t).meaning_eq, Tree.list?_without h]

theorem Overlooks.bind_pure {β : Type} {read : Reader α} (h : Overlooks name read)
    (hread : Settles read) (f : α → β) : Overlooks name (read >>= fun a => pure (f a)) := by
  intro t
  rw [hread.meaning_bind_pure, hread.meaning_bind_pure, h t]

/-! ### Records -/

/-- A member of a name that no field has changes nothing. -/
theorem takeMember_of_overlooked (hname : ∀ field ∈ fields, field.name ≠ name) (r : ρ) {l : Label}
    (hl : l.name? = some name) (t : Tree) : takeMember fields r (l, t) = some r := by
  have hfind : fields.find? (·.name == name) = none :=
    List.find?_eq_none.mpr fun field hfield => by simpa using hname field hfield
  rw [takeMember, hl, Option.bind_some, hfind]

/-- The blanks around a name do not matter. -/
theorem takeMember_without (h : ∀ field ∈ fields, ∀ r, Overlooks name (field.read r)) (r : ρ)
    (l : Label) (t : Tree) :
    takeMember fields r (⟨{}, l.glyphs, .none, .none⟩, t.without name) =
      takeMember fields r (l, t) := by
  rw [takeMember, takeMember]
  refine congrArg (Option.bind _) (funext fun n => ?_)
  cases hfind : fields.find? (·.name == n) with
  | none => rfl
  | some field => simp only [h field (List.mem_of_find?_eq_some hfind) r t]

theorem foldlM_takeMember_without (h : ∀ field ∈ fields, ∀ r, Overlooks name (field.read r))
    (hname : ∀ field ∈ fields, field.name ≠ name) (ms : List (Label × Tree)) (r : ρ) :
    (Tree.membersWithout name ms).foldlM (takeMember fields) r =
      ms.foldlM (takeMember fields) r := by
  induction ms generalizing r with
  | nil => rfl
  | cons m ms ih =>
    obtain ⟨l, t⟩ := m
    rw [Tree.membersWithout]
    split
    · next hl =>
      rw [List.foldlM_cons, takeMember_of_overlooked hname r hl]
      exact ih r
    · rw [List.foldlM_cons, List.foldlM_cons, takeMember_without h r l]
      exact congrArg (Option.bind _) (funext ih)

theorem fillFields_without (h : ∀ field ∈ fields, ∀ r, Overlooks name (field.read r))
    (items : List (Seam × Tree)) (r : ρ) :
    fillFields fields (Tree.itemsWithout name items) r = fillFields fields items r := by
  induction fields generalizing items r with
  | nil => cases items <;> rfl
  | cons field fields ih =>
    obtain ⟨hfield, hfields⟩ := List.forall_mem_cons.mp h
    cases items with
    | nil => rfl
    | cons item items =>
      obtain ⟨seam, t⟩ := item
      rw [Tree.itemsWithout, fillFields, fillFields, hfield r t]
      exact congrArg (Option.bind _) (funext (ih hfields items))

/-- A record without a field of the name is read alike with members of that name and without. -/
theorem overlooks_record (hfields : ∀ field ∈ fields, ∀ r, Settles (field.read r))
    (h : ∀ field ∈ fields, ∀ r, Overlooks name (field.read r))
    (hname : ∀ field ∈ fields, field.name ≠ name) (empty : ρ) (complete : ρ → Option α) :
    Overlooks name (record fields empty complete) := by
  intro t
  rw [(means_record hfields empty complete _).meaning_eq,
    (means_record hfields empty complete t).meaning_eq]
  cases t with
  | object ms closing =>
    rw [Tree.without, Tree.record?, Tree.record?, foldlM_takeMember_without h hname]
  | array items closing =>
    rw [Tree.without, Tree.record?, Tree.record?, fillFields_without h]
  | _ => rfl

end Reader

end Scaffold.Json
