import Scaffold.Proofs.Grammar

/-!
# The scan for declarations

Which declarations of a text are found, said in terms of positions: a declaration spans the
characters from one position up to another, the name in it is the longest that can be read from
its start, and the scan takes the leftmost declaration that starts no earlier than the previous
one ended.

* `spans_iff`, `starts_iff`: a position starts a declaration exactly when the reader finds one
  there, and it spans what the reader consumes.
* `Scan.unique`, `exists_scan`: there is one scan of a text, and it is what `declarations` lists.
* `Scan.pairwise`, `Scan.covers`: the declarations found do not overlap, and every declaration of
  the text starts inside one of them.
* `declarations_leftmost_longest`: all of this about the properties of an entity.
-/

namespace Scaffold.Definition

open Scaffold.Text

/-! ### Declarations at positions -/

/-- The characters of a text from position `i` up to position `j`. -/
def slice (text : List Char) (i j : Nat) : List Char := (text.drop i).take (j - i)

/-- The text from `i` up to `j` can be read as a declaration of a type and a name. -/
def Reads (text : List Char) (i j : Nat) (type name : List Char) : Prop :=
  i ≤ j ∧ j ≤ text.length ∧ IsDeclaration type name (slice text i j)

/-- A declaration spans the text from `i` up to `j`: it can be read there, and no longer name can
be read from `i` on. -/
def Spans (text : List Char) (i j : Nat) (type name : List Char) : Prop :=
  Reads text i j type name ∧
    ∀ j' type' name', Reads text i j' type' name' → name'.length ≤ name.length

/-- A declaration starts at `i`. -/
def Starts (text : List Char) (i : Nat) : Prop := ∃ j type name, Spans text i j type name

theorem IsDeclaration.length_pos {type name body : List Char} (h : IsDeclaration type name body) :
    0 < body.length := by
  cases h
  simp

theorem reads_iff {text : List Char} {i j : Nat} {type name : List Char} :
    Reads text i j type name ↔
      ∃ body rest, text.drop i = body ++ rest ∧ j = i + body.length ∧
        IsDeclaration type name body := by
  constructor
  · rintro ⟨hij, hj, h⟩
    refine ⟨slice text i j, (text.drop i).drop (j - i), ?_, ?_, h⟩
    · exact (List.take_append_drop _ _).symm
    · rw [slice, List.length_take, List.length_drop]
      omega
  · rintro ⟨body, rest, hdrop, rfl, h⟩
    have hlen := congrArg List.length hdrop
    rw [List.length_drop, List.length_append] at hlen
    have hpos := h.length_pos
    refine ⟨Nat.le_add_right _ _, by omega, ?_⟩
    rw [slice, hdrop, Nat.add_sub_cancel_left, List.take_left]
    exact h

/-- A declaration that can be read consumes what stands in front of the position it ends at. -/
theorem drop_of_drop_eq_append {text body rest : List Char} {i : Nat}
    (h : text.drop i = body ++ rest) : text.drop (i + body.length) = rest := by
  rw [← List.drop_drop, h, List.drop_left]

/-- What the reader finds at a position spans what it consumes. -/
theorem spans_of_declarationAt? {text rest : List Char} {i : Nat} {p : Property}
    (h : declarationAt? (text.drop i) = some (p, rest)) :
    ∃ j, i < j ∧ j ≤ text.length ∧ text.drop j = rest ∧
      Spans text i j p.type.toList p.name.toList := by
  obtain ⟨body, hbody, hdrop⟩ := declarationAt?_sound h
  have hreads : Reads text i (i + body.length) p.type.toList p.name.toList :=
    reads_iff.mpr ⟨body, rest, hdrop, rfl, hbody⟩
  have hpos := hbody.length_pos
  refine ⟨i + body.length, by omega, hreads.2.1, drop_of_drop_eq_append hdrop, hreads, ?_⟩
  intro j' type' name' h'
  obtain ⟨body', rest', hdrop', -, hbody'⟩ := reads_iff.mp h'
  obtain ⟨q, r, hq, -, hle, -⟩ := declarationAt?_longest hbody' rest'
  rw [← hdrop', h] at hq
  obtain ⟨rfl, -⟩ := Prod.mk.inj (Option.some.inj hq)
  exact hle

/-- What spans a part of the text is what the reader finds at its start. -/
theorem Spans.declarationAt? {text : List Char} {i j : Nat} {type name : List Char}
    (h : Spans text i j type name) :
    declarationAt? (text.drop i) =
      some (.of (String.ofList name) (String.ofList type), text.drop j) := by
  obtain ⟨hreads, hmax⟩ := h
  obtain ⟨body, rest, hdrop, rfl, hbody⟩ := reads_iff.mp hreads
  obtain ⟨p, r, hp, htype, hle, heq⟩ := declarationAt?_longest hbody rest
  rw [← hdrop] at hp
  obtain ⟨j', -, -, -, hspans, -⟩ := spans_of_declarationAt? hp
  obtain ⟨hname, rfl⟩ := heq (Nat.le_antisymm (hmax _ _ _ hspans) hle)
  rw [hp, drop_of_drop_eq_append hdrop, ← htype, ← hname, String.ofList_toList,
    String.ofList_toList, Property.of_name_type]

/-- A declaration spans a part of the text exactly when the reader finds it at the start of the
part and goes on at its end. -/
theorem spans_iff {text : List Char} {i j : Nat} {type name : List Char} :
    Spans text i j type name ↔
      j ≤ text.length ∧ declarationAt? (text.drop i) =
        some (.of (String.ofList name) (String.ofList type), text.drop j) := by
  constructor
  · intro h
    exact ⟨h.1.2.1, h.declarationAt?⟩
  · rintro ⟨hj, h⟩
    obtain ⟨j', -, hj', hdrop, hspans⟩ := spans_of_declarationAt? h
    have hlen := congrArg List.length hdrop
    rw [List.length_drop, List.length_drop] at hlen
    obtain rfl : j' = j := by omega
    rwa [Property.type_of, Property.name_of, String.toList_ofList, String.toList_ofList] at hspans

/-- A declaration starts at a position exactly when the reader finds one there. -/
theorem starts_iff {text : List Char} {i : Nat} :
    Starts text i ↔ (declarationAt? (text.drop i)).isSome = true := by
  constructor
  · rintro ⟨j, type, name, h⟩
    rw [h.declarationAt?]
    rfl
  · intro h
    obtain ⟨⟨p, rest⟩, hp⟩ := Option.isSome_iff_exists.mp h
    obtain ⟨j, -, -, -, hspans⟩ := spans_of_declarationAt? hp
    exact ⟨j, _, _, hspans⟩

theorem Spans.lt {text : List Char} {i j : Nat} {type name : List Char}
    (h : Spans text i j type name) : i < j := by
  obtain ⟨body, rest, -, rfl, hbody⟩ := reads_iff.mp h.1
  have := hbody.length_pos
  omega

/-- What starts at a position is determined: its end, its type and its name. -/
theorem Spans.unique {text : List Char} {i j j' : Nat} {type type' name name' : List Char}
    (h : Spans text i j type name) (h' : Spans text i j' type' name') :
    j = j' ∧ type = type' ∧ name = name' := by
  have heq := h.declarationAt?.symm.trans h'.declarationAt?
  obtain ⟨hp, hdrop⟩ := Prod.mk.inj (Option.some.inj heq)
  have hlen := congrArg List.length hdrop
  rw [List.length_drop, List.length_drop] at hlen
  have hj := h.1.2.1
  have hj' := h'.1.2.1
  injection hp with hname htype
  exact ⟨by omega, String.ofList_injective htype, String.ofList_injective hname⟩

/-! ### The scan -/

/-- A declaration found in a text: where it stands, and what it declares. -/
structure Found where
  start : Nat
  stop : Nat
  type : List Char
  name : List Char

/-- The property that is declared. -/
def Found.property (f : Found) : Property := .of (String.ofList f.name) (String.ofList f.type)

/-- The scan of a text from a position on: the first declaration is the leftmost that starts
there or later, and the scan goes on where it ends. -/
inductive Scan (text : List Char) : Nat → List Found → Prop where
  | done {k : Nat} : (∀ i, k ≤ i → ¬ Starts text i) → Scan text k []
  | next {k : Nat} {f : Found} {found : List Found} :
      k ≤ f.start → (∀ i, k ≤ i → i < f.start → ¬ Starts text i) →
      Spans text f.start f.stop f.type f.name → Scan text f.stop found →
      Scan text k (f :: found)

/-- A position where nothing starts can be passed over. -/
theorem Scan.extend {text : List Char} {k : Nat} {found : List Found}
    (h : Scan text (k + 1) found) (hk : ¬ Starts text k) : Scan text k found := by
  cases h with
  | done hnone =>
    refine .done fun i hi => ?_
    rcases Nat.eq_or_lt_of_le hi with rfl | hi
    · exact hk
    · exact hnone i hi
  | next hstart hnone hspans hrest =>
    refine .next (Nat.le_of_succ_le hstart) (fun i hi hlt => ?_) hspans hrest
    rcases Nat.eq_or_lt_of_le hi with rfl | hi
    · exact hk
    · exact hnone i hi hlt

/-- There is one scan only: the next declaration is the leftmost, and what starts at a position is
determined. -/
theorem Scan.unique {text : List Char} {k : Nat} {found other : List Found}
    (h : Scan text k found) (h' : Scan text k other) : found = other := by
  induction h generalizing other with
  | done hnone =>
    cases h' with
    | done _ => rfl
    | next hstart _ hspans _ => exact absurd ⟨_, _, _, hspans⟩ (hnone _ hstart)
  | @next k f found hstart hnone hspans _ ih =>
    cases h' with
    | done hnone' => exact absurd ⟨_, _, _, hspans⟩ (hnone' _ hstart)
    | @next _ g others hstart' hnone' hspans' hrest' =>
      obtain ⟨start, stop, type, name⟩ := f
      obtain ⟨start', stop', type', name'⟩ := g
      have hsame : start = start' := by
        rcases Nat.lt_trichotomy start start' with hlt | heq | hgt
        · exact absurd ⟨_, _, _, hspans⟩ (hnone' _ hstart hlt)
        · exact heq
        · exact absurd ⟨_, _, _, hspans'⟩ (hnone _ hstart' hgt)
      subst hsame
      obtain ⟨rfl, rfl, rfl⟩ := hspans.unique hspans'
      rw [ih hrest']

/-- What the scan finds starts no earlier than the scan and is a declaration of the text. -/
theorem Scan.spans {text : List Char} {k : Nat} {found : List Found} (h : Scan text k found) :
    ∀ f ∈ found, k ≤ f.start ∧ Spans text f.start f.stop f.type f.name := by
  induction h with
  | done _ =>
    intro f hf
    exact absurd hf List.not_mem_nil
  | next hstart _ hspans _ ih =>
    intro g hg
    rcases List.mem_cons.mp hg with rfl | hg
    · exact ⟨hstart, hspans⟩
    · obtain ⟨hle, hg⟩ := ih g hg
      have := hspans.lt
      exact ⟨by omega, hg⟩

/-- Each declaration found ends before the later ones start. -/
theorem Scan.pairwise {text : List Char} {k : Nat} {found : List Found} (h : Scan text k found) :
    found.Pairwise fun f g => f.stop ≤ g.start := by
  induction h with
  | done _ => exact .nil
  | next _ _ _ hrest ih => exact .cons (fun g hg => (hrest.spans g hg).1) ih

/-- A declaration of the text starts inside one that is found, or is itself found. -/
theorem Scan.covers {text : List Char} {k : Nat} {found : List Found} (h : Scan text k found)
    {i : Nat} (hi : k ≤ i) (hstarts : Starts text i) : ∃ f ∈ found, f.start ≤ i ∧ i < f.stop := by
  induction h with
  | done hnone => exact absurd hstarts (hnone i hi)
  | @next k f found hstart hnone hspans _ ih =>
    rcases Nat.lt_or_ge i f.start with hbefore | hfrom
    · exact absurd hstarts (hnone i hi hbefore)
    · rcases Nat.lt_or_ge i f.stop with hinside | hbehind
      · exact ⟨f, List.mem_cons_self, hfrom, hinside⟩
      · obtain ⟨g, hg, hcover⟩ := ih hbehind
        exact ⟨g, List.mem_cons_of_mem _ hg, hcover⟩

/-! ### The reader scans -/

theorem declarations_of_some {s rest : List Char} {p : Property}
    (h : declarationAt? s = some (p, rest)) : declarations s = p :: declarations rest := by
  rw [declarations]
  split
  · next q r hq =>
    rw [h] at hq
    obtain ⟨rfl, rfl⟩ := Prod.mk.inj (Option.some.inj hq)
    rfl
  · next hnone =>
    rw [h] at hnone
    cases hnone

theorem declarations_of_none {c : Char} {s : List Char} (h : declarationAt? (c :: s) = none) :
    declarations (c :: s) = declarations s := by
  rw [declarations]
  split
  · next hsome =>
    rw [h] at hsome
    cases hsome
  · rfl

theorem declarations_nil : declarations [] = [] := by
  rw [declarations]
  rfl

/-- From every position on the text has a scan, and it is what the reader lists. -/
theorem exists_scan (text : List Char) (k : Nat) :
    ∃ found, Scan text k found ∧ declarations (text.drop k) = found.map Found.property := by
  -- The reader goes on with a shorter text in either case.
  induction h : (text.drop k).length using Nat.strongRecOn generalizing k with
  | ind n ih =>
    cases hat : declarationAt? (text.drop k) with
    | some found =>
      obtain ⟨p, rest⟩ := found
      obtain ⟨j, hkj, hj, hdrop, hspans⟩ := spans_of_declarationAt? hat
      have hlt : (text.drop j).length < n := by
        rw [hdrop, ← h]
        exact declarationAt?_length_lt hat
      obtain ⟨found, hscan, hlist⟩ := ih _ hlt j rfl
      refine ⟨⟨k, j, p.type.toList, p.name.toList⟩ :: found, ?_, ?_⟩
      · exact .next (Nat.le_refl _) (fun i hi hlt => absurd hlt (Nat.not_lt.mpr hi)) hspans hscan
      · rw [declarations_of_some hat, ← hdrop, hlist, List.map_cons, Found.property,
          String.ofList_toList, String.ofList_toList, Property.of_name_type]
    | none =>
      have hk : ¬ Starts text k := by
        rw [starts_iff, hat]
        exact Bool.false_ne_true
      cases hs : text.drop k with
      | nil =>
        refine ⟨[], .done fun i hi => ?_, declarations_nil⟩
        have hend : text.drop i = [] :=
          List.drop_eq_nil_of_le (Nat.le_trans (List.drop_eq_nil_iff.mp hs) hi)
        rw [starts_iff, hend]
        exact Bool.false_ne_true
      | cons c s =>
        have hnext : text.drop (k + 1) = s := by
          rw [← List.drop_drop, hs]
          rfl
        have hlt : (text.drop (k + 1)).length < n := by
          rw [hnext, ← h, hs]
          exact Nat.lt_succ_self _
        obtain ⟨found, hscan, hlist⟩ := ih _ hlt (k + 1) rfl
        refine ⟨found, hscan.extend hk, ?_⟩
        rw [declarations_of_none (hs ▸ hat), ← hnext, hlist]

/-- The type in a declaration is the whole run of characters without blanks behind `public` and
the blanks that follow it. -/
theorem Spans.type_eq {text : List Char} {i j : Nat} {type name : List Char}
    (h : Spans text i j type name) :
    ∃ gap rest, Separates gap ∧ text.drop i = "public".toList ++ (gap ++ rest) ∧
      type = rest.takeWhile (!isBlank ·) := by
  obtain ⟨body, rest, hdrop, -, hbody⟩ := reads_iff.mp h.1
  obtain ⟨hb₁, htype, hb₂, -, -⟩ := hbody
  rename_i b₁ b₂ accessors
  refine ⟨b₁, type ++ (b₂ ++ (name ++ accessors) ++ rest), hb₁, ?_, ?_⟩
  · rw [hdrop]
    simp only [List.append_assoc]
  · rw [List.append_assoc]
    exact (htype.takeWhile (hb₂.ends _)).symm

/-- **The properties of an entity are the leftmost, non-overlapping, longest-name scan of its
definition.** There is exactly one such scan; the entity has its declarations as properties, in
the order in which they stand. Every declaration of the text starts inside one that is found, so
none in a gap is missed, and none is found twice. -/
theorem declarations_leftmost_longest (definition : String) :
    ∃ found, Scan definition.toList 0 found ∧
      (∀ other, Scan definition.toList 0 other → other = found) ∧
      declarations definition.toList = found.map Found.property ∧
      (∀ e, Entity.parse definition = .ok e → e.properties = found.map Found.property) ∧
      (found.Pairwise fun f g => f.stop ≤ g.start) ∧
      (∀ i, Starts definition.toList i → ∃ f ∈ found, f.start ≤ i ∧ i < f.stop) ∧
      ∀ f ∈ found, ∃ gap rest, Separates gap ∧
        definition.toList.drop f.start = "public".toList ++ (gap ++ rest) ∧
        f.type = rest.takeWhile (!isBlank ·) := by
  obtain ⟨found, hscan, hlist⟩ := exists_scan definition.toList 0
  rw [List.drop_zero] at hlist
  refine ⟨found, hscan, fun other h => h.unique hscan, hlist, ?_, hscan.pairwise, ?_, ?_⟩
  · intro e he
    obtain ⟨name, -, rfl⟩ := Entity.parse_eq_ok_iff.mp he
    exact hlist
  · intro i hi
    exact hscan.covers (Nat.zero_le i) hi
  · intro f hf
    exact (hscan.spans f hf).2.type_eq

/-- A name with accessors glued to it keeps them when others follow, and a getter alone declares
nothing. -/
theorem declarations_leftmost_longest_glued :
    Entity.parse
        "public class A public int X\x7bget;set;\x7d\x7bget;set;\x7dpublic T Y\x7bget;\x7d" =
      .ok ⟨"A", [.of "X\x7bget;set;\x7d" "int"]⟩ ∧
    ∃ found, Scan
        "public class A public int X\x7bget;set;\x7d\x7bget;set;\x7dpublic T Y\x7bget;\x7d".toList
        0 found ∧
      found.map Found.property = [.of "X\x7bget;set;\x7d" "int"] := by
  have hread : Entity.parse
      "public class A public int X\x7bget;set;\x7d\x7bget;set;\x7dpublic T Y\x7bget;\x7d" =
      .ok ⟨"A", [.of "X\x7bget;set;\x7d" "int"]⟩ :=
    Entity.parse_eq_ok_iff.mpr ⟨['A'], by decide +kernel, by decide +kernel⟩
  obtain ⟨found, hscan, -, -, hparse, -⟩ := declarations_leftmost_longest
    "public class A public int X\x7bget;set;\x7d\x7bget;set;\x7dpublic T Y\x7bget;\x7d"
  exact ⟨hread, found, hscan, (hparse _ hread).symm⟩

end Scaffold.Definition
