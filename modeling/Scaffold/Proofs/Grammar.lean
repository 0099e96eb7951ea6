import Scaffold.Entity.Definition
import Mathlib.Data.List.TakeWhile

/-!
# The grammar of declarations

The shape of a property declaration, stated as a set of texts and independently of the reader:
which runs of blanks and words follow each other, and nothing about the order in which a reader
tries them. The second half says what each part of the reader does with a text, in terms of this
grammar.

* `afterAccessors?_eq_some_iff`: the accessors are read exactly when they stand in front.
* `name?_sound`, `name?_longest`: a name is read exactly when accessors follow one, and of several
  names the longest is read.
* `declarationAt?_sound`, `declarationAt?_longest`: the same for a whole declaration.
-/

namespace Scaffold.Definition

open Scaffold.Text

/-! ### Texts without and with blanks -/

/-- Blanks only, possibly none. -/
def Blanks (s : List Char) : Prop := ∀ c ∈ s, isBlank c = true

/-- Blanks that separate: at least one. -/
def Separates (s : List Char) : Prop := s ≠ [] ∧ Blanks s

/-- A word: at least one character, and none of them blank. -/
def IsToken (s : List Char) : Prop := s ≠ [] ∧ ∀ c ∈ s, isBlank c = false

instance (s : List Char) : Decidable (Blanks s) := List.decidableBAll (isBlank · = true) s

instance (s : List Char) : Decidable (Separates s) :=
  inferInstanceAs (Decidable (s ≠ [] ∧ Blanks s))

instance (s : List Char) : Decidable (IsToken s) :=
  @instDecidableAnd _ _ inferInstance (List.decidableBAll (isBlank · = false) s)

/-- Nothing follows, or a blank does: a word that stands in front of such a text ends there. -/
def Ends (s : List Char) : Prop := ∀ c, s.head? = some c → isBlank c = true

/-- A separation ends a word, whatever follows it. -/
theorem Separates.ends {s : List Char} (h : Separates s) (t : List Char) : Ends (s ++ t) := by
  cases s with
  | nil => exact absurd rfl h.1
  | cons b s =>
    intro c hc
    cases hc
    exact h.2 b List.mem_cons_self

/-- A text that starts with a word does not start with a blank. -/
theorem IsToken.head {s : List Char} (h : IsToken s) (t : List Char) :
    ∀ c, (s ++ t).head? = some c → isBlank c = false := by
  intro c hc
  cases s with
  | nil => exact absurd rfl h.1
  | cons d s =>
    cases hc
    exact h.2 c List.mem_cons_self

/-- Skipping blanks skips a run of them. -/
theorem trimStart_append {b : List Char} (hb : Blanks b) (s : List Char) :
    trimStart (b ++ s) = trimStart s :=
  List.dropWhile_append_of_pos hb

/-- A text is the blanks in front of it and what is left without them. -/
theorem exists_blanks (s : List Char) : ∃ b, Blanks b ∧ s = b ++ trimStart s := by
  refine ⟨s.takeWhile isBlank, ?_, List.takeWhile_append_dropWhile.symm⟩
  intro c hc
  exact List.mem_takeWhile_imp hc

/-- What is left without the blanks in front does not start with one. -/
theorem head?_trimStart {s : List Char} {c : Char} (h : (trimStart s).head? = some c) :
    isBlank c = false := by
  have := List.head?_dropWhile_not isBlank s
  rw [trimStart] at h
  rw [h] at this
  simpa using this

/-- A word that ends is the whole run of characters without blanks. -/
theorem IsToken.takeWhile {s t : List Char} (hs : IsToken s) (ht : Ends t) :
    (s ++ t).takeWhile (!isBlank ·) = s :=
  takeWhile_run (fun c hc => by simp [hs.2 c hc]) (fun c hc => by simp [ht c hc])

/-! ### The grammar -/

/-- The accessors in braces, with blanks or none around each part. -/
inductive IsAccessors : List Char → Prop where
  | mk {b₁ b₂ b₃ b₄ : List Char} : Blanks b₁ → Blanks b₂ → Blanks b₃ → Blanks b₄ →
      IsAccessors (b₁ ++ ("\x7b".toList ++ (b₂ ++ ("get;".toList ++ (b₃ ++ ("set;".toList ++
        (b₄ ++ "\x7d".toList)))))))

/-- A declaration of a property with the given type and name. -/
inductive IsDeclaration (type name : List Char) : List Char → Prop where
  | mk {b₁ b₂ accessors : List Char} : Separates b₁ → IsToken type → Separates b₂ →
      IsToken name → IsAccessors accessors →
      IsDeclaration type name
        ("public".toList ++ (b₁ ++ (type ++ (b₂ ++ (name ++ accessors)))))

theorem IsDeclaration.tokens {type name body : List Char} (h : IsDeclaration type name body) :
    IsToken type ∧ IsToken name := by
  cases h with
  | mk _ htype _ hname _ => exact ⟨htype, hname⟩

/-! ### Reading the parts -/

/-- A text behind blanks is read exactly when it stands there; it must not start with a blank
itself. -/
theorem after?_trimStart_eq_some_iff {e : Char} {expected s rest : List Char}
    (he : isBlank e = false) :
    after? (e :: expected) (trimStart s) = some rest ↔
      ∃ b, Blanks b ∧ s = b ++ (e :: expected ++ rest) := by
  rw [after?_eq_some_iff]
  constructor
  · intro h
    obtain ⟨b, hb, hs⟩ := exists_blanks s
    exact ⟨b, hb, h ▸ hs⟩
  · rintro ⟨b, hb, rfl⟩
    rw [trimStart_append hb]
    exact trimStart_cons he _

/-- The accessors are read exactly when they stand in front of what is left. -/
theorem afterAccessors?_eq_some_iff {s rest : List Char} :
    afterAccessors? s = some rest ↔ ∃ accessors, IsAccessors accessors ∧ s = accessors ++ rest := by
  have opening : ∀ {t r : List Char}, after? "\x7b".toList (trimStart t) = some r ↔
      ∃ b, Blanks b ∧ t = b ++ ("\x7b".toList ++ r) :=
    after?_trimStart_eq_some_iff (by decide)
  have getter : ∀ {t r : List Char}, after? "get;".toList (trimStart t) = some r ↔
      ∃ b, Blanks b ∧ t = b ++ ("get;".toList ++ r) :=
    after?_trimStart_eq_some_iff (by decide)
  have setter : ∀ {t r : List Char}, after? "set;".toList (trimStart t) = some r ↔
      ∃ b, Blanks b ∧ t = b ++ ("set;".toList ++ r) :=
    after?_trimStart_eq_some_iff (by decide)
  have closing : ∀ {t r : List Char}, after? "\x7d".toList (trimStart t) = some r ↔
      ∃ b, Blanks b ∧ t = b ++ ("\x7d".toList ++ r) :=
    after?_trimStart_eq_some_iff (by decide)
  simp only [afterAccessors?, Option.bind_eq_bind, Option.bind_eq_some_iff, opening, getter,
    setter, closing]
  constructor
  · rintro ⟨_, ⟨b₁, h₁, rfl⟩, _, ⟨b₂, h₂, rfl⟩, _, ⟨b₃, h₃, rfl⟩, b₄, h₄, rfl⟩
    exact ⟨_, .mk h₁ h₂ h₃ h₄, by simp only [List.append_assoc]⟩
  · rintro ⟨_, ⟨h₁, h₂, h₃, h₄⟩, rfl⟩
    refine ⟨_, ⟨_, h₁, ?_⟩, _, ⟨_, h₂, rfl⟩, _, ⟨_, h₃, rfl⟩, _, h₄, rfl⟩
    simp only [List.append_assoc]

/-- Accessors are read in one way only. -/
theorem IsAccessors.unique {s t u v : List Char} (hs : IsAccessors s) (ht : IsAccessors t)
    (h : s ++ u = t ++ v) : u = v := by
  have hu : afterAccessors? (s ++ u) = some u := afterAccessors?_eq_some_iff.mpr ⟨s, hs, rfl⟩
  have hv : afterAccessors? (s ++ u) = some v := afterAccessors?_eq_some_iff.mpr ⟨t, ht, h⟩
  exact Option.some.inj (hu.symm.trans hv)

/-- At least one blank is skipped exactly when the text splits into a separation and a rest that
does not start with a blank. -/
theorem afterBlanks?_eq_some_iff {s rest : List Char} :
    afterBlanks? s = some rest ↔
      ∃ b, Separates b ∧ s = b ++ rest ∧ ∀ c, rest.head? = some c → isBlank c = false := by
  constructor
  · intro h
    cases s with
    | nil => cases h
    | cons c s =>
      rw [afterBlanks?] at h
      split at h
      · next hc =>
        obtain rfl := Option.some.inj h
        obtain ⟨b, hb, hs⟩ := exists_blanks s
        refine ⟨c :: b, ⟨List.cons_ne_nil _ _, ?_⟩, ?_, fun d hd => head?_trimStart hd⟩
        · intro d hd
          rcases List.mem_cons.mp hd with rfl | hd
          · exact hc
          · exact hb d hd
        · exact congrArg (c :: ·) hs
      · cases h
  · rintro ⟨b, ⟨hne, hb⟩, rfl, hrest⟩
    cases b with
    | nil => exact absurd rfl hne
    | cons c b =>
      rw [List.cons_append, afterBlanks?, if_pos (hb c List.mem_cons_self),
        trimStart_append fun d hd => hb d (List.mem_cons_of_mem _ hd)]
      cases rest with
      | nil => rfl
      | cons d rest => rw [trimStart_cons (hrest d rfl)]

/-- A word is read exactly when the text splits into a word and a rest in front of which it
ends. -/
theorem token?_eq_some_iff {s run rest : List Char} :
    token? s = some (run, rest) ↔ IsToken run ∧ s = run ++ rest ∧ Ends rest := by
  have split := List.takeWhile_append_dropWhile (p := (!isBlank ·)) (l := s)
  constructor
  · intro h
    rw [token?] at h
    split at h
    · cases h
    · next c t ht =>
      obtain ⟨rfl, rfl⟩ := Prod.mk.inj (Option.some.inj h)
      rw [ht] at split
      refine ⟨⟨List.cons_ne_nil _ _, ?_⟩, split.symm, ?_⟩
      · intro d hd
        have := List.mem_takeWhile_imp (p := (!isBlank ·)) (ht ▸ hd)
        simpa using this
      · intro d hd
        have := List.head?_dropWhile_not (!isBlank ·) s
        rw [hd] at this
        simpa using this
  · rintro ⟨hrun, rfl, hrest⟩
    have htake := hrun.takeWhile hrest
    have hdrop : (run ++ rest).dropWhile (!isBlank ·) = rest := by
      rw [htake] at split
      exact List.append_cancel_left split
    rw [token?, htake, hdrop]
    cases run with
    | nil => exact absurd rfl hrun.1
    | cons c run => rfl

/-! ### Names -/

/-- A name that is read stands in front, and accessors follow it. -/
theorem name?_sound {s name rest : List Char} (h : name? s = some (name, rest)) :
    IsToken name ∧ ∃ accessors, IsAccessors accessors ∧ s = name ++ (accessors ++ rest) := by
  induction s generalizing name with
  | nil => cases h
  | cons c s ih =>
    rw [name?] at h
    split at h
    · cases h
    · next hc =>
      have hc : isBlank c = false := by simpa using hc
      split at h
      · next n r hn =>
        obtain ⟨rfl, rfl⟩ := Prod.mk.inj (Option.some.inj h)
        obtain ⟨⟨_, hname⟩, accessors, hacc, rfl⟩ := ih hn
        refine ⟨⟨List.cons_ne_nil _ _, ?_⟩, accessors, hacc, rfl⟩
        intro d hd
        rcases List.mem_cons.mp hd with rfl | hd
        · exact hc
        · exact hname d hd
      · obtain ⟨r, hr, he⟩ := Option.map_eq_some_iff.mp h
        obtain ⟨rfl, rfl⟩ := Prod.mk.inj he
        obtain ⟨accessors, hacc, rfl⟩ := afterAccessors?_eq_some_iff.mp hr
        refine ⟨⟨List.cons_ne_nil _ _, ?_⟩, accessors, hacc, rfl⟩
        intro d hd
        rw [List.mem_singleton.mp hd]
        exact hc

/-- Where accessors follow a name, a name is read that is at least as long. -/
theorem exists_name? {name accessors : List Char} (hname : IsToken name)
    (hacc : IsAccessors accessors) (rest : List Char) :
    ∃ n r, name? (name ++ (accessors ++ rest)) = some (n, r) ∧ name.length ≤ n.length := by
  obtain ⟨hne, hname⟩ := hname
  induction name with
  | nil => exact absurd rfl hne
  | cons c name ih =>
    have hc : isBlank c = false := hname c List.mem_cons_self
    rw [List.cons_append, name?, if_neg (by simp [hc])]
    -- A longer name is tried first; it is there whenever `name` goes on behind `c`.
    cases hn : name? (name ++ (accessors ++ rest)) with
    | some found =>
      obtain ⟨n, r⟩ := found
      refine ⟨c :: n, r, rfl, Nat.succ_le_succ ?_⟩
      cases name with
      | nil => exact Nat.zero_le _
      | cons d name =>
        obtain ⟨_, _, hfound, hle⟩ :=
          ih (List.cons_ne_nil _ _) fun x hx => hname x (List.mem_cons_of_mem _ hx)
        rw [hn] at hfound
        obtain ⟨rfl, rfl⟩ := Prod.mk.inj (Option.some.inj hfound)
        exact hle
    | none =>
      cases name with
      | nil =>
        rw [List.nil_append, afterAccessors?_eq_some_iff.mpr ⟨accessors, hacc, rfl⟩]
        exact ⟨[c], rest, rfl, Nat.le_refl _⟩
      | cons d name =>
        obtain ⟨_, _, hfound, _⟩ :=
          ih (List.cons_ne_nil _ _) fun x hx => hname x (List.mem_cons_of_mem _ hx)
        rw [hn] at hfound
        cases hfound

/-- Of the names in front of which accessors follow, the longest is read, and with it everything
up to the end of its accessors. -/
theorem name?_longest {name accessors : List Char} (hname : IsToken name)
    (hacc : IsAccessors accessors) (rest : List Char) :
    ∃ n r, name? (name ++ (accessors ++ rest)) = some (n, r) ∧ name.length ≤ n.length ∧
      (n.length = name.length → n = name ∧ r = rest) := by
  obtain ⟨n, r, h, hle⟩ := exists_name? hname hacc rest
  refine ⟨n, r, h, hle, ?_⟩
  intro hlen
  obtain ⟨_, accessors', hacc', hs⟩ := name?_sound h
  obtain ⟨hsame, htail⟩ := List.append_inj hs hlen.symm
  exact ⟨hsame.symm, (hacc.unique hacc' htail).symm⟩

/-! ### Declarations -/

/-- In front of the name a declaration is read in one way only. -/
theorem declarationAt?_append {b₁ type b₂ s : List Char} (hb₁ : Separates b₁) (htype : IsToken type)
    (hb₂ : Separates b₂) (hs : ∀ c, s.head? = some c → isBlank c = false) :
    declarationAt? ("public".toList ++ (b₁ ++ (type ++ (b₂ ++ s)))) =
      (name? s).map fun found => (.of (String.ofList found.1) (String.ofList type), found.2) := by
  have hfirst : afterBlanks? (b₁ ++ (type ++ (b₂ ++ s))) = some (type ++ (b₂ ++ s)) :=
    afterBlanks?_eq_some_iff.mpr ⟨b₁, hb₁, rfl, htype.head (b₂ ++ s)⟩
  have htoken : token? (type ++ (b₂ ++ s)) = some (type, b₂ ++ s) :=
    token?_eq_some_iff.mpr ⟨htype, rfl, hb₂.ends s⟩
  have hsecond : afterBlanks? (b₂ ++ s) = some s :=
    afterBlanks?_eq_some_iff.mpr ⟨b₂, hb₂, rfl, hs⟩
  rw [declarationAt?, after?_append]
  simp only [Option.bind_eq_bind, Option.bind_some, hfirst, htoken, hsecond]
  cases name? s <;> rfl

/-- A declaration that is read stands in front of what is left. -/
theorem declarationAt?_sound {s rest : List Char} {p : Property}
    (h : declarationAt? s = some (p, rest)) :
    ∃ body, IsDeclaration p.type.toList p.name.toList body ∧ s = body ++ rest := by
  simp only [declarationAt?, Option.bind_eq_bind, Option.bind_eq_some_iff] at h
  obtain ⟨a, ha, b, hb, ⟨type, c⟩, hc, d, hd, ⟨name, r⟩, hn, he⟩ := h
  obtain ⟨rfl, rfl⟩ := Prod.mk.inj (Option.some.inj he)
  obtain rfl := after?_eq_some_iff.mp ha
  obtain ⟨b₁, hb₁, rfl, -⟩ := afterBlanks?_eq_some_iff.mp hb
  obtain ⟨htype, rfl, -⟩ := token?_eq_some_iff.mp hc
  obtain ⟨b₂, hb₂, rfl, -⟩ := afterBlanks?_eq_some_iff.mp hd
  obtain ⟨hname, accessors, hacc, rfl⟩ := name?_sound hn
  refine ⟨"public".toList ++ (b₁ ++ (type ++ (b₂ ++ (name ++ accessors)))), ?_, ?_⟩
  · rw [Property.type_of, Property.name_of, String.toList_ofList, String.toList_ofList]
    exact .mk hb₁ htype hb₂ hname hacc
  · simp only [List.append_assoc]

/-- Of the declarations in front of a text, the one with the longest name is read. They all have
the same type. -/
theorem declarationAt?_longest {type name body : List Char}
    (h : IsDeclaration type name body) (rest : List Char) :
    ∃ p r, declarationAt? (body ++ rest) = some (p, r) ∧ p.type.toList = type ∧
      name.length ≤ p.name.toList.length ∧
      (p.name.toList.length = name.length → p.name.toList = name ∧ r = rest) := by
  obtain ⟨hb₁, htype, hb₂, hname, hacc⟩ := h
  rename_i b₁ b₂ accessors
  obtain ⟨n, r, hn, hle, heq⟩ := name?_longest hname hacc rest
  refine ⟨.of (String.ofList n) (String.ofList type), r, ?_, String.toList_ofList, ?_⟩
  · simp only [List.append_assoc]
    rw [declarationAt?_append hb₁ htype hb₂ (hname.head _), hn]
    rfl
  · rw [Property.name_of, String.toList_ofList]
    exact ⟨hle, heq⟩

end Scaffold.Definition
