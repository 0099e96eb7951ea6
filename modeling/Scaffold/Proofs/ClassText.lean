import Scaffold.Proofs.Calm

/-!
# Classes written one after the other

A text that lists classes with their members is read back: the entity has the name of the first
class and the members of all of them. The words in it can be any, even `public` or `get;`. A
declaration takes three words, and whatever word of such a text stands where the name would be, no
accessors follow it unless it is the name of a member.

* `IsMembers`, `IsClass`, `IsListing`: how classes are written.
* `Quiet`: neither the first word of a text nor the second is read as a name.
* `declarations_words`: nothing is declared by a word in front of a quiet text.
* `declarations_members`, `declarations_class`: what is declared in a class.
* `parse_of_listing`: reading undoes writing.
-/

namespace Scaffold.Definition

open Scaffold.Text

/-! ### Writing classes -/

/-- A word without braces. -/
def IsBare (s : List Char) : Prop := IsToken s ∧ '\x7b' ∉ s ∧ '\x7d' ∉ s

instance (s : List Char) : Decidable (IsBare s) := inferInstanceAs (Decidable (_ ∧ _ ∧ _))

/-- Members one after the other, with blanks or none behind each of them. -/
inductive IsMembers : List Property → List Char → Prop where
  | nil : IsMembers [] []
  | cons {p ps member b s} :
      IsBare p.type.toList → IsBare p.name.toList →
      IsDeclaration p.type.toList p.name.toList member → Blanks b → IsMembers ps s →
      IsMembers (p :: ps) (member ++ (b ++ s))

/-- A class with its members in braces. -/
inductive IsClass (e : Entity) : List Char → Prop where
  | mk {opening b₁ b₂ members} :
      IsOpening opening → IsWordRun e.name.toList → Blanks b₁ → Blanks b₂ →
      IsMembers e.properties members →
      IsClass e (opening ++ (e.name.toList ++ (b₁ ++ ("\x7b".toList ++ (b₂ ++ (members ++
        "\x7d".toList))))))

/-- Classes one after the other, with blanks or none around each of them. -/
inductive IsListing : List Entity → List Char → Prop where
  | nil {b} : Blanks b → IsListing [] b
  | cons {e es b s t} : Blanks b → IsClass e s → IsListing es t → IsListing (e :: es) (b ++ (s ++ t))

/-! ### Quiet texts -/

section

variable {b w : List Char}

theorem afterAccessors?_blanks (hb : Blanks b) (s : List Char) :
    afterAccessors? (b ++ s) = afterAccessors? s := by
  rw [afterAccessors?, afterAccessors?, trimStart_append hb]

theorem afterAccessors?_word (hw : IsToken w) (hbrace : '\x7b' ∉ w) (s : List Char) :
    afterAccessors? (w ++ s) = none := by
  obtain ⟨hne, hword⟩ := hw
  cases w with
  | nil => exact absurd rfl hne
  | cons c w =>
    exact afterAccessors?_cons (hword c List.mem_cons_self) fun heq =>
      hbrace (heq ▸ List.mem_cons_self)

theorem trimStart_word (hw : IsToken w) (s : List Char) : trimStart (w ++ s) = w ++ s := by
  obtain ⟨hne, hword⟩ := hw
  cases w with
  | nil => exact absurd rfl hne
  | cons c w => exact trimStart_cons (hword c List.mem_cons_self) _

theorem brace_not_mem_of_blanks (hb : Blanks b) : '\x7b' ∉ b := fun h =>
  absurd (hb _ h) (by decide)

end

/-- Neither the first word of the text nor the second is read as a name, and accessors do not stand
in front. -/
structure Quiet (s : List Char) : Prop where
  first : name? (trimStart s) = none
  accessors : afterAccessors? s = none
  second : name? (trimStart (s.dropWhile (!isBlank ·))) = none

namespace Quiet

variable {s t : List Char} {c : Char}

theorem nil : Quiet [] := ⟨rfl, rfl, rfl⟩

theorem name? (h : Quiet s) : name? s = none := by
  cases s with
  | nil => rfl
  | cons c s =>
    by_cases hc : isBlank c = true
    · rw [Definition.name?, if_pos hc]
    · have hfirst := h.first
      rw [trimStart_cons (by simpa using hc)] at hfirst
      exact hfirst

theorem name?_cons (h : Quiet s) (c : Char) : Definition.name? (c :: s) = none := by
  rw [Definition.name?, h.name?, h.accessors]
  exact ite_self _

/-- A text stays quiet with a character in front that opens no accessors. -/
theorem cons (h : Quiet s) (hc : isBlank c = false) (hacc : afterAccessors? (c :: s) = none) :
    Quiet (c :: s) where
  first := by
    rw [trimStart_cons hc]
    exact h.name?_cons c
  accessors := hacc
  second := by
    rw [List.dropWhile_cons_of_pos (by simp [hc])]
    exact h.second

theorem blank (h : Quiet s) (hc : isBlank c = true) : Quiet (c :: s) := by
  have hb : Blanks [c] := by simpa [Blanks] using hc
  have htrim : trimStart (c :: s) = trimStart s := trimStart_append hb s
  constructor
  · rw [htrim]
    exact h.first
  · exact (afterAccessors?_blanks hb s).trans h.accessors
  · rw [List.dropWhile_cons_of_neg (by simp [hc]), htrim]
    exact h.first

/-- So it does with a text in front that has no opening brace in it. -/
theorem append (h : Quiet t) (hs : '\x7b' ∉ s) : Quiet (s ++ t) := by
  induction s with
  | nil => exact h
  | cons c s ih =>
    have hrest := ih fun hmem => hs (List.mem_cons_of_mem _ hmem)
    by_cases hc : isBlank c = true
    · exact hrest.blank hc
    · have hword : isBlank c = false := by simpa using hc
      have hbrace : c ≠ '\x7b' := fun heq => hs (heq ▸ List.mem_cons_self)
      exact hrest.cons hword (afterAccessors?_cons hword hbrace)

/-- A brace opens no accessors if something else follows it. -/
theorem brace (h : Quiet s) (hs : ∀ c, (trimStart s).head? = some c → c ≠ 'g') :
    Quiet ('\x7b' :: s) := by
  refine h.cons (by decide) ?_
  cases hacc : afterAccessors? ('\x7b' :: s) with
  | none => rfl
  | some rest =>
    have hopen : after? "\x7b".toList (trimStart ('\x7b' :: s)) = some s := after?_append ['\x7b'] s
    simp only [afterAccessors?, hopen, Option.bind_eq_bind, Option.bind_some,
      Option.bind_eq_some_iff] at hacc
    obtain ⟨t, ht, -⟩ := hacc
    exact absurd rfl (hs 'g' (by rw [after?_eq_some_iff.mp ht]; rfl))

/-- Of two words that follow each other, neither is a name if the first ends without accessors and
the second stands behind blanks. -/
theorem words {b₁ type b₂ w : List Char} (hb₁ : Separates b₁) (htype : IsToken type)
    (hbrace : '\x7b' ∉ type) (hb₂ : Separates b₂) (hw : IsToken w) (hbrace' : '\x7b' ∉ w)
    (s : List Char) : Quiet (b₁ ++ (type ++ (b₂ ++ (w ++ s)))) := by
  have hnone : Definition.name? (type ++ (b₂ ++ (w ++ s))) = none := by
    refine name?_eq_none htype.2 hbrace (hb₂.ends _) ?_
    rw [afterAccessors?_blanks hb₂.2, afterAccessors?_word hw hbrace']
  have htrim : trimStart (b₁ ++ (type ++ (b₂ ++ (w ++ s)))) = type ++ (b₂ ++ (w ++ s)) := by
    rw [trimStart_append hb₁.2, trimStart_word htype]
  constructor
  · rw [htrim]
    exact hnone
  · rw [afterAccessors?_blanks hb₁.2, afterAccessors?_word htype hbrace]
  · have hstop : (b₁ ++ (type ++ (b₂ ++ (w ++ s)))).dropWhile (!isBlank ·) =
        b₁ ++ (type ++ (b₂ ++ (w ++ s))) :=
      dropWhile_run (s := []) (List.forall_mem_nil _) fun c hc => by
        simp [hb₁.ends _ c hc]
    rw [hstop, htrim]
    exact hnone

end Quiet

/-! ### What is declared -/

section

variable {b b₁ b₂ w t name opening member members accessors : List Char}

theorem eq_trimStart_of_afterBlanks? {s rest : List Char} (h : afterBlanks? s = some rest) :
    rest = trimStart s := by
  obtain ⟨b, hb, rfl, hrest⟩ := afterBlanks?_eq_some_iff.mp h
  rw [trimStart_append hb.2]
  cases rest with
  | nil => rfl
  | cons c rest => exact (trimStart_cons (hrest c rfl) rest).symm

/-- What starts with `public` declares nothing if a quiet text follows behind blanks. -/
theorem declarationAt?_public (hb : Blanks b) (ht : Quiet t) (hstart : trimStart t = t) :
    declarationAt? ("public".toList ++ (b ++ t)) = none := by
  cases hat : declarationAt? ("public".toList ++ (b ++ t)) with
  | none => rfl
  | some found =>
    simp only [declarationAt?, after?_append, Option.bind_eq_bind, Option.bind_some,
      Option.bind_eq_some_iff] at hat
    obtain ⟨u, hu, ⟨type, v⟩, htype, x, hx, ⟨name, rest⟩, hname, -⟩ := hat
    obtain rfl : u = t := by
      rw [eq_trimStart_of_afterBlanks? hu, trimStart_append hb, hstart]
    obtain ⟨hword, rfl, hends⟩ := token?_eq_some_iff.mp htype
    have hbehind : (type ++ v).dropWhile (!isBlank ·) = v :=
      dropWhile_run (fun c hc => by simp [hword.2 c hc]) fun c hc => by simp [hends c hc]
    have hsecond := ht.second
    rw [hbehind, ← eq_trimStart_of_afterBlanks? hx, hname] at hsecond
    cases hsecond

/-- A word in front of a quiet text declares nothing, even if it is `public` or ends like that. -/
theorem declarations_word (hw : ∀ c ∈ w, isBlank c = false) (hb : Blanks b) (ht : Quiet t)
    (hstart : trimStart t = t) (hends : ∀ c, (b ++ t).head? = some c → c ∉ "public".toList) :
    declarations (w ++ (b ++ t)) = declarations t := by
  induction w with
  | nil => exact declarations_calm (calm_blanks hb) t
  | cons c w ih =>
    rw [← ih fun d hd => hw d (List.mem_cons_of_mem _ hd)]
    refine declarations_of_none ?_
    change declarationAt? (c :: w ++ (b ++ t)) = none
    by_cases hopens : opens (c :: w ++ (b ++ t)) = true
    · obtain ⟨d, rest, hd, heq⟩ := opens_eq_true_iff.mp hopens
      have hsame : c :: w = "public".toList := by
        rcases List.append_eq_append_iff.mp heq with ⟨x, hx, hbehind⟩ | ⟨x, hx, hbehind⟩
        · -- The rest of `public` would have to follow the word.
          cases x with
          | nil => rw [hx, List.append_nil]
          | cons y x =>
            refine absurd ?_ (hends y (by rw [hbehind]; rfl))
            rw [hx]
            simp
        · -- The word would go on with a blank.
          cases x with
          | nil => rw [hx, List.append_nil]
          | cons y x =>
            obtain ⟨rfl, -⟩ := List.cons.inj hbehind
            have hword := hw d (by rw [hx]; simp)
            rw [hd] at hword
            cases hword
      rw [hsame]
      exact declarationAt?_public hb ht hstart
    · exact declarationAt?_eq_none_of_not_opens (by simpa using hopens)

/-- With a quiet text behind the accessors, a word in front of them is read as the name. -/
theorem name?_of_quiet (hname : IsToken name) (hacc : IsAccessors accessors) (ht : Quiet t) :
    name? (name ++ (accessors ++ t)) = some (name, t) := by
  have hfound : afterAccessors? (accessors ++ t) = some t :=
    afterAccessors?_eq_some_iff.mpr ⟨accessors, hacc, rfl⟩
  have hnone : name? (accessors ++ t) = none := by
    obtain ⟨hb₁, hb₂, hb₃, hb₄⟩ := hacc
    rename_i b₁ b₂ b₃ b₄
    have hparts : '\x7b' ∉ b₂ ++ ("get;".toList ++ (b₃ ++ ("set;".toList ++
        (b₄ ++ "\x7d".toList)))) := by
      simp [brace_not_mem_of_blanks, hb₂, hb₃, hb₄]
    cases b₁ with
    | nil => exact (ht.append hparts).name?_cons _
    | cons c b₁ => exact if_pos (hb₁ c List.mem_cons_self)
  obtain ⟨hne, hword⟩ := hname
  induction name with
  | nil => exact absurd rfl hne
  | cons c name ih =>
    have hc : ¬ isBlank c = true := by simp [hword c List.mem_cons_self]
    rw [List.cons_append, name?, if_neg hc]
    cases name with
    | nil =>
      rw [List.nil_append, hnone, hfound]
      rfl
    | cons d name =>
      rw [ih (List.cons_ne_nil _ _) fun x hx => hword x (List.mem_cons_of_mem _ hx)]

/-- A member is declared, and the reader goes on behind it. -/
theorem declarations_member {p : Property}
    (hmember : IsDeclaration p.type.toList p.name.toList member) (ht : Quiet t) :
    declarations (member ++ t) = p :: declarations t := by
  obtain ⟨hb₁, htype, hb₂, hname, hacc⟩ := hmember
  refine declarations_of_some ?_
  simp only [List.append_assoc]
  rw [declarationAt?_append hb₁ htype hb₂ (hname.head _), name?_of_quiet hname hacc ht,
    Option.map_some, String.ofList_toList, String.ofList_toList, Property.of_name_type]

theorem IsDeclaration.quiet {p : Property} (htype : IsBare p.type.toList)
    (hname : IsBare p.name.toList) (hmember : IsDeclaration p.type.toList p.name.toList member)
    (t : List Char) : Quiet (member ++ t) := by
  obtain ⟨hb₁, -, hb₂, -, -⟩ := hmember
  simp only [List.append_assoc]
  exact (Quiet.words hb₁ htype.1 htype.2.1 hb₂ hname.1 hname.2.1 _).append (by decide)

theorem IsMembers.quiet {ps : List Property} (h : IsMembers ps members) (ht : Quiet t) :
    Quiet (members ++ t) := by
  cases h with
  | nil => exact ht
  | cons htype hname hmember =>
    rw [List.append_assoc]
    exact hmember.quiet htype hname _

/-- The members of a class are declared in order. -/
theorem declarations_members {ps : List Property} (h : IsMembers ps members) (ht : Quiet t) :
    declarations (members ++ t) = ps ++ declarations t := by
  induction h with
  | nil => rfl
  | cons _ _ hmember hb hrest ih =>
    have hquiet := (hrest.quiet ht).append (brace_not_mem_of_blanks hb)
    simp only [List.append_assoc]
    rw [declarations_member hmember hquiet, declarations_calm (calm_blanks hb), ih]
    rfl

theorem IsOpening.quiet (h : IsOpening opening) (hname : IsWordRun name) (t : List Char) :
    Quiet (opening ++ (name ++ t)) := by
  obtain ⟨hb₁, hb₂⟩ := h
  simp only [List.append_assoc]
  have hclass : IsToken "class".toList := by decide
  exact (Quiet.words hb₁ hclass (by decide) hb₂ hname.isToken
    hname.brace_not_mem t).append (by decide)

/-- A class header declares nothing. -/
theorem declarations_opening (h : IsOpening opening) (hname : IsWordRun name) (hb : Blanks b)
    (ht : Quiet t) (hhead : ∀ c, (trimStart t).head? = some c → c ≠ 'g') :
    declarations (opening ++ (name ++ (b ++ ("\x7b".toList ++ t)))) = declarations t := by
  have hbody : Quiet ("\x7b".toList ++ t) := ht.brace hhead
  have hafter : Quiet (name ++ (b ++ ("\x7b".toList ++ t))) :=
    (hbody.append (brace_not_mem_of_blanks hb)).append hname.brace_not_mem
  have hpublic : IsToken "public".toList := by decide
  have hclassWord : IsToken "class".toList := by decide
  have hblank : ∀ c, isBlank c = true → c ∉ "public".toList := by
    intro c hc hmem
    rw [hpublic.2 c hmem] at hc
    cases hc
  have hends : ∀ c, (b ++ ("\x7b".toList ++ t)).head? = some c → c ∉ "public".toList := by
    intro c hc
    cases b with
    | nil =>
      cases hc
      decide
    | cons d b =>
      cases hc
      exact hblank c (hb c List.mem_cons_self)
  obtain ⟨hb₁, hb₂⟩ := h
  have hclass := (hafter.append (brace_not_mem_of_blanks hb₂.2)).append
    (show '\x7b' ∉ "class".toList by decide)
  simp only [List.append_assoc]
  rw [declarations_word hpublic.2 hb₁.2 hclass rfl fun c hc => hblank c (hb₁.ends _ c hc),
    declarations_word hclassWord.2 hb₂.2 hafter (trimStart_word hname.isToken _)
      fun c hc => hblank c (hb₂.ends _ c hc),
    declarations_word hname.isToken.2 hb hbody rfl hends]
  have hbrace : calm "\x7b".toList = true := by decide
  exact declarations_calm hbrace t

/-! ### Reading undoes writing -/

variable {e : Entity} {es : List Entity} {s text : List Char}

/-- Members and a closing brace do not start like an accessor. -/
theorem IsMembers.head {ps : List Property} (h : IsMembers ps members) (t : List Char) :
    ∀ c, (trimStart (members ++ ("\x7d".toList ++ t))).head? = some c → c ≠ 'g' := by
  intro c hc
  cases h with
  | nil =>
    cases hc
    decide
  | cons _ _ hmember =>
    cases hmember
    cases hc
    decide

/-- What is declared in a class are its members. -/
theorem declarations_class (h : IsClass e s) (ht : Quiet t) :
    declarations (s ++ t) = e.properties ++ declarations t := by
  obtain ⟨hopening, hname, hb₁, hb₂, hmembers⟩ := h
  rename_i opening b₁ b₂ members
  have hclosed : Quiet ("\x7d".toList ++ t) := ht.append (by decide)
  have hbody := hmembers.quiet hclosed
  have hhead : ∀ c, (trimStart (b₂ ++ (members ++ ("\x7d".toList ++ t)))).head? = some c →
      c ≠ 'g' := by
    intro c hc
    rw [trimStart_append hb₂] at hc
    exact hmembers.head t c hc
  simp only [List.append_assoc]
  rw [declarations_opening hopening hname hb₁ (hbody.append (brace_not_mem_of_blanks hb₂)) hhead,
    declarations_calm (calm_blanks hb₂), declarations_members hmembers hclosed,
    declarations_calm (by decide)]

theorem IsClass.quiet (h : IsClass e s) (t : List Char) : Quiet (s ++ t) := by
  obtain ⟨hopening, hname, -, -, -⟩ := h
  simp only [List.append_assoc]
  exact hopening.quiet hname _

theorem IsListing.quiet (h : IsListing es text) : Quiet text := by
  cases h with
  | nil hb =>
    rw [← List.append_nil text]
    exact Quiet.nil.append (brace_not_mem_of_blanks hb)
  | cons hb hclass => exact (hclass.quiet _).append (brace_not_mem_of_blanks hb)

/-- What is declared in a listing are the members of its classes. -/
theorem declarations_listing (h : IsListing es text) :
    declarations text = es.flatMap (·.properties) := by
  induction h with
  | nil hb => exact declarations_blanks hb
  | cons hb hclass hrest ih =>
    rw [declarations_calm (calm_blanks hb), declarations_class hclass hrest.quiet, ih]
    rfl

/-- The name in a listing is that of its first class. -/
theorem className?_listing (h : IsListing (e :: es) text) :
    className? text = some e.name.toList := by
  obtain _ | ⟨hb, hclass, hrest⟩ := h
  obtain ⟨hopening, hname, hb₁, hb₂, hmembers⟩ := hclass
  rename_i b t opening b₁ b₂ members
  rw [className?_calm (calm_blanks hb)]
  simp only [List.append_assoc]
  have hat : classNameAt? (opening ++ (e.name.toList ++ (b₁ ++ ("\x7b".toList ++ (b₂ ++
      (members ++ ("\x7d".toList ++ t))))))) = some e.name.toList := by
    refine classNameAt?_eq_some_iff.mpr ⟨opening, _, hopening, hname, fun c hc => ?_, rfl⟩
    cases b₁ with
    | nil =>
      cases hc
      decide +kernel
    | cons d b₁ =>
      cases hc
      rw [Bool.eq_false_iff]
      intro hword
      have hblank := hb₁ c List.mem_cons_self
      rw [isBlank_eq_false_of_isWord hword] at hblank
      cases hblank
  exact className?_eq_some_iff.mpr ⟨0, hat, fun j hj => absurd hj (Nat.not_lt_zero j)⟩

end

/-- **Reading undoes writing.** A text that lists classes, one or more, describes the entity that
has the name of the first and the members of all of them in order, whatever the names and types
are. -/
theorem parse_of_listing {e : Entity} {es : List Entity} {text : String}
    (h : IsListing (e :: es) text.toList) :
    Entity.parse text = .ok ⟨e.name, (e :: es).flatMap (·.properties)⟩ := by
  rw [Entity.parse, className?_listing h, declarations_listing h]
  exact congrArg (fun name => Except.ok (Entity.mk name _)) String.ofList_toList

/-- Two classes that are called like the word in front of `class`, with members that are called and
typed like other words of the text. The second class is glued to the first one. -/
theorem parse_of_listing_of_keywords :
    let first : Entity := ⟨"public", [.of "class" "public", .of "set;public" "get;"]⟩
    let second : Entity := ⟨"unpublic", []⟩
    let text := "\npublic class public \x7b public public class\x7bget;set;\x7dpublic get; set;public " ++
      "\x7b get; set;\x7d \x7dpublic class unpublic \x7b\x7d"
    IsListing [first, second] text.toList ∧ Entity.parse text = .ok first := by
  intro first second text
  have hnone : Blanks [] := List.forall_mem_nil _
  have hspace : Separates " ".toList := by decide
  have hline : Blanks "\n".toList := by decide
  have hopening := IsOpening.mk hspace hspace
  have hglued : IsDeclaration "public".toList "class".toList _ :=
    .mk hspace (by decide) hspace (by decide) (.mk hnone hnone hnone hnone)
  have hspaced : IsDeclaration "get;".toList "set;public".toList _ :=
    .mk hspace (by decide) hspace (by decide) (.mk hspace.2 hspace.2 hspace.2 hnone)
  have hmembers : IsMembers first.properties _ :=
    .cons (by decide) (by decide) hglued hnone
      (.cons (by decide) (by decide) hspaced hspace.2 .nil)
  have hfirst : IsClass first _ :=
    .mk hopening ⟨by decide, List.all_eq_true.mp (by decide +kernel)⟩ hspace.2 hspace.2 hmembers
  have hsecond : IsClass second _ :=
    .mk hopening ⟨by decide, List.all_eq_true.mp (by decide +kernel)⟩ hspace.2 hnone .nil
  have hlisting : IsListing [first, second] text.toList := by
    refine cast (congrArg (IsListing [first, second]) ?_)
      (IsListing.cons hline hfirst (.cons hnone hsecond (.nil hnone)))
    decide +kernel
  exact ⟨hlisting, parse_of_listing hlisting⟩

end Scaffold.Definition
