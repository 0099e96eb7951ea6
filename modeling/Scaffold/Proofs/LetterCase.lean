import Scaffold.Rule

/-!
# Letter case of type names

A type is recognized by its lower-cased name. Lower-casing is that of all Unicode, where letters
beyond ASCII can become ASCII letters and one letter can become two; but no text with such a letter
in it becomes the name of a type that is recognized. So a type is recognized exactly if it is
spelled like one of these names, up to the case of the letters from `A` to `Z`.

* `lowerChar_of_ascii`, `exists_not_isPlainLetter`: the lower case of a character in ASCII and of
  one beyond it.
* `lowercase_eq_iff`: which texts are lower-cased to a text of plain letters.
* `initializer_eq_iff`: an initializer tells the type that it belongs to.
* `Branch.serves_iff`: which of the rules on a property depend on its name.
* `types_ignore_ascii_case`: all of this about the names of types.
-/

namespace Scaffold

namespace Text

variable {c d : Char}

/-! ### Letters in ASCII -/

/-- A small letter from `a` to `z` that only ASCII letters are lower-cased to. The sign for Kelvin
becomes `k`, and no other character beyond ASCII becomes a letter from `a` to `z` by itself. -/
def isPlainLetter (c : Char) : Bool := 'a' ≤ c && c ≤ 'z' && c != 'k'

theorem toNat_of_isPlainLetter (h : isPlainLetter c = true) :
    0x61 ≤ c.toNat ∧ c.toNat ≤ 0x7A ∧ c.toNat ≠ 0x6B := by
  simp only [isPlainLetter, Bool.and_eq_true, decide_eq_true_eq, bne_iff_ne] at h
  obtain ⟨⟨hlow, hhigh⟩, hk⟩ := h
  refine ⟨UInt32.le_iff_toNat_le.mp hlow, UInt32.le_iff_toNat_le.mp hhigh, fun heq => hk ?_⟩
  rw [← Char.ofNat_toNat c, heq]

theorem toNat_toLower (c : Char) :
    c.toLower.toNat =
      if 0x41 ≤ c.toNat ∧ c.toNat ≤ 0x5A then c.toNat + 0x20 else c.toNat := by
  unfold Char.toLower
  split
  · next h =>
    have hlow : 0x41 ≤ c.toNat := UInt32.le_iff_toNat_le.mp h.1
    have hhigh : c.toNat ≤ 0x5A := UInt32.le_iff_toNat_le.mp h.2
    rw [if_pos ⟨hlow, hhigh⟩]
    change (c.val + 0x20).toNat = c.val.toNat + 0x20
    rw [UInt32.toNat_add]
    exact Nat.mod_eq_of_lt (Nat.lt_of_le_of_lt (Nat.add_le_add_right hhigh _) (by decide))
  · next h =>
    rw [if_neg]
    exact fun hc => h ⟨UInt32.le_iff_toNat_le.mpr hc.1, UInt32.le_iff_toNat_le.mpr hc.2⟩

/-- What becomes a plain letter in ASCII is in ASCII itself. -/
theorem lt_of_isPlainLetter_toLower (h : isPlainLetter c.toLower = true) : c.toNat < 0x80 := by
  have hrange := toNat_of_isPlainLetter h
  rw [toNat_toLower] at hrange
  split at hrange
  · omega
  · omega

/-! ### The table -/

theorem CaseRun.holds_iff {r : CaseRun} {n : Nat} :
    r.holds n = true ↔ r.first ≤ n ∧ n ≤ r.last ∧ (n - r.first) % r.stride = 0 := by
  simp only [holds, Bool.and_eq_true, Nat.ble_eq, Nat.beq_eq, and_assoc]

/-- The small letters of capitals beyond ASCII are beyond ASCII, too, except for one. -/
theorem image_of_mem_caseRuns : ∀ r ∈ caseRuns,
    r.last < 0x80 ∨ 0x80 ≤ r.image ∨ r.image = 0x6B ∧ r.last = r.first := by
  decide +kernel

/-- A property of all characters in ASCII, by code points. -/
theorem forall_ascii {P : Char → Prop} (h : ∀ n < 0x80, P (Char.ofNat n)) (hc : c.toNat < 0x80) :
    P c := by
  have hchar := h c.toNat hc
  rwa [Char.ofNat_toNat] at hchar

/-- In ASCII, lower-casing is that of ASCII. -/
theorem lowerChar_of_ascii (h : c.toNat < 0x80) : lowerChar c = [c.toLower] :=
  forall_ascii (P := fun c => lowerChar c = [c.toLower]) (by decide +kernel) h

/-- The character with the given code point, unless there is none. -/
theorem toNat_ofNat (n : Nat) : (Char.ofNat n).toNat = n ∨ (Char.ofNat n).toNat = 0 := by
  rw [Char.ofNat]
  by_cases hvalid : n.isValidChar
  · rw [dif_pos hvalid]
    exact Or.inl rfl
  · rw [dif_neg hvalid]
    exact Or.inr rfl

theorem not_isPlainLetter_ofNat {n : Nat} (h : 0x80 ≤ n ∨ n = 0x6B) :
    isPlainLetter (Char.ofNat n) = false := by
  rw [Bool.eq_false_iff]
  intro hplain
  have hrange := toNat_of_isPlainLetter hplain
  rcases toNat_ofNat n with heq | heq
  · omega
  · omega

/-- Beyond ASCII, the lower case of a character does not consist of plain letters. -/
theorem exists_not_isPlainLetter (h : 0x80 ≤ c.toNat) :
    ∃ d ∈ lowerChar c, isPlainLetter d = false := by
  unfold lowerChar
  split
  · exact ⟨Char.ofNat 0x307, by simp, by decide⟩
  · split
    · next r hfind =>
      refine ⟨_, List.mem_singleton_self _, not_isPlainLetter_ofNat ?_⟩
      have hholds := List.find?_some hfind
      obtain ⟨hlow, hhigh, -⟩ := CaseRun.holds_iff.mp hholds
      rcases image_of_mem_caseRuns r (List.mem_of_find?_eq_some hfind) with
        hlast | himage | ⟨himage, hone⟩
      · omega
      · omega
      · omega
    · refine ⟨c, List.mem_singleton_self _, ?_⟩
      rw [Bool.eq_false_iff]
      intro hplain
      have hrange := toNat_of_isPlainLetter hplain
      omega

/-! ### Texts -/

/-- A text is lower-cased to a text of plain letters exactly if it is one in ASCII. -/
theorem lowercaseAfter_eq_iff {s t : List Char} (ht : ∀ d ∈ t, isPlainLetter d = true)
    (before : List Char) : lowercaseAfter before s = t ↔ s.map Char.toLower = t := by
  induction s generalizing t before with
  | nil => exact Iff.rfl
  | cons c s ih =>
    rw [lowercaseAfter, List.map_cons]
    constructor
    · rintro rfl
      obtain ⟨hfirst, hrest⟩ := List.forall_mem_append.mp ht
      by_cases hsigma : c = 'Σ'
      · -- Neither form of the small sigma is a plain letter.
        have hforms : isPlainLetter 'ς' = false ∧ isPlainLetter 'σ' = false := by decide
        rw [if_pos hsigma] at hfirst
        split at hfirst
        · exact absurd (hfirst _ (List.mem_singleton_self _)) (by rw [hforms.1]; decide)
        · exact absurd (hfirst _ (List.mem_singleton_self _)) (by rw [hforms.2]; decide)
      · rw [if_neg hsigma] at hfirst ⊢
        have hascii : c.toNat < 0x80 := by
          refine Nat.lt_of_not_le fun hbeyond => ?_
          obtain ⟨d, hd, hplain⟩ := exists_not_isPlainLetter hbeyond
          rw [hfirst d hd] at hplain
          cases hplain
        rw [lowerChar_of_ascii hascii, (ih hrest _).mp rfl]
        rfl
    · rintro rfl
      obtain ⟨hfirst, hrest⟩ := List.forall_mem_cons.mp ht
      have hascii := lt_of_isPlainLetter_toLower hfirst
      have hsigma : c ≠ 'Σ' := by
        rintro rfl
        exact absurd hascii (by decide)
      rw [if_neg hsigma, lowerChar_of_ascii hascii, (ih hrest _).mpr rfl]
      rfl

/-- The texts are the same up to the case of the letters from `A` to `Z`. -/
def SameButCase (s t : String) : Prop := s.toList.map Char.toLower = t.toList.map Char.toLower

instance (s t : String) : Decidable (SameButCase s t) :=
  inferInstanceAs (Decidable (s.toList.map Char.toLower = t.toList.map Char.toLower))

variable {s t : String}

theorem map_toLower_of_plain (ht : ∀ d ∈ t.toList, isPlainLetter d = true) :
    t.toList.map Char.toLower = t.toList := by
  have hsmall : ∀ d ∈ t.toList, d.toLower = d := by
    intro d hd
    have hrange := toNat_of_isPlainLetter (ht d hd)
    rw [← Char.ofNat_toNat d.toLower, toNat_toLower, if_neg (by omega), Char.ofNat_toNat]
  rw [List.map_congr_left hsmall, List.map_id']

/-- A text is lower-cased to a text of plain letters exactly if they are the same up to the case of
the letters from `A` to `Z`. -/
theorem lowercase_eq_iff (ht : ∀ d ∈ t.toList, isPlainLetter d = true) :
    String.ofList (lowercase s.toList) = t ↔ SameButCase s t := by
  rw [SameButCase, map_toLower_of_plain ht, ← String.toList_inj, String.toList_ofList]
  exact lowercaseAfter_eq_iff ht []

/-- Then it is in ASCII, too. -/
theorem SameButCase.ascii (h : SameButCase s t) (ht : ∀ d ∈ t.toList, isPlainLetter d = true)
    (hc : c ∈ s.toList) : c.toNat < 0x80 := by
  apply lt_of_isPlainLetter_toLower
  apply ht
  rw [← map_toLower_of_plain ht, ← h]
  exact List.mem_map_of_mem hc

end Text

open Text

/-! ### Types that are recognized -/

/-- The names of the types that are recognized are made of plain letters. -/
theorem isPlainLetter_of_mem_initializers :
    ∀ entry ∈ initializers, ∀ d ∈ entry.1.toList, isPlainLetter d = true := by
  have hall : (initializers.all fun entry => entry.1.toList.all isPlainLetter) = true := by decide
  intro entry hentry
  exact List.all_eq_true.mp (List.all_eq_true.mp hall entry hentry)

theorem canonicalType_eq_iff {entry : String × String} (h : entry ∈ initializers) {type : String} :
    canonicalType type = entry.1 ↔ SameButCase type entry.1 :=
  lowercase_eq_iff (isPlainLetter_of_mem_initializers entry h)

/-- An initializer tells the type that it belongs to. -/
theorem initializer_eq_iff {entry : String × String} (h : entry ∈ initializers) {type : String} :
    initializer type = entry.2 ↔ SameButCase type entry.1 := by
  have hnames : ∀ e ∈ initializers, ∀ e' ∈ initializers, e.1 = e'.1 → e = e' := by decide
  have hvalues : ∀ e ∈ initializers, ∀ e' ∈ initializers, e.2 = e'.2 → e = e' := by decide
  have hfallback : ∀ e ∈ initializers, fallbackInitializer ≠ e.2 := by decide
  rw [← canonicalType_eq_iff h]
  rcases initializer_cases type with ⟨known, hknown, hname, hvalue⟩ | ⟨hother, hvalue⟩
  · rw [hname, hvalue]
    constructor
    · exact fun heq => congrArg Prod.fst (hvalues known hknown entry h heq)
    · exact fun heq => congrArg Prod.snd (hnames known hknown entry h heq)
  · rw [hvalue]
    exact iff_of_false (hfallback entry h) (hother entry h)

theorem initializer_eq_fallback_iff {type : String} :
    initializer type = fallbackInitializer ↔
      ∀ entry ∈ initializers, ¬ SameButCase type entry.1 := by
  have hfallback : ∀ e ∈ initializers, fallbackInitializer ≠ e.2 := by decide
  constructor
  · intro hvalue entry h hsame
    exact hfallback entry h (hvalue.symm.trans ((initializer_eq_iff h).mpr hsame))
  · intro hother
    rcases initializer_cases type with ⟨known, hknown, -, hvalue⟩ | ⟨-, hvalue⟩
    · exact absurd ((initializer_eq_iff hknown).mp hvalue) (hother known hknown)
    · exact hvalue

/-! ### Rules that depend on the name -/

/-- The ways in which the rules on a property depend on its name. -/
inductive Branch where
  /-- What is told from the names of texts. -/
  | text
  /-- What is told from the names of dates. -/
  | date
  | other
  deriving DecidableEq, Repr

namespace Branch

/-- The rules that come from the name of a property. -/
def rules (p : Property) : Branch → List Rule
  | .text =>
    (if p.mentions "Email" then [.emailAddress] else []) ++
    (if p.mentions "Name" then [.maximumLength maximumNameLength] else []) ++
    (if p.mentions "Status" then [.activeOrInactive] else [])
  | .date =>
    if p.mentions "Date" && !p.mentions "Created" && !p.mentions "Updated" then [.todayOrLater]
    else []
  | .other => []

/-- Whatever a property of the type is called, its rules are those of the branch. -/
def Serves (b : Branch) (type : String) : Prop :=
  ∀ name, (Property.of name type).rules = .notEmpty :: b.rules (.of name type)

/-- The branch for a type with the given initializer. -/
def ofInitializer (value : String) : Branch :=
  if value = "string.Empty" then .text
  else if value = "DateTime.MinValue" then .date
  else .other

theorem ofInitializer_eq_text_iff {value : String} :
    ofInitializer value = .text ↔ value = "string.Empty" := by
  unfold ofInitializer
  split
  · next h => simp [h]
  · next h => split <;> simp [h]

theorem ofInitializer_eq_date_iff {value : String} :
    ofInitializer value = .date ↔ value = "DateTime.MinValue" := by
  unfold ofInitializer
  split
  · next h => simp [h]
  · split
    · next h => simp [h]
    · next h => simp [h]

theorem ofInitializer_eq_other_iff {value : String} :
    ofInitializer value = .other ↔ value ≠ "string.Empty" ∧ value ≠ "DateTime.MinValue" := by
  unfold ofInitializer
  split
  · next h => simp [h]
  · next hne =>
    split
    · next h => simp [h]
    · next h => simp [hne, h]

/-- The rules on a property are those of the branch for the initializer of its type. -/
theorem rules_ofInitializer (p : Property) :
    p.rules = .notEmpty :: (ofInitializer (initializer p.type)).rules p := by
  have hstring : ("string", "string.Empty") ∈ initializers := by decide
  have hdatetime : ("datetime", "DateTime.MinValue") ∈ initializers := by decide
  have htext : initializer p.type = "string.Empty" ↔ canonicalType p.type = "string" :=
    (initializer_eq_iff hstring).trans (canonicalType_eq_iff hstring).symm
  have hdate : initializer p.type = "DateTime.MinValue" ↔ canonicalType p.type = "datetime" :=
    (initializer_eq_iff hdatetime).trans (canonicalType_eq_iff hdatetime).symm
  simp only [ofInitializer, htext, hdate]
  unfold Property.rules Property.extraRules
  split
  · next heq => simp only [heq]; rfl
  · next heq => simp only [heq]; rfl
  · next h₁ h₂ => rw [if_neg h₁, if_neg h₂]; rfl

/-- Every branch has something else to say about one and the same name. -/
theorem eq_of_rules_eq {b b' : Branch} {type : String}
    (h : b.rules (.of "EmailDate" type) = b'.rules (.of "EmailDate" type)) : b = b' := by
  have hname : ∀ part, (Property.of "EmailDate" type).mentions part =
      occursIn part.toList "EmailDate".toList := fun _ => rfl
  have htext : Branch.text.rules (.of "EmailDate" type) = [.emailAddress] := by
    simp only [rules, hname]
    decide
  have hdate : Branch.date.rules (.of "EmailDate" type) = [.todayOrLater] := by
    simp only [rules, hname]
    decide
  have hother : Branch.other.rules (.of "EmailDate" type) = [] := rfl
  cases b <;> cases b' <;> first | rfl | simp [htext, hdate, hother] at h

theorem serves_iff {b : Branch} {type : String} :
    b.Serves type ↔ b = ofInitializer (initializer type) := by
  constructor
  · intro h
    exact eq_of_rules_eq (List.cons.inj ((h "EmailDate").symm.trans (rules_ofInitializer _))).2
  · rintro rfl name
    exact rules_ofInitializer _

end Branch

/-- **Types are recognized up to the case of ASCII letters.** A type has an initializer of its own
exactly if it is spelled like one in the table, but for the case of the letters from `A` to `Z`, and
then it is the one that stands there; a type with any other character in it has none. The rules on
its properties are those of texts or of dates exactly if its initializer is. -/
theorem types_ignore_ascii_case (type : String) :
    (initializer type ∈ initializers.map Prod.snd ↔
      ∃ entry ∈ initializers, SameButCase type entry.1) ∧
    (initializer type ∉ initializers.map Prod.snd ↔ initializer type = fallbackInitializer) ∧
    (∀ entry ∈ initializers, initializer type = entry.2 ↔ SameButCase type entry.1) ∧
    (initializer type ≠ fallbackInitializer → ∀ c ∈ type.toList, c.toNat < 0x80) ∧
    (Branch.text.Serves type ↔ initializer type = "string.Empty") ∧
    (Branch.date.Serves type ↔ initializer type = "DateTime.MinValue") ∧
    (Branch.other.Serves type ↔
      initializer type ≠ "string.Empty" ∧ initializer type ≠ "DateTime.MinValue") := by
  have hknown : initializer type ∈ initializers.map Prod.snd ↔
      ∃ entry ∈ initializers, SameButCase type entry.1 := by
    rw [List.mem_map]
    refine exists_congr fun entry => and_congr_right fun h => ?_
    rw [eq_comm, initializer_eq_iff h]
  have hfallback : initializer type = fallbackInitializer ↔
      ¬ ∃ entry ∈ initializers, SameButCase type entry.1 := by
    rw [initializer_eq_fallback_iff]
    simp only [not_exists, not_and]
  refine ⟨hknown, (not_congr hknown).trans hfallback.symm, ?_, ?_, ?_, ?_, ?_⟩
  · exact fun entry h => initializer_eq_iff h
  · intro hvalue c hc
    obtain ⟨entry, h, hsame⟩ := Classical.not_not.mp (mt hfallback.mpr hvalue)
    exact hsame.ascii (isPlainLetter_of_mem_initializers entry h) hc
  · rw [Branch.serves_iff, eq_comm, Branch.ofInitializer_eq_text_iff]
  · rw [Branch.serves_iff, eq_comm, Branch.ofInitializer_eq_date_iff]
  · rw [Branch.serves_iff, eq_comm, Branch.ofInitializer_eq_other_iff]

/-- A type in mixed case is recognized; one with a dotted capital I is not, although lower-casing
makes an `i` of it and another character. -/
theorem types_ignore_ascii_case_of_spellings :
    ("datetime", "DateTime.MinValue") ∈ initializers ∧ SameButCase "dateTIME" "datetime" ∧
      initializer "dateTIME" = "DateTime.MinValue" ∧ initializer "dateTIME" ≠ fallbackInitializer ∧
      (∀ c ∈ "dateTIME".toList, c.toNat < 0x80) ∧ Branch.date.Serves "dateTIME" ∧
      initializer "dateT\u0130ME" = fallbackInitializer ∧ Branch.other.Serves "dateT\u0130ME" := by
  obtain ⟨-, -, hvalues, hascii, -, hdate, -⟩ := types_ignore_ascii_case "dateTIME"
  obtain ⟨hknown, hfallback, -, -, -, -, hother⟩ := types_ignore_ascii_case "dateT\u0130ME"
  have hentry : ("datetime", "DateTime.MinValue") ∈ initializers := by decide
  have hsame : SameButCase "dateTIME" "datetime" := by decide +kernel
  have hvalue : initializer "dateTIME" = "DateTime.MinValue" := (hvalues _ hentry).mpr hsame
  have hown : initializer "dateTIME" ≠ fallbackInitializer := by
    rw [hvalue]
    decide
  have hdotted : initializer "dateT\u0130ME" = fallbackInitializer := by
    refine hfallback.mp (mt hknown.mp ?_)
    decide +kernel
  refine ⟨hentry, hsame, hvalue, hown, hascii hown, hdate.mpr hvalue, hdotted, hother.mpr ?_⟩
  rw [hdotted]
  decide

end Scaffold
