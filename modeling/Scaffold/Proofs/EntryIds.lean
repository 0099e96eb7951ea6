import Mathlib.Algebra.Group.Int.Defs
import Scaffold.Log.Entry
import Scaffold.Proofs.Decimals

/-!
# The names of entries

An entry of the log is named after the nanoseconds between the beginning of 1970 and its time, as
far as 64 bits with a sign go. The computation takes two steps, and the first of them never leaves
the 64 bits unless the result does. Outside of leap seconds different times have different counts,
and a later time has a greater one, so the names tell the times apart and put them in order.

* `Instant.nanoCount?_eq`: what the computation gives.
* `signedDecimal_injective`: different numbers are written differently.
* `Instant.count_lt_count_iff`: the counts are ordered like the times.
* `LogEntry.ids_follow_clock`: what the names of entries say about their times.
-/

namespace Scaffold

namespace Instant

/-! ### Counting nanoseconds -/

/-- The nanoseconds since the beginning of 1970. -/
def count (t : Instant) : Int := t.seconds * 10 ^ 9 + t.nanos

/-- Whether 64 bits with a sign can hold the count. -/
def IsCountable (t : Instant) : Prop := -2 ^ 63 ≤ t.count ∧ t.count < 2 ^ 63

instance (t : Instant) : Decidable t.IsCountable := inferInstanceAs (Decidable (_ ∧ _))

/-- Whether the time is within a leap second. -/
def IsLeap (t : Instant) : Prop := 10 ^ 9 ≤ t.nanos

instance (t : Instant) : Decidable t.IsLeap := inferInstanceAs (Decidable (_ ≤ _))

/-- Whether a time comes before another: in an earlier second, or earlier in the same one. -/
def Before (t u : Instant) : Prop :=
  t.seconds < u.seconds ∨ t.seconds = u.seconds ∧ t.nanos < u.nanos

variable {t u : Instant}

theorem inWord_of_mem {n : Int} (h : -2 ^ 63 ≤ n ∧ n < 2 ^ 63) : inWord n = some n := if_pos h

theorem inWord_of_not_mem {n : Int} (h : ¬ (-2 ^ 63 ≤ n ∧ n < 2 ^ 63)) : inWord n = none := if_neg h

/-- Two steps of which the first stays within 64 bits when the result does. -/
theorem inWord_add {n m : Int} (h : -2 ^ 63 ≤ n + m ∧ n + m < 2 ^ 63 → -2 ^ 63 ≤ n ∧ n < 2 ^ 63) :
    (do inWord ((← inWord n) + m)) = inWord (n + m) := by
  by_cases hsum : -2 ^ 63 ≤ n + m ∧ n + m < 2 ^ 63
  · rw [inWord_of_mem (h hsum)]
    rfl
  · by_cases hn : -2 ^ 63 ≤ n ∧ n < 2 ^ 63
    · rw [inWord_of_mem hn]
      rfl
    · rw [inWord_of_not_mem hn, inWord_of_not_mem hsum]
      rfl

/-- The count is computed whenever 64 bits can hold it. -/
theorem nanoCount?_eq (t : Instant) : t.nanoCount? = inWord t.count := by
  obtain ⟨-, -, hnanos, hleap⟩ := t.representable
  rw [nanosInSecond] at hnanos hleap
  by_cases hnegative : t.seconds < 0
  · have hcount : (t.seconds + 1) * (1000000000 : Nat) + (t.nanos - (1000000000 : Nat)) =
        t.count := by
      rw [count]
      omega
    -- Only a leap second behind second -9223372038 could be counted although the product alone
    -- leaves the 64 bits, and no minute ends with that second.
    simp only [nanoCount?, nanosInSecond, if_pos hnegative]
    rw [← hcount]
    exact inWord_add fun hsum => by omega
  · have hcount : t.seconds * (1000000000 : Nat) + t.nanos = t.count := by
      rw [count]
      omega
    simp only [nanoCount?, nanosInSecond, if_neg hnegative]
    rw [← hcount]
    exact inWord_add fun hsum => by omega

/-- What the computation gives when nothing has to be said about a failure: the count, or zero. -/
theorem getD_nanoCount? (t : Instant) :
    t.nanoCount?.getD 0 = if t.IsCountable then t.count else 0 := by
  rw [nanoCount?_eq]
  by_cases h : t.IsCountable
  · rw [inWord_of_mem h, if_pos h]
    rfl
  · rw [inWord_of_not_mem h, if_neg h]
    rfl

/-! ### Order -/

/-- Outside of leap seconds the counts are ordered like the times. -/
theorem count_lt_count_iff (ht : ¬ t.IsLeap) (hu : ¬ u.IsLeap) :
    t.count < u.count ↔ t.Before u := by
  rw [IsLeap, Nat.not_le] at ht hu
  rw [Before, count, count]
  omega

/-- Outside of leap seconds different times have different counts. -/
theorem count_eq_count_iff (ht : ¬ t.IsLeap) (hu : ¬ u.IsLeap) : t.count = u.count ↔ t = u := by
  rw [IsLeap, Nat.not_le] at ht hu
  constructor
  · intro h
    rw [count, count] at h
    have hseconds : t.seconds = u.seconds := by omega
    have hnanos : t.nanos = u.nanos := by omega
    cases t
    cases u
    rw [mk.injEq]
    exact ⟨hseconds, hnanos⟩
  · rintro rfl
    rfl

end Instant

/-! ### Writing numbers -/

theorem signedDecimal_of_neg {n : Int} (h : n < 0) : signedDecimal n = '-' :: decimal n.natAbs :=
  if_pos h

theorem signedDecimal_of_nonneg {n : Int} (h : 0 ≤ n) : signedDecimal n = decimal n.natAbs :=
  if_neg (Int.not_lt.mpr h)

theorem ofList_signedDecimal (n : Int) : String.ofList (signedDecimal n) = toString n := by
  cases n with
  | ofNat n => rfl
  | negSucc n =>
    rw [signedDecimal_of_neg (Int.negSucc_lt_zero n), ← List.singleton_append, String.ofList_append]
    rfl

theorem decimal_injective {m n : Nat} (h : decimal m = decimal n) : m = n := by
  rw [← Instant.digitsValue_decimal m, h, Instant.digitsValue_decimal]

/-- A number without a sign does not begin with a hyphen. -/
theorem decimal_ne_hyphen (n : Nat) (s : List Char) : decimal n ≠ '-' :: s := by
  intro h
  have hdigit : '-'.isDigit = true := isDigit_of_mem_decimal (h ▸ List.mem_cons_self)
  exact absurd hdigit (by decide)

/-- Different numbers are written differently. -/
theorem signedDecimal_injective {m n : Int} (h : signedDecimal m = signedDecimal n) : m = n := by
  rcases Int.lt_or_le m 0 with hm | hm <;> rcases Int.lt_or_le n 0 with hn | hn
  · rw [signedDecimal_of_neg hm, signedDecimal_of_neg hn] at h
    have habs := decimal_injective (List.cons.inj h).2
    omega
  · rw [signedDecimal_of_neg hm, signedDecimal_of_nonneg hn] at h
    exact absurd h.symm (decimal_ne_hyphen _ _)
  · rw [signedDecimal_of_nonneg hm, signedDecimal_of_neg hn] at h
    exact absurd h (decimal_ne_hyphen _ _)
  · rw [signedDecimal_of_nonneg hm, signedDecimal_of_nonneg hn] at h
    have habs := decimal_injective h
    omega

theorem toString_injective {m n : Int} (h : toString m = toString n) : m = n := by
  rw [← ofList_signedDecimal, ← ofList_signedDecimal] at h
  exact signedDecimal_injective (String.ofList_injective h)

/-! ### Names -/

namespace LogEntry

/-- The name of an entry says a number. -/
def HasNumber (e : LogEntry) (n : Int) : Prop := e.id = "gen_" ++ toString n

theorem HasNumber.unique {e : LogEntry} {m n : Int} (hm : e.HasNumber m) (hn : e.HasNumber n) :
    m = n :=
  toString_injective ((String.append_right_inj _).mp (hm.symm.trans hn))

/-- An entry is named after the count of its time, or after zero. -/
theorem hasNumber_stamped (operation : Operation) (metadata : Metadata) (t : Instant) :
    (stamped operation metadata t).HasNumber (if t.IsCountable then t.count else 0) := by
  rw [HasNumber, ← t.getD_nanoCount?, ← ofList_signedDecimal]
  rfl

theorem HasNumber.count {operation : Operation} {metadata : Metadata} {t : Instant} {n : Int}
    (h : (stamped operation metadata t).HasNumber n) (ht : t.IsCountable) : n = t.count := by
  have hcount := hasNumber_stamped operation metadata t
  rw [if_pos ht] at hcount
  exact h.unique hcount

/-- **The names of entries tell their times.** An entry is named after the count of nanoseconds up
to its time exactly when 64 bits can hold the count, and after zero otherwise. Of two entries that
are named after their counts, outside of leap seconds, the names are the same exactly when the
times are, and the numbers in them are ordered like the times. -/
theorem ids_follow_clock :
    (∀ (operation : Operation) (metadata : Metadata) (t : Instant),
      ((stamped operation metadata t).id = "gen_" ++ toString t.count ↔ t.IsCountable) ∧
        (¬ t.IsCountable → (stamped operation metadata t).id = "gen_0")) ∧
      ∀ (operation operation' : Operation) (metadata metadata' : Metadata) (t u : Instant),
        t.IsCountable → u.IsCountable → ¬ t.IsLeap → ¬ u.IsLeap →
          ((stamped operation metadata t).id = (stamped operation' metadata' u).id ↔ t = u) ∧
          ∀ m n : Int, (stamped operation metadata t).id = "gen_" ++ toString m →
            (stamped operation' metadata' u).id = "gen_" ++ toString n → (m < n ↔ t.Before u) := by
  refine ⟨fun operation metadata t => ?_, fun operation operation' metadata metadata' t u ht hu
    hleap hleap' => ⟨?_, fun m n hm hn => ?_⟩⟩
  · have hnumber := hasNumber_stamped operation metadata t
    by_cases ht : t.IsCountable
    · rw [if_pos ht] at hnumber
      exact ⟨iff_of_true hnumber ht, fun h => absurd ht h⟩
    · rw [if_neg ht] at hnumber
      refine ⟨iff_of_false (fun hcount => ht ?_) ht, fun _ => hnumber⟩
      -- An entry that is named after zero would have to be made at the beginning of 1970.
      have hzero : t.count = 0 := HasNumber.unique hcount hnumber
      rw [Instant.IsCountable, hzero]
      decide
  · have hnumber := hasNumber_stamped operation metadata t
    have hnumber' := hasNumber_stamped operation' metadata' u
    rw [if_pos ht] at hnumber
    rw [if_pos hu] at hnumber'
    constructor
    · intro hid
      exact (Instant.count_eq_count_iff hleap hleap').mp (hnumber.unique (hid.trans hnumber'))
    · rintro rfl
      exact hnumber.trans hnumber'.symm
  · rw [HasNumber.count hm ht, HasNumber.count hn hu]
    exact Instant.count_lt_count_iff hleap hleap'

/-- The first and the last time that can be counted. The seconds of the first one alone make up a
count that 64 bits cannot hold. -/
theorem ids_follow_clock_at_limits :
    let first : Instant := ⟨-9223372037, 145224192, by decide⟩
    let last : Instant := ⟨9223372036, 854775807, by decide⟩
    let metadata : Metadata := ⟨"cqrsgen", none, none, .success⟩
    let opened := stamped (.parseFailed "") metadata first
    let closed := stamped (.runCompleted 0 true) metadata last
    first.seconds * 10 ^ 9 < -2 ^ 63 ∧ first.IsCountable ∧ last.IsCountable ∧
      ¬ first.IsLeap ∧ ¬ last.IsLeap ∧
      opened.id = "gen_-9223372036854775808" ∧ closed.id = "gen_9223372036854775807" ∧
      (opened.id = closed.id ↔ first = last) ∧ first.Before last := by
  intro first last metadata opened closed
  have hfirst : first.IsCountable := by decide
  have hlast : last.IsCountable := by decide
  have hleap : ¬ first.IsLeap := by decide
  have hleap' : ¬ last.IsLeap := by decide
  obtain ⟨hnames, horder⟩ := ids_follow_clock
  obtain ⟨hsame, hnumbers⟩ := horder (.parseFailed "") (.runCompleted 0 true) metadata metadata
    first last hfirst hlast hleap hleap'
  have hopened := (hnames (.parseFailed "") metadata first).1.mpr hfirst
  have hclosed := (hnames (.runCompleted 0 true) metadata last).1.mpr hlast
  have hbefore := (hnumbers first.count last.count hopened hclosed).mp (by decide)
  refine ⟨by decide, hfirst, hlast, hleap, hleap', ?_, ?_, hsame, hbefore⟩
  · exact hopened.trans (by decide +kernel)
  · exact hclosed.trans (by decide +kernel)

end LogEntry

end Scaffold
