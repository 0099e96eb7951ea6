import Scaffold.Instant.Text
import Scaffold.Text.Search
import Mathlib.Algebra.Group.Nat.Defs

/-!
# Numbers in decimal digits

What is written in decimal digits, with or without zeros in front, is read as the same number.

* `digitsValue_padded`: the value of the digits.
* `number?_padded`: reading a number takes its digits and nothing else.
-/

namespace Scaffold

open Text

/-! ### Digits -/

theorem isDigit_of_mem_decimal {n : Nat} {c : Char} (h : c ∈ decimal n) : c.isDigit = true :=
  Nat.isDigit_of_mem_toDigits (by decide) (by decide) h

theorem isDigit_of_mem_padded {width n : Nat} {c : Char} (h : c ∈ padded width n) :
    c.isDigit = true := by
  rcases List.mem_append.mp h with hzero | hdigit
  · rw [List.eq_of_mem_replicate hzero]
    rfl
  · exact isDigit_of_mem_decimal hdigit

theorem decimal_ne_nil (n : Nat) : decimal n ≠ [] := Nat.toDigits_ne_nil

/-- No number but zero has a zero in front. -/
theorem head?_decimal {n : Nat} (h : 0 < n) : (decimal n).head? ≠ some '0' := by
  induction n using Nat.strongRecOn with
  | ind n ih =>
    rw [decimal, Nat.toDigits_eq_if (by decide)]
    split
    case isTrue hlt =>
      have hall : ∀ n < 10, 0 < n → n.digitChar ≠ '0' := by decide
      simpa using hall n hlt h
    case isFalse hge =>
      obtain ⟨c, cs, h⟩ := List.exists_cons_of_ne_nil (decimal_ne_nil (n / 10))
      have hfront := ih (n / 10) (by omega) (by omega)
      rw [h] at hfront
      rw [decimal] at h
      rwa [h, List.cons_append, List.head?_cons]

/-- A number begins with a digit. -/
theorem exists_decimal (n : Nat) : ∃ c cs, decimal n = c :: cs ∧ c.isDigit = true := by
  obtain ⟨c, cs, h⟩ := List.exists_cons_of_ne_nil (decimal_ne_nil n)
  exact ⟨c, cs, h, isDigit_of_mem_decimal (h ▸ List.mem_cons_self)⟩

theorem padded_ne_nil (width n : Nat) : padded width n ≠ [] :=
  List.append_ne_nil_of_right_ne_nil _ (decimal_ne_nil n)

theorem exists_padded (width n : Nat) :
    ∃ c cs, padded width n = c :: cs ∧ c.isDigit = true := by
  obtain ⟨c, cs, h⟩ := List.exists_cons_of_ne_nil (padded_ne_nil width n)
  exact ⟨c, cs, h, isDigit_of_mem_padded (h ▸ List.mem_cons_self)⟩

theorem length_padded {width n : Nat} (hwidth : 0 < width) (h : n < 10 ^ width) :
    (padded width n).length = width := by
  have hlength : (decimal n).length ≤ width :=
    (Nat.length_toDigits_le_iff (by decide) hwidth).mpr h
  rw [padded, List.length_append, List.length_replicate]
  omega

theorem toNat_of_isDigit {c : Char} (h : c.isDigit = true) : 48 ≤ c.toNat ∧ c.toNat ≤ 57 := by
  simpa [Char.isDigit, UInt32.le_iff_toNat_le] using h

/-- A digit is no blank. -/
theorem isBlank_of_isDigit {c : Char} (h : c.isDigit = true) : isBlank c = false := by
  have hrange := toNat_of_isDigit h
  rw [isBlank, Bool.eq_false_iff, Ne, Charset.contains_iff]
  rintro ⟨r, hr, hlow, hhigh⟩
  simp only [blanks, List.mem_cons, List.not_mem_nil, or_false] at hr
  rcases hr with rfl | rfl | rfl | rfl | rfl | rfl | rfl | rfl | rfl | rfl <;>
    simp at hlow hhigh <;> omega

namespace Instant

/-! ### Values -/

theorem digitsValue_append (ds es : List Char) :
    digitsValue (ds ++ es) =
      es.foldl (fun n c => n * 10 + (c.toNat - '0'.toNat)) (digitsValue ds) :=
  List.foldl_append

theorem digitsValue_decimal (n : Nat) : digitsValue (decimal n) = n := by
  have h : Nat.ofDigitChars 10 (decimal n) 0 = n :=
    Nat.ofDigitChars_toDigits (by decide) (by decide)
  simpa only [digitsValue, Nat.ofDigitChars, Nat.mul_comm] using h

theorem digitsValue_zeros (n : Nat) : digitsValue (List.replicate n '0') = 0 := by
  induction n with
  | zero => rfl
  | succ n ih =>
    rw [List.replicate_succ', digitsValue_append, ih]
    rfl

/-- Zeros in front do not change a number. -/
theorem digitsValue_padded (width n : Nat) : digitsValue (padded width n) = n := by
  rw [padded, digitsValue_append, digitsValue_zeros]
  exact digitsValue_decimal n

/-! ### Reading -/

/-- A number is read up to a width, or up to something that is not a digit. -/
theorem number?_padded (width : Nat) {zeros n : Nat} (rest : List Char) (hlimit : n < wordLimit)
    (hwidth : (padded zeros n).length ≤ width)
    (hend : (padded zeros n).length = width ∨ ∀ c, rest.head? = some c → c.isDigit = false) :
    number? width (padded zeros n ++ rest) = some (n, rest) := by
  have hrun : ((padded zeros n ++ rest).take width).takeWhile Char.isDigit = padded zeros n := by
    rw [List.take_append, List.take_of_length_le hwidth]
    refine takeWhile_run (fun _ => isDigit_of_mem_padded) fun c hc => ?_
    rcases hend with hfull | hstop
    · simp [hfull] at hc
    · refine hstop c ?_
      rw [List.head?_take] at hc
      split at hc
      · cases hc
      · exact hc
  have hnonempty : (padded zeros n).isEmpty = false :=
    List.isEmpty_eq_false_iff.mpr (padded_ne_nil zeros n)
  simp only [number?, hrun, hnonempty, Bool.false_or, List.drop_left, digitsValue_padded]
  rw [if_neg]
  simpa using hlimit

end Instant

end Scaffold
