/-!
# Sets of characters

A set of characters is written down as the ranges of code points it consists of, the form in
which the Unicode Character Database publishes a property.

* `Charset.contains_iff`: a character is in the set exactly when one of the ranges holds its
  code point.
-/

namespace Scaffold.Text

/-- A set of characters: the union of inclusive ranges of code points, each given by its first
and its last member. -/
abbrev Charset := List (Nat × Nat)

/-- Whether a character belongs to the set. -/
def Charset.contains (ranges : Charset) (c : Char) : Bool :=
  ranges.any fun (first, last) => Nat.ble first c.toNat && Nat.ble c.toNat last

theorem Charset.contains_iff {ranges : Charset} {c : Char} :
    ranges.contains c = true ↔ ∃ r ∈ ranges, r.1 ≤ c.toNat ∧ c.toNat ≤ r.2 := by
  simp only [contains, List.any_eq_true, Bool.and_eq_true, Nat.ble_eq]

end Scaffold.Text
