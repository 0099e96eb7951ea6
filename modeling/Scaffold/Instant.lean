import Scaffold.Calendar

/-!
# Instants

A point in time: the whole seconds since the beginning of 1970 and the nanoseconds beyond them.
During a leap second the count of seconds stands still while that of nanoseconds goes on to two
thousand million; that can happen in the last second of a minute only. Instants lie in years that
a signed number of 19 bits can count.

* `Instant.of?_isSome_iff`: which seconds and nanoseconds make up an instant.
* `Instant.nanoCount?`: the count of nanoseconds, as far as 64 bits with a sign go.
-/

namespace Scaffold

/-- The first year with instants. -/
def firstYear : Int := -262143

/-- The last year with instants. -/
def lastYear : Int := 262142

/-- The length of a day in seconds. -/
def secondsInDay : Int := 86400

/-- The nanoseconds in a second. -/
def nanosInSecond : Nat := 1000000000

/-- Whether an instant can be made from seconds and nanoseconds. The nanoseconds of a leap second
stand behind the last second of a minute; an instant in which they have been set behind another
second is left out. -/
def Representable (seconds : Int) (nanos : Nat) : Prop :=
  (Calendar.Date.mk firstYear 1 1).dayNumber ≤ seconds / secondsInDay ∧
  seconds / secondsInDay ≤ (Calendar.Date.mk lastYear 12 31).dayNumber ∧
  nanos < 2 * nanosInSecond ∧ (nanosInSecond ≤ nanos → seconds % 60 = 59)

instance (seconds : Int) (nanos : Nat) : Decidable (Representable seconds nanos) :=
  inferInstanceAs (Decidable (_ ∧ _ ∧ _ ∧ (_ → _)))

/-- A point in time. -/
structure Instant where
  seconds : Int
  nanos : Nat
  representable : Representable seconds nanos
  deriving DecidableEq

namespace Instant

instance : Inhabited Instant := ⟨⟨0, 0, by decide⟩⟩

/-- The instant with the given seconds and nanoseconds. -/
def of? (seconds : Int) (nanos : Nat) : Option Instant :=
  if h : Representable seconds nanos then some ⟨seconds, nanos, h⟩ else none

theorem of?_isSome_iff {seconds : Int} {nanos : Nat} :
    (of? seconds nanos).isSome = true ↔ Representable seconds nanos := by
  unfold of?; split <;> simp [*]

theorem of?_eq_self (t : Instant) : of? t.seconds t.nanos = some t := by
  simp [of?, t.representable]

/-- The first number that 64 bits with a sign cannot hold. -/
def wordLimit : Nat := 0x8000000000000000

/-- A number, if 64 bits with a sign can hold it. -/
def inWord (n : Int) : Option Int := if -wordLimit ≤ n ∧ n < wordLimit then some n else none

/-- The nanoseconds since the beginning of 1970, if 64 bits with a sign can hold them. Each step
of the computation has to fit as well; before 1970 it starts from the end of the second, so that
the product does not go further than the result. -/
def nanoCount? (t : Instant) : Option Int := do
  let (seconds, nanos) : Int × Int :=
    if t.seconds < 0 then (t.seconds + 1, t.nanos - nanosInSecond) else (t.seconds, t.nanos)
  let product ← inWord (seconds * nanosInSecond)
  inWord (product + nanos)

end Instant

end Scaffold
