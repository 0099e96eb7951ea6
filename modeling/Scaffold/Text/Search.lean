/-!
# Searching a text

Whether one text stands inside another or at its end, removing an expected text from the front,
and runs of characters of one kind.

* `occursIn_iff`, `endsIn_iff`: the two searches decide "is an infix of" and "is a suffix of".
* `after?_eq_some_iff`: what is left after an expected text is all but that text.
* `takeWhile_run`, `dropWhile_run`: the run of characters of a kind in front of a text.
-/

namespace Scaffold.Text

/-- Whether `needle` stands somewhere in the text. -/
def occursIn (needle : List Char) : List Char → Bool
  | [] => needle.isEmpty
  | c :: s => needle.isPrefixOf (c :: s) || occursIn needle s

theorem occursIn_iff {needle s : List Char} : occursIn needle s = true ↔ needle <:+: s := by
  induction s with
  | nil => simp [occursIn, List.isEmpty_iff]
  | cons c s ih =>
    rw [occursIn, Bool.or_eq_true, List.isPrefixOf_iff_prefix, ih]
    exact List.infix_cons_iff.symm

/-- Whether the text ends in `ending`. -/
def endsIn (ending s : List Char) : Bool := ending.isSuffixOf s

theorem endsIn_iff {ending s : List Char} : endsIn ending s = true ↔ ending <:+ s :=
  List.isSuffixOf_iff_suffix

/-- What follows `expected` at the front of the text, or nothing when the text starts
differently. -/
def after? : List Char → List Char → Option (List Char)
  | [], s => some s
  | _ :: _, [] => none
  | e :: expected, c :: s => if e = c then after? expected s else none

theorem after?_append (expected rest : List Char) :
    after? expected (expected ++ rest) = some rest := by
  induction expected with
  | nil => rfl
  | cons e expected ih => simp [after?, ih]

theorem after?_eq_some_iff {expected s rest : List Char} :
    after? expected s = some rest ↔ s = expected ++ rest := by
  constructor
  · induction expected generalizing s with
    | nil => intro h; exact Option.some.inj h
    | cons e expected ih =>
      cases s with
      | nil => intro h; exact nomatch h
      | cons c s =>
        intro h
        rw [after?] at h
        split at h
        · next he => rw [he, ih h]; rfl
        · exact nomatch h
  · rintro rfl; exact after?_append expected rest

/-! ### Runs -/

/-- The run of characters of a kind in front of a text is all of it up to the first character of
another kind. -/
theorem takeWhile_run {p : Char → Bool} {s t : List Char} (hs : ∀ c ∈ s, p c = true)
    (ht : ∀ c, t.head? = some c → p c = false) : (s ++ t).takeWhile p = s := by
  rw [List.takeWhile_append_of_pos hs]
  cases t with
  | nil => rw [List.takeWhile_nil, List.append_nil]
  | cons c t => rw [List.takeWhile_cons_of_neg (by simp [ht c rfl]), List.append_nil]

theorem dropWhile_run {p : Char → Bool} {s t : List Char} (hs : ∀ c ∈ s, p c = true)
    (ht : ∀ c, t.head? = some c → p c = false) : (s ++ t).dropWhile p = t := by
  rw [List.dropWhile_append_of_pos hs]
  cases t with
  | nil => rfl
  | cons c t => rw [List.dropWhile_cons_of_neg (by simp [ht c rfl])]

end Scaffold.Text
