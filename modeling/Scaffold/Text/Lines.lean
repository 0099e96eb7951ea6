import Scaffold.Text.Bytes

/-!
# Lines of bytes

Input is read line by line. A line reaches up to and including the next newline, or to the end of
the input; when it is used, its newline is dropped and then one carriage return.

* `line_append_rest`: a line and what follows it are the whole input.
* `rest_length_lt`: reading a line of a non-empty input leaves less.
* `splitLines_flatten`: the lines of an input, joined, are the input.
-/

namespace Scaffold.Text

/-- The byte that ends a line. -/
def newline : UInt8 := 10

/-- The first line of the input, with its newline if it has one. -/
def line : Bytes → Bytes
  | [] => []
  | b :: s => if b = newline then [b] else b :: line s

/-- The input behind the first line. -/
def rest : Bytes → Bytes
  | [] => []
  | b :: s => if b = newline then s else rest s

theorem line_append_rest (s : Bytes) : line s ++ rest s = s := by
  induction s with
  | nil => rfl
  | cons b s ih =>
    by_cases h : b = newline
    · simp [line, rest, h]
    · simp [line, rest, h, ih]

theorem line_ne_nil {s : Bytes} (h : s ≠ []) : line s ≠ [] := by
  cases s with
  | nil => exact absurd rfl h
  | cons b s => rw [line]; split <;> exact List.cons_ne_nil _ _

theorem rest_length_lt {s : Bytes} (h : s ≠ []) : (rest s).length < s.length := by
  have e := congrArg List.length (line_append_rest s)
  have := List.length_pos_iff.mpr (line_ne_nil h)
  rw [List.length_append] at e
  omega

/-- The text without the given character at its end. -/
def dropFinal (c : Char) (s : List Char) : List Char :=
  if s.getLast? = some c then s.dropLast else s

/-- A line without its ending: without one newline, and then without one carriage return. -/
def withoutEnding (s : String) : String :=
  String.ofList (dropFinal '\r' (dropFinal '\n' s.toList))

/-- The lines of an input, each with its ending. -/
def splitLines (s : Bytes) : List Bytes :=
  match s with
  | [] => []
  | b :: s => line (b :: s) :: splitLines (rest (b :: s))
termination_by s.length
decreasing_by exact rest_length_lt (List.cons_ne_nil b s)

theorem splitLines_flatten (s : Bytes) : (splitLines s).flatten = s := by
  fun_induction splitLines s with
  | case1 => rfl
  | case2 b s ih => rw [List.flatten_cons, ih, line_append_rest]

end Scaffold.Text
