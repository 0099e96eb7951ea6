import Scaffold.Text.Charset

/-!
# White space

A character is blank when it has the Unicode property `White_Space`. Definitions are split at
blanks, and answers are trimmed of them.

* `isBlank_of_isWhitespace`: every ASCII blank is one.
-/

namespace Scaffold.Text

/-- The characters with the property `White_Space`. -/
def blanks : Charset :=
  [(0x9, 0xD), (0x20, 0x20), (0x85, 0x85), (0xA0, 0xA0), (0x1680, 0x1680), (0x2000, 0x200A),
   (0x2028, 0x2029), (0x202F, 0x202F), (0x205F, 0x205F), (0x3000, 0x3000)]

/-- Whether a character is white space. -/
def isBlank (c : Char) : Bool := blanks.contains c

/-- Core's notion of white space covers part of ours. -/
theorem isBlank_of_isWhitespace {c : Char} (h : c.isWhitespace = true) : isBlank c = true := by
  simp only [Char.isWhitespace, Bool.or_eq_true, decide_eq_true_eq] at h
  rcases h with ((rfl | rfl) | rfl) | rfl <;> decide

/-- The text without the blanks in front. -/
def trimStart (s : List Char) : List Char := s.dropWhile isBlank

/-- Skipping blanks stops at the first character that is not blank. -/
theorem trimStart_cons {c : Char} (hc : isBlank c = false) (s : List Char) :
    trimStart (c :: s) = c :: s := by
  rw [trimStart, List.dropWhile_cons_of_neg (by simp [hc])]

/-- The text without the blanks at either end. -/
def trim (s : String) : String :=
  String.ofList (trimStart (trimStart s.toList).reverse).reverse

/-- Whether a text consists of blanks only; the empty text does. -/
def isBlankText (s : String) : Bool := s.toList.all isBlank

end Scaffold.Text
