/-!
# Blank characters

The characters that count as white space in a script, and the cutting of white space off the ends
of a text.

* `isBlank` is the Unicode white space property with the four separators U+001C to U+001F added;
  it holds of all that core counts as white space (`isBlank_of_isWhitespace`).
* `stripStart`, `stripEnd` and `strip` cut blanks off one end or both.
-/

namespace Plotline.Text

/-- White space, as scripts, prompts and numerals understand it. -/
def isBlank (c : Char) : Bool :=
  let n := c.toNat
  (0x09 ≤ n && n ≤ 0x0D) || (0x1C ≤ n && n ≤ 0x20) || n == 0x85 || n == 0xA0 || n == 0x1680 ||
    (0x2000 ≤ n && n ≤ 0x200A) || n == 0x2028 || n == 0x2029 || n == 0x202F || n == 0x205F ||
    n == 0x3000

theorem isBlank_of_isWhitespace {c : Char} (h : c.isWhitespace = true) : isBlank c = true := by
  simp only [Char.isWhitespace, Bool.or_eq_true, decide_eq_true_eq] at h
  rcases h with ((rfl | rfl) | rfl) | rfl <;> decide

/-- The text without the blanks it starts with. -/
def stripStart (s : List Char) : List Char := s.dropWhile isBlank

/-- The text without the blanks it ends with. -/
def stripEnd (s : List Char) : List Char := (s.reverse.dropWhile isBlank).reverse

/-- The text without the blanks at either end. -/
def strip (s : List Char) : List Char := stripEnd (stripStart s)

end Plotline.Text
