import ShapeSum.Text.Letter
import ShapeSum.Text.Numeral

/-!
# Word characters and blanks

A *word character* is a letter, a numeral or the underscore.  A *blank* is a
character that separates words.  Readers of numbers trim fewer characters than
that, so the ASCII blanks have a test of their own.
-/

namespace ShapeSum.Text

/-- Whether a character is a letter or a numeral of any script. -/
def isAlphanumeric (c : Char) : Bool := isLetter c || isNumeral c

/-- Whether a character may stand inside a word. -/
def isWord (c : Char) : Bool := c == '_' || isAlphanumeric c

/-- Whether a character is an ASCII letter, an ASCII digit or the underscore. -/
def isPlainWord (c : Char) : Bool := c.isAlphanum || c == '_'

/-- The code points of blanks. -/
def blanks : Ranges :=
  [(0x9, 0xD), (0x1C, 0x20), (0x85, 0x85), (0xA0, 0xA0), (0x1680, 0x1680), (0x2000, 0x200A),
   (0x2028, 0x2029), (0x202F, 0x202F), (0x205F, 0x205F), (0x3000, 0x3000)]

/-- Whether a character is a blank of any script. -/
def isBlank (c : Char) : Bool := blanks.has c

/-- Whether a character is a space, a tab, or an ASCII line or page break. -/
def isPlainBlank (c : Char) : Bool := c == ' ' || decide (9 ≤ c.toNat ∧ c.toNat ≤ 13)

/-- A list without its leading and trailing elements that satisfy a test. -/
def trim {α : Type} (p : α → Bool) (s : List α) : List α :=
  ((s.dropWhile p).reverse.dropWhile p).reverse

/-- Every blank that core knows is a blank. -/
theorem isBlank_of_isWhitespace (c : Char) (h : c.isWhitespace = true) : isBlank c = true := by
  simp only [Char.isWhitespace, Bool.or_eq_true, decide_eq_true_eq] at h
  rcases h with ((rfl | rfl) | rfl) | rfl <;> decide

example : isWord 'é' = true ∧ isWord '²' = true ∧ isWord '-' = false := by decide +kernel

example : trim isBlank "  a b ".toList = "a b".toList := by decide +kernel

end ShapeSum.Text
