import ShapeSum.Text.Mark
import ShapeSum.Text.Word

/-!
# Identifiers

An identifier starts with a letter, a number letter or the underscore, and goes
on with these, marks, decimals and connectors.  The reserved words are
identifiers that no attribute may bear.
-/

namespace ShapeSum.Text

/-- Letters that do not start an identifier. -/
def barredStarts : Ranges :=
  [(0x37A, 0x37A), (0xE33, 0xE33), (0xEB3, 0xEB3), (0x2E2F, 0x2E2F), (0xFC5E, 0xFC63),
   (0xFDFA, 0xFDFB), (0xFE70, 0xFE70), (0xFE72, 0xFE72), (0xFE74, 0xFE74), (0xFE76, 0xFE76),
   (0xFE78, 0xFE78), (0xFE7A, 0xFE7A), (0xFE7C, 0xFE7C), (0xFE7E, 0xFE7E), (0xFF9E, 0xFF9F)]

/-- Characters besides letters and number letters that start an identifier. -/
def addedStarts : Ranges :=
  [(0x5F, 0x5F), (0x1885, 0x1886), (0x2118, 0x2118), (0x212E, 0x212E)]

/-- Characters besides starts, marks and decimals that continue an identifier. -/
def addedContinuations : Ranges :=
  [(0xB7, 0xB7), (0x387, 0x387), (0xE33, 0xE33), (0xEB3, 0xEB3), (0x1369, 0x1371),
   (0x19DA, 0x19DA), (0x203F, 0x2040), (0x2054, 0x2054), (0xFE33, 0xFE34), (0xFE4D, 0xFE4F),
   (0xFF3F, 0xFF3F), (0xFF9E, 0xFF9F)]

/-- Whether a character may start an identifier. -/
def isIdentifierStart (c : Char) : Bool :=
  addedStarts.has c || ((isLetter c || numberLetters.has c) && !barredStarts.has c)

/-- Whether a character may continue an identifier. -/
def isIdentifierContinuation (c : Char) : Bool :=
  isIdentifierStart c || isMark c || isDecimal c || addedContinuations.has c

/-- Whether a text is an identifier. -/
def isIdentifier (s : List Char) : Bool :=
  match s with
  | [] => false
  | c :: rest => isIdentifierStart c && rest.all isIdentifierContinuation

/-- The reserved words. -/
def reservedWords : List String :=
  ["False", "None", "True", "and", "as", "assert", "async", "await", "break", "class", "continue",
   "def", "del", "elif", "else", "except", "finally", "for", "from", "global", "if", "import",
   "in", "is", "lambda", "nonlocal", "not", "or", "pass", "raise", "return", "try", "while",
   "with", "yield"]

/-- Whether a text is a reserved word. -/
def isReserved (s : List Char) : Bool := reservedWords.any (·.toList == s)

example : isIdentifier "naïve_1".toList = true ∧ isIdentifier "1a".toList = false ∧
    isIdentifier "".toList = false ∧ isIdentifier "class".toList = true := by decide +kernel

example : isReserved "class".toList = true ∧ isReserved "klass".toList = false := by
  decide +kernel

end ShapeSum.Text
