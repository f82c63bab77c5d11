import ShapeSum.Text.Printable

/-!
# Quoted text

A text is quoted between single quotes, or between double quotes if it holds a
single quote and no double one.  Inside, the quote in use and the backslash are
escaped, the common control characters have short escapes, and every other
character that is not printable is written by its code point.
-/

namespace ShapeSum.Text

/-- The last `width` hexadecimal digits of a number. -/
def hexDigits : Nat → Nat → List Char
  | 0, _ => []
  | width + 1, n => hexDigits width (n / 16) ++ [Nat.digitChar (n % 16)]

/-- A character as it stands between the given quotes. -/
def escaped (quote c : Char) : List Char :=
  if c = quote ∨ c = '\\' then ['\\', c]
  else if c = '\n' then ['\\', 'n']
  else if c = '\r' then ['\\', 'r']
  else if c = '\t' then ['\\', 't']
  else if isPrintable c then [c]
  else if c.toNat < 0x100 then '\\' :: 'x' :: hexDigits 2 c.toNat
  else if c.toNat < 0x10000 then '\\' :: 'u' :: hexDigits 4 c.toNat
  else '\\' :: 'U' :: hexDigits 8 c.toNat

/-- The quote that a text is put between. -/
def quoteFor (s : List Char) : Char := if s.contains '\'' && !s.contains '"' then '"' else '\''

/-- A quoted text. -/
def quoted (s : String) : String :=
  let q := quoteFor s.toList
  String.ofList (q :: (s.toList.flatMap (escaped q) ++ [q]))

example : (escaped '\'' '\x00', escaped '\'' '\u2028', escaped '\'' 'é') =
    ("\\x00".toList, "\\u2028".toList, ['é']) := by decide +kernel

end ShapeSum.Text
