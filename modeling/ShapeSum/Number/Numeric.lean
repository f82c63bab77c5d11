import ShapeSum.Number.Decimal
import ShapeSum.Text.Word

/-!
# Reading numbers of any script

A text denotes an integer if it is, between blanks, an optional sign and decimal
digits of any script in groups joined by single underscores.  It denotes a double
if the same holds of a decimal with point and exponent, or if it names a special
number.
-/

namespace ShapeSum.Number

open ShapeSum.Text (trim isPlainBlank isBlank decimalValue?)

/-- Whether a character may surround an integer.  Among the ASCII characters only the space, the
tab and the line and page breaks may. -/
def isPadding (c : Char) : Bool := isPlainBlank c || (decide (0x7F < c.toNat) && isBlank c)

/-- The ASCII digit of the same value as a decimal digit outside ASCII. -/
def plainDigit (c : Char) : Char :=
  if c.toNat < 0x80 then c
  else match decimalValue? c with
    | some n => Nat.digitChar n
    | none => c

/-- The integer that a text denotes. -/
def readInt? (s : List Char) : Option Int :=
  let (negative, rest) := Binary64.readSign (trim isPadding s)
  match Binary64.spanGrouped false (rest.map plainDigit) with
  | (d :: ds, []) =>
    let n : Int := Binary64.digitsValue (d :: ds)
    some (if negative then -n else n)
  | _ => none

/-- The double that a text denotes. -/
def readFloat? (s : List Char) : Option Binary64 :=
  Binary64.read? ((trim isPadding s).map plainDigit)

example : (["0", " -1 ", "+0_7", "٣", "1_", "_1", "1__0", "", "-", "1.0"].map
    (readInt? ·.toList)) =
    [some 0, some (-1), some 7, some 3, none, none, none, none, none, none] := by
  decide +kernel

end ShapeSum.Number
