import ShapeSum.Number.Binary64

/-!
# Doubles as decimals

A finite double is written with the fewest significant digits that read back as
the same double, and among those with the digits nearest to its value; of two
that are equally near the one with an even last digit is taken.  The digits are
found on the double's exact decimal expansion: the first `p` digits of the
expansion, or the decimal one above them, are tried for `p = 0, 1, 2, …`; no digits
and one above them is a power of ten.

The layout is positional while the first digit stands from the fourth place after
the point to the sixteenth before it, and has an exponent of at least two digits
otherwise.
-/

namespace ShapeSum.Binary64

/-! ## Reading -/

/-- The double nearest to `digits * 10 ^ exponent`.  Exponents so large that the result is zero
or infinite are not computed. -/
def ofDecimal (negative : Bool) (digits : Nat) (exponent : Int) : Binary64 :=
  let width := (Nat.toDigits 10 digits).length
  if digits = 0 then ofCode negative 0
  else if 400 < exponent + width then .infinite negative
  else if exponent + width < -400 then ofCode negative 0
  else if 0 ≤ exponent then ofQuotient negative (digits * Nat.pow 10 exponent.toNat) 1
  else ofQuotient negative digits (Nat.pow 10 (-exponent).toNat)

/-- The value of a list of ASCII digits. -/
def digitsValue (s : List Char) : Nat :=
  s.foldl (fun n c => 10 * n + (c.toNat - '0'.toNat)) 0

/-- Digits in groups joined by single underscores, at the start of a text: the digits, and what
follows them.  The flag says whether a digit came just before. -/
def spanGrouped (afterDigit : Bool) : List Char → List Char × List Char
  | [] => ([], [])
  | c :: rest =>
    if c.isDigit then
      let (ds, r) := spanGrouped true rest
      (c :: ds, r)
    else if c = '_' ∧ afterDigit = true then
      match rest with
      | d :: _ => if d.isDigit then spanGrouped false rest else ([], c :: rest)
      | [] => ([], c :: rest)
    else ([], c :: rest)

/-- A sign at the start of a text, and what follows it. -/
def readSign : List Char → Bool × List Char
  | '-' :: rest => (true, rest)
  | '+' :: rest => (false, rest)
  | s => (false, s)

/-- The exponent at the end of a decimal; nothing at all is the exponent zero. -/
def readExponent? : List Char → Option Int
  | [] => some 0
  | e :: rest =>
    if e = 'e' ∨ e = 'E' then
      let (negative, rest) := readSign rest
      match spanGrouped false rest with
      | (d :: ds, []) =>
        let n : Int := digitsValue (d :: ds)
        some (if negative then -n else n)
      | _ => none
    else none

/-- A decimal without its sign: digits with a point and an exponent, or the name of a special
number in any case. -/
def readUnsigned? (negative : Bool) (s : List Char) : Option Binary64 :=
  let name := s.map Char.toLower
  if name = "inf".toList ∨ name = "infinity".toList then some (.infinite negative)
  else if name = "nan".toList then some .nan
  else
    let (whole, rest) := spanGrouped false s
    let (fraction, rest) := match rest with
      | '.' :: r => spanGrouped false r
      | r => ([], r)
    if whole.isEmpty && fraction.isEmpty then none
    else (readExponent? rest).map fun e =>
      ofDecimal negative (digitsValue (whole ++ fraction)) (e - fraction.length)

/-- The double that a trimmed text denotes. -/
def read? (s : List Char) : Option Binary64 :=
  let (negative, rest) := readSign s
  readUnsigned? negative rest

/-! ## Writing -/

/-- The decimal places of the unit of a double, which is `2 ^ -1074`. -/
def unitPlaces : Nat := 1074

/-- A magnitude shifted left by `unitPlaces` decimal places, which makes it a whole number. -/
def expansion (code : Nat) : Nat := units code * Nat.pow 5 unitPlaces

/-- The decimal of `p` digits nearest to the expansion `n` of `width` digits that reads back as
the code. -/
def digitsAt? (code n width p : Nat) : Option (Nat × Int) :=
  let step := Nat.pow 10 (width - p)
  let exponent : Int := (width : Int) - p - unitPlaces
  let below := n / step
  let reads (d : Nat) : Bool :=
    match ofDecimal false d exponent with
    | .finite _ c => c.val == code
    | _ => false
  let lowNear := decide (2 * (n % step) < step) ||
    (decide (2 * (n % step) = step) && below % 2 == 0)
  if reads below && (lowNear || !reads (below + 1)) then some (below, exponent)
  else if reads (below + 1) then some (below + 1, exponent)
  else none

/-- The shortest digits of a magnitude and the exponent of the last of them.  The whole expansion
reads back in any case; up to seventeen digits are tried, which are always enough. -/
def shortest (code : Nat) : Nat × Int :=
  let n := expansion code
  let width := (Nat.toDigits 10 n).length
  ((List.range 18).findSome? fun p => digitsAt? code n width p).getD (n, -unitPlaces)

/-- The decimal exponent, of the first digit, where positional layout begins. -/
def positionalFrom : Int := -4

/-- The decimal exponent where positional layout ends. -/
def positionalUpto : Int := 16

/-- The text of an exponent: its sign and at least two digits. -/
def exponentText (e : Int) : List Char :=
  let ds := Nat.toDigits 10 e.natAbs
  (if e < 0 then '-' else '+') :: (if ds.length < 2 then '0' :: ds else ds)

/-- Digits and the exponent of the last of them, laid out as a decimal. -/
def layout (digits : List Char) (exponent : Int) : List Char :=
  let lead := exponent + digits.length - 1
  if positionalFrom ≤ lead ∧ lead < positionalUpto then
    if 0 ≤ exponent then digits ++ List.replicate exponent.toNat '0' ++ ['.', '0']
    else if 0 ≤ lead then
      digits.take (lead + 1).toNat ++ '.' :: digits.drop (lead + 1).toNat
    else '0' :: '.' :: (List.replicate (-lead - 1).toNat '0' ++ digits)
  else
    match digits with
    | [] => []
    | [d] => d :: 'e' :: exponentText lead
    | d :: ds => d :: '.' :: (ds ++ 'e' :: exponentText lead)

/-- The text of a magnitude. -/
def magnitudeText (code : Nat) : List Char :=
  if code = 0 then ['0', '.', '0']
  else
    let (digits, exponent) := shortest code
    layout (Nat.toDigits 10 digits) exponent

/-- The text of a double, with the given texts for nan and for positive infinity. -/
def text (nan infinity : List Char) : Binary64 → List Char
  | .nan => nan
  | .infinite negative => if negative then '-' :: infinity else infinity
  | .finite negative code => if negative then '-' :: magnitudeText code else magnitudeText code

/-- The plain text of a double. -/
def plain (x : Binary64) : String := String.ofList (text "nan".toList "inf".toList x)

example : (read? "1.5".toList).map plain = some "1.5" := by decide +kernel

example : (["1e16", "123456789012345680", "-0", "1e-5", ".1", "1e400", "1_0.2_5e0_1"].map fun s =>
      ((read? s.toList).map plain).getD "") =
    ["1e+16", "1.2345678901234568e+17", "-0.0", "1e-05", "0.1", "inf", "102.5"] := by
  decide +kernel

/-- This one lies halfway between the two nearest decimals of seventeen digits. -/
example : (read? "1987018664590178.75".toList).map plain = some "1987018664590178.8" := by
  decide +kernel

example : read? "1__0".toList = none ∧ read? "1_".toList = none ∧ read? ".".toList = none := by
  decide +kernel

end ShapeSum.Binary64
