/-!
# Double-precision numbers

A finite double is a sign and a *code*, its place among the doubles of that sign
counted from zero.  Each one is a whole number of units of `2 ^ -1074`, so
comparison, rounding and the test for a whole number are arithmetic on natural
numbers.

`nearest` rounds a quotient to the code of the closest double, to the even code
on a tie.  Past the largest finite double the result is an infinity.
-/

namespace ShapeSum

/-- The number of finite magnitudes. -/
def magnitudeCount : Nat := 2047 * Nat.pow 2 52

/-- A double-precision number.  All nans are one value. -/
inductive Binary64 where
  /-- Not a number. -/
  | nan
  /-- An infinity with its sign. -/
  | infinite (negative : Bool)
  /-- A finite number: its sign and its place among the magnitudes. -/
  | finite (negative : Bool) (code : Fin magnitudeCount)
  deriving DecidableEq

namespace Binary64

/-! ## Magnitudes -/

/-- The significand of a magnitude. -/
def significand (code : Nat) : Nat :=
  if code < Nat.pow 2 52 then code else Nat.pow 2 52 + code % Nat.pow 2 52

/-- The power of two that the significand is multiplied by, counted from the smallest. -/
def scale (code : Nat) : Nat := code / Nat.pow 2 52 - 1

/-- A magnitude in units of `2 ^ -1074`. -/
def units (code : Nat) : Nat := significand code * Nat.pow 2 (scale code)

/-- The quotient rounded to a whole number, to the even neighbour on a tie. -/
def roundHalfEven (num den : Nat) : Nat :=
  let q := num / den
  let r := num % den
  if 2 * r < den then q else if den < 2 * r then q + 1 else q + q % 2

/-- The code of the magnitude nearest to a quotient; it may lie past the finite ones. -/
def nearest (num den : Nat) : Nat :=
  let floor := num * Nat.pow 2 1074 / den
  let s := Nat.log2 floor - 52
  s * Nat.pow 2 52 + roundHalfEven (num * Nat.pow 2 1074) (den * Nat.pow 2 s)

/-- The double with a sign and a code that may lie past the finite ones. -/
def ofCode (negative : Bool) (code : Nat) : Binary64 :=
  if h : code < magnitudeCount then .finite negative ⟨code, h⟩ else .infinite negative

/-- The double nearest to a signed quotient. -/
def ofQuotient (negative : Bool) (num den : Nat) : Binary64 := ofCode negative (nearest num den)

/-- The double nearest to an integer; a huge integer rounds to an infinity. -/
def ofInt (n : Int) : Binary64 := ofQuotient (decide (n < 0)) n.natAbs 1

/-- Positive zero. -/
def zero : Binary64 := .finite false ⟨0, by decide⟩

/-! ## Tests and comparisons -/

/-- Whether the number is neither an infinity nor nan. -/
def isFinite : Binary64 → Bool
  | .finite _ _ => true
  | _ => false

/-- The integer that a double equals, if it is a whole number. -/
def toInt? : Binary64 → Option Int
  | .finite negative code =>
    if units code % Nat.pow 2 1074 = 0 then
      let n : Int := (units code / Nat.pow 2 1074 : Nat)
      some (if negative then -n else n)
    else none
  | _ => none

/-- Numeric equality: nan equals nothing, and the two zeros are equal. -/
def numericallyEqual : Binary64 → Binary64 → Bool
  | .infinite a, .infinite b => a == b
  | .finite a c, .finite b d => c == d && (a == b || c.val == 0)
  | _, _ => false

/-- The number with negative zero replaced by zero. -/
def unsignedZero : Binary64 → Binary64
  | .finite negative code => if code.val = 0 then zero else .finite negative code
  | x => x

/-- The number is whole and an integer of 64 bits with sign. -/
def fitsInt64 (n : Int) : Bool := decide (-(Nat.pow 2 63 : Nat) ≤ n ∧ n < (Nat.pow 2 63 : Nat))

/-! ## Small facts -/

@[simp] theorem numericallyEqual_nan (x : Binary64) : numericallyEqual .nan x = false := rfl

@[simp] theorem numericallyEqual_self {x : Binary64} (h : x ≠ .nan) :
    numericallyEqual x x = true := by
  cases x <;> simp_all [numericallyEqual]

theorem numericallyEqual_comm (x y : Binary64) :
    numericallyEqual x y = numericallyEqual y x := by
  cases x <;> cases y <;> grind [numericallyEqual]

example : ofInt 1 = .finite false ⟨1023 * 2 ^ 52, by decide⟩ := by decide +kernel

example : (ofQuotient true 3 2).toInt? = none ∧ (ofInt (-7)).toInt? = some (-7) := by
  decide +kernel

example : ofQuotient false 1 (2 ^ 1074) = .finite false ⟨1, by decide⟩ ∧
    ofInt (2 ^ 1024) = .infinite false := by decide +kernel

end Binary64

end ShapeSum
