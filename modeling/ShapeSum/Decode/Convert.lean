import ShapeSum.Decode.Mismatch
import ShapeSum.Text.Word

/-!
# Conversions of scalars

A scalar type takes its own values exactly, and some others by conversion.  A
conversion is *lax* when a value changes its kind, and *strict* when an integer
is taken for a double.
-/

namespace ShapeSum

open ShapeSum.Text (trim isBlank)

/-- How closely a value fits a type. -/
inductive Exactness where
  /-- The value was converted. -/
  | lax
  /-- An integer was taken for a double. -/
  | strict
  /-- The value has the type. -/
  | exact
  deriving DecidableEq

namespace Exactness

/-- The place among the degrees, the loosest at zero. -/
def rank : Exactness → Nat
  | .lax => 0
  | .strict => 1
  | .exact => 2

/-- The looser of two degrees. -/
def min (a b : Exactness) : Exactness := if a.rank ≤ b.rank then a else b

end Exactness

namespace Convert

/-- A character that may surround a number in a text. -/
def isPadding (c : Char) : Bool := isBlank c && !decide (0x1C ≤ c.toNat ∧ c.toNat ≤ 0x1F)

/-- A whole number in a text: a sign, digits in groups joined by single underscores, and perhaps
a point followed by zeros. -/
def integerInText? (s : List Char) : Option Int :=
  let (negative, rest) := Binary64.readSign (trim isPadding s)
  let sign (ds : List Char) : Int :=
    if negative then -(Binary64.digitsValue ds : Int) else Binary64.digitsValue ds
  match Binary64.spanGrouped false rest with
  | (d :: ds, []) => some (sign (d :: ds))
  | (d :: ds, '.' :: z :: zs) => if (z :: zs).all (· == '0') then some (sign (d :: ds)) else none
  | _ => none

/-- The texts that stand for a truth value. -/
def truthTexts : List (String × Bool) :=
  [("1", true), ("on", true), ("t", true), ("true", true), ("y", true), ("yes", true),
   ("0", false), ("off", false), ("f", false), ("false", false), ("n", false), ("no", false)]

/-- A text. -/
def text : Value → Except Mismatch (String × Exactness)
  | .str s => .ok (s, .exact)
  | _ => .error .text

/-- An integer. -/
def integer : Value → Except Mismatch (Int × Exactness)
  | .int n => .ok (n, .exact)
  | .bool b => .ok (if b then 1 else 0, .lax)
  | .float x =>
    if !x.isFinite then .error .notFinite
    else match x.toInt? with
      | none => .error .fraction
      | some n => if n.natAbs < Nat.pow 2 63 then .ok (n, .lax) else .error .size
  | .str s => match integerInText? s.toList with
    | some n => .ok (n, .lax)
    | none => .error .integerText
  | _ => .error .integer

/-- A finite double. -/
def number : Value → Except Mismatch (Binary64 × Exactness)
  | .float x => if x.isFinite then .ok (x, .exact) else .error .notFinite
  | .int n =>
    let x := Binary64.ofInt n
    if x.isFinite then .ok (x, .strict) else .error .number
  | .bool b => .ok (Binary64.ofInt (if b then 1 else 0), .lax)
  | .str s => match Binary64.read? (trim isPadding s.toList) with
    | some x => if x.isFinite then .ok (x, .lax) else .error .notFinite
    | none => .error .numberText
  | _ => .error .number

/-- A truth value from an integer. -/
def truthOfInt (n : Int) : Except Mismatch (Bool × Exactness) :=
  if n = 0 then .ok (false, .lax)
  else if n = 1 then .ok (true, .lax)
  else if Binary64.fitsInt64 n then .error .booleanLike
  else .error .boolean

/-- A truth value. -/
def truth : Value → Except Mismatch (Bool × Exactness)
  | .bool b => .ok (b, .exact)
  | .str s => match truthTexts.lookup (String.ofList (s.toList.map Char.toLower)) with
    | some b => .ok (b, .lax)
    | none => .error .booleanLike
  | .int n => truthOfInt n
  | .float x => match x.toInt? with
    | some n => truthOfInt n
    | none => .error .boolean
  | _ => .error .boolean

/-- Whether a literal and a value are of one kind and equal. -/
def matchesLiteral : Literal → Value → Bool
  | .null, .null => true
  | .bool a, .bool b => a == b
  | .int a, .int b => a == b
  | .str a, .str b => a == b
  | _, _ => false

/-- Whether a literal and a value are equal as numbers. -/
def equalsLiteral (l : Literal) (v : Value) : Bool :=
  let j : Json := match v with
    | .null => .null
    | .bool b => .bool b
    | .int n => .int n
    | .float x => .float x
    | _ => .arr []
  Json.sameScalar l.toJson j

/-- One of some literals: the one of the value's kind, or the last one that equals it. -/
def literal (values : List Literal) (v : Value) : Except Mismatch (Literal × Exactness) :=
  match values.find? (matchesLiteral · v) with
  | some l => .ok (l, .exact)
  | none =>
    let hasInt := values.any fun
      | .int _ => true
      | _ => false
    let huge := match v with
      | .int n => !Binary64.fitsInt64 n
      | _ => false
    if hasInt && huge then .error .size
    else match values.reverse.find? (equalsLiteral · v) with
      | some l => .ok (l, .exact)
      | none => .error (.literal values)

end Convert

end ShapeSum
