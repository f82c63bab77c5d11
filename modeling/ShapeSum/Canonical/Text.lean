import ShapeSum.Canonical.Datum
import ShapeSum.Digest
import ShapeSum.Json.Writer
import ShapeSum.SortedNames
import ShapeSum.Text.Normal

/-!
# Canonical text

Data that differ only in the order of object keys, in the kind of a sequence, in
the sign of zero, or in the composition of characters have one canonical text.
The normal form of texts is a parameter of the functions that build it; the
program uses the composed form.

`equalityForm` maps values that are equal as numbers to one value, so that equal
values have equal digests.
-/

namespace ShapeSum

namespace Datum

mutual

/-- The canonical JSON of a datum without faults.  Of keys with one normal form, the value of the
greatest key stays. -/
def canonicalJson (normal : String → String) : Datum → Json
  | .null => .null
  | .bool b => .bool b
  | .int n => .int n
  | .float x => .float x.unsignedZero
  | .str s => .str (normal s)
  | .list items => .arr (canonicalItems normal items)
  | .tuple items => .arr (canonicalItems normal items)
  | .dict entries =>
    .obj (Entries.ofPairs ((Entries.sorted (canonicalEntries normal entries)).map
      fun (k, v) => (normal k, v)))
  | .foreign _ => .null

/-- The canonical JSON of items. -/
def canonicalItems (normal : String → String) : List Datum → List Json
  | [] => []
  | x :: xs => canonicalJson normal x :: canonicalItems normal xs

/-- The entries under textual keys, with the canonical JSON of their values. -/
def canonicalEntries (normal : String → String) : List (DatumKey × Datum) → List (String × Json)
  | [] => []
  | (.int _, _) :: rest => canonicalEntries normal rest
  | (.text k, v) :: rest => (k, canonicalJson normal v) :: canonicalEntries normal rest

end

end Datum

/-- The canonical text of a datum under a normal form of texts. -/
def canonicalTextWith (normal : String → String) (allowFloats : Bool) (d : Datum) :
    Except CanonicalFault String :=
  match d.fault? allowFloats "" with
  | some f => .error f
  | none => .ok (d.canonicalJson normal).compact

/-- The canonical text of a datum. -/
def canonicalText (allowFloats : Bool) (d : Datum) : Except CanonicalFault String :=
  canonicalTextWith Text.composed allowFloats d

/-! ## Digests of values -/

mutual

/-- The form that values have in common when they are equal as numbers. -/
def equalityForm : Json → Datum
  | .null => .null
  | .bool b => .int (if b then 1 else 0)
  | .int n => .int n
  | .float .nan => .str "NaN"
  | .float (.infinite negative) => .str (if negative then "-Infinity" else "Infinity")
  | .float x => match x.toInt? with
    | some n => .int n
    | none => .float x
  | .str s => .str s
  | .arr items => .list (equalityItems items)
  | .obj members => .dict (equalityMembers members)

/-- `equalityForm` of items. -/
def equalityItems : List Json → List Datum
  | [] => []
  | x :: xs => equalityForm x :: equalityItems xs

/-- `equalityForm` of members. -/
def equalityMembers : List (String × Json) → List (DatumKey × Datum)
  | [] => []
  | (k, v) :: ms => (.text k, equalityForm v) :: equalityMembers ms

end

/-- The text whose digest stands for a JSON value. -/
def digestText (j : Json) : Except CanonicalFault String := canonicalText true (equalityForm j)

/-- The digest of a JSON value.  Equal values have equal digests. -/
def digest (j : Json) : Except CanonicalFault String := (digestText j).map Digest.ofText

/-! ## Fingerprints -/

/-- The datum that a pair of name sets is fingerprinted by. -/
def fingerprintDatum (required optional : List String) : Datum :=
  .dict [(.text "optional", .list ((sortedNames optional).map .str)),
    (.text "required", .list ((sortedNames required).map .str))]

/-- The text whose digest is the fingerprint of a pair of name sets. -/
def fingerprintText (required optional : List String) : String :=
  ((fingerprintDatum required optional).canonicalJson Text.composed).compact

/-- The fingerprint of a pair of name sets. -/
def fingerprint (required optional : List String) : String :=
  Digest.ofText (fingerprintText required optional)

end ShapeSum
