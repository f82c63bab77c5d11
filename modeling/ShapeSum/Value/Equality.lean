import ShapeSum.Canonical.Text
import ShapeSum.Value.Dump

/-!
# Equality and hashes of values

Values are equal when their parts are, numbers by their value.  Which fields of a
model were set does not count, and nan equals nothing.  The values of a union are
compared by tag and payload, unless the union says that they are not compared at
all.

A hash is represented by a form such that two hashes are equal exactly when their
forms are.  Under the canonical strategy it is made of the tag and the digest of
the payload; under the native one of the parts of the value, and a list or an
object that is free to change has none.
-/

namespace ShapeSum

namespace Value

/-! ## Equality -/

/-- A scalar as JSON; a container as an array, which equals no scalar. -/
def scalarJson : Value → Json
  | .null => .null
  | .bool b => .bool b
  | .int n => .int n
  | .float x => .float x
  | _ => .arr []

/-- Whether the values of the union at a place are compared by their parts. -/
def isStructural (types : Types) (union : TypeId) : Bool :=
  match types.union? union with
  | some u => u.structural
  | none => false

/-- Whether every value under a name that other fields lack is null. -/
def restNull (others : List (String × Value)) (fields : List (String × Value)) : Bool :=
  fields.all fun (k, v) => Entries.has others k || match v with
    | .null => true
    | _ => false

mutual

/-- Whether two values are equal. -/
def same (types : Types) : Value → Value → Bool
  | .str s, b => match b with
    | .str t => s == t
    | _ => false
  | .list xs, b => match b with
    | .list ys => sameItems types xs ys
    | _ => false
  | .tuple xs, b => match b with
    | .tuple ys => sameItems types xs ys
    | _ => false
  | .dict es, b => match b with
    | .dict fs => es.length == fs.length && sameEntries types es fs
    | _ => false
  | .record m es, b => match b with
    | .record n fs => m == n && sameFields types es fs && restNull es fs
    | _ => false
  | .choice u s p, b => match b with
    | .choice v t q => u == v && isStructural types u && s == t && same types p q
    | _ => false
  | a, b => Json.sameScalar a.scalarJson b.scalarJson

/-- Whether two lists are equal item by item. -/
def sameItems (types : Types) : List Value → List Value → Bool
  | [], ys => ys.isEmpty
  | x :: xs, ys => match ys with
    | y :: ys => same types x y && sameItems types xs ys
    | [] => false

/-- Whether every entry has an equal one under its key. -/
def sameEntries (types : Types) : List (String × Value) → List (String × Value) → Bool
  | [], _ => true
  | (k, v) :: es, fs => (match Entries.get? fs k with
    | some w => same types v w
    | none => false) && sameEntries types es fs

/-- Whether every field equals the one of its name, which is null where it was not set. -/
def sameFields (types : Types) : List (String × Value) → List (String × Value) → Bool
  | [], _ => true
  | (k, v) :: es, fs =>
    same types v ((Entries.get? fs k).getD .null) && sameFields types es fs

end

/-! ## Hashes -/

/-- Why a value has no hash that other values could share. -/
inductive HashFault where
  /-- The value can be changed. -/
  | changeable
  /-- The value's JSON has no canonical form. -/
  | canonical (f : CanonicalFault)
  deriving Inhabited

/-- The modulus of the hashes of numbers. -/
def hashModulus : Nat := Nat.pow 2 61 - 1

/-- The hash of an integer: its remainder with its sign, and minus two for minus one. -/
def hashInt (n : Int) : Int :=
  let r : Int := n.natAbs % hashModulus
  let r := if n < 0 then -r else r
  if r = -1 then -2 else r

/-- The hash form of a number. -/
def hashNumber (j : Json) : Json :=
  match j with
  | .float x => match x.toInt? with
    | some n => .int (hashInt n)
    | none => .float x
  | j => match j.asInt? with
    | some n => .int (hashInt n)
    | none => j

/-- The hash form of several parts; one part alone is hashed as itself. -/
def hashParts : List Json → Json
  | [] => .int 0
  | [j] => j
  | js => .arr js

mutual

/-- The hash form of a value.  Values that are only equal to themselves have the form nan. -/
def hashForm (types : Types) : Value → Except HashFault Json
  | .str s => .ok (.str s)
  | .tuple items => (hashItems types items).map .arr
  | .list _ => .error .changeable
  | .dict _ => .error .changeable
  | .record model fields =>
    match types.model? model with
    | none => .error .changeable
    | some m =>
      if m.frozen then do
        let forms ← hashEntries types fields
        return hashParts (m.fields.map fun f => (Entries.get? forms f.name).getD .null)
      else .error .changeable
  | .choice union tag payload =>
    match types.union? union with
    | none => .error .changeable
    | some u =>
      if !u.structural then .ok (.float .nan)
      else match u.hashing with
        | .native => (hashForm types payload).map fun p => .arr [.str tag, p]
        | .canonicalJson => match digest (payload.toJson types .full) with
          | .ok d => .ok (.arr [.str tag, .str d])
          | .error f => .error (.canonical f)
  | v => .ok (hashNumber v.scalarJson)

/-- The hash forms of items. -/
def hashItems (types : Types) : List Value → Except HashFault (List Json)
  | [] => .ok []
  | x :: xs => do
    let j ← hashForm types x
    return j :: (← hashItems types xs)

/-- The hash forms of fields. -/
def hashEntries (types : Types) : List (String × Value) → Except HashFault (List (String × Json))
  | [] => .ok []
  | (k, v) :: es => do
    let j ← hashForm types v
    return (k, j) :: (← hashEntries types es)

end

/-- Whether two values have equal hashes. -/
def sameHash (types : Types) (a b : Value) : Except HashFault Bool := do
  let j ← hashForm types a
  let k ← hashForm types b
  return j.same k

end Value

end ShapeSum
