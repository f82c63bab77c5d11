import ShapeSum.Entries
import ShapeSum.Number.Decimal
import ShapeSum.Text.Quoted

/-!
# JSON values

A JSON value keeps integers of any size apart from doubles, and the members of
an object in order.  `same` is the equality of values under which `1`, `1.0` and
`true` are equal, the order of members does not count and nan equals nothing.
`display` writes a value the way messages show it.
-/

namespace ShapeSum

/-- A JSON value. -/
inductive Json where
  /-- The null value. -/
  | null
  /-- A truth value. -/
  | bool (b : Bool)
  /-- An integer. -/
  | int (n : Int)
  /-- A double. -/
  | float (x : Binary64)
  /-- A text. -/
  | str (s : String)
  /-- An array. -/
  | arr (items : List Json)
  /-- An object. -/
  | obj (members : List (String × Json))
  deriving Inhabited

namespace Json

/-! ## Parts of a value -/

/-- The member of an object under a key. -/
def get? (j : Json) (key : String) : Option Json :=
  match j with
  | .obj members => Entries.get? members key
  | _ => none

/-- Whether the value is an object. -/
def isObject : Json → Bool
  | .obj _ => true
  | _ => false

/-- The text, if the value is one. -/
def text? : Json → Option String
  | .str s => some s
  | _ => none

/-- The name of the value's kind, as messages give it. -/
def kind : Json → String
  | .null => "NoneType"
  | .bool _ => "bool"
  | .int _ => "int"
  | .float _ => "float"
  | .str _ => "str"
  | .arr _ => "list"
  | .obj _ => "dict"

/-! ## Equality -/

/-- The integer that a truth value or an integer counts as. -/
def asInt? : Json → Option Int
  | .bool b => some (if b then 1 else 0)
  | .int n => some n
  | _ => none

/-- Whether two values that are neither texts nor containers are equal, numbers by their value. -/
def sameScalar (a b : Json) : Bool :=
  match a, b with
  | .null, .null => true
  | .float x, .float y => x.numericallyEqual y
  | .float x, b => match b.asInt? with
    | some n => x.toInt? == some n
    | none => false
  | a, .float y => match a.asInt? with
    | some n => y.toInt? == some n
    | none => false
  | a, b => match a.asInt?, b.asInt? with
    | some m, some n => m == n
    | _, _ => false

/-- `sameScalar`, with nan equal to itself. -/
def sameScalarOrNan (a b : Json) : Bool :=
  match a, b with
  | .float .nan, .float .nan => true
  | a, b => sameScalar a b

mutual

/-- Whether two values are equal, given when scalars are; the order of members does not count. -/
def sameBy (scalar : Json → Json → Bool) : Json → Json → Bool
  | .str s, b => match b with
    | .str t => s == t
    | _ => false
  | .arr xs, b => match b with
    | .arr ys => sameItems scalar xs ys
    | _ => false
  | .obj ms, b => match b with
    | .obj ns => ms.length == ns.length && sameMembers scalar ms ns
    | _ => false
  | a, b => scalar a b

/-- Whether two arrays are equal item by item. -/
def sameItems (scalar : Json → Json → Bool) : List Json → List Json → Bool
  | [], ys => ys.isEmpty
  | x :: xs, ys => match ys with
    | y :: ys => sameBy scalar x y && sameItems scalar xs ys
    | [] => false

/-- Whether every member of the first object has an equal member in the second. -/
def sameMembers (scalar : Json → Json → Bool) : List (String × Json) → List (String × Json) → Bool
  | [], _ => true
  | (k, v) :: ms, ns => (match Entries.get? ns k with
    | some w => sameBy scalar v w
    | none => false) && sameMembers scalar ms ns

end

/-- Whether two values are equal, numbers by their value and nan to nothing. -/
def same : Json → Json → Bool := sameBy sameScalar

/-- Whether two values are equal as content: as `same` says, with nan equal to itself. -/
def sameContent : Json → Json → Bool := sameBy sameScalarOrNan

/-! ## The text shown in messages -/

mutual

/-- The text of a value in a message. -/
def display : Json → String
  | .null => "None"
  | .bool b => if b then "True" else "False"
  | .int n => toString n
  | .float x => x.plain
  | .str s => Text.quoted s
  | .arr items => "[" ++ ", ".intercalate (displayItems items) ++ "]"
  | .obj members => "\x7b" ++ ", ".intercalate (displayMembers members) ++ "\x7d"

/-- The texts of items. -/
def displayItems : List Json → List String
  | [] => []
  | x :: xs => display x :: displayItems xs

/-- The texts of members. -/
def displayMembers : List (String × Json) → List String
  | [] => []
  | (k, v) :: ms => (Text.quoted k ++ ": " ++ display v) :: displayMembers ms

end

example : same (.arr [.int 1, .bool true]) (.arr [.bool true, .float (.ofInt 1)]) = true := by
  decide +kernel

example : same (.obj [("a", .null), ("b", .int 2)]) (.obj [("b", .int 2), ("a", .null)]) = true := by
  decide +kernel

end Json

/-- The display of a list of texts. -/
def displayTexts (xs : List String) : String :=
  "[" ++ ", ".intercalate (xs.map Text.quoted) ++ "]"

/-- The display of a fixed sequence of texts; a single one is followed by a comma. -/
def displayTuple (xs : List String) : String :=
  match xs with
  | [x] => "(" ++ Text.quoted x ++ ",)"
  | xs => "(" ++ ", ".intercalate (xs.map Text.quoted) ++ ")"

end ShapeSum
