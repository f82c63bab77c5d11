import ShapeSum.Types.Table

/-!
# Values

A value is what decoding produces: plain data, the objects of a model with the
fields that were set, and the values of a union with their tag and payload.  JSON
is plain data.
-/

namespace ShapeSum

/-- A decoded value. -/
inductive Value where
  /-- The null value. -/
  | null
  /-- A truth value. -/
  | bool (b : Bool)
  /-- An integer. -/
  | int (n : Int)
  /-- A double. -/
  | float (x : Binary64)
  /-- A text. -/
  | str (s : String)
  /-- A list. -/
  | list (items : List Value)
  /-- An immutable list. -/
  | tuple (items : List Value)
  /-- An object of no model. -/
  | dict (entries : List (String × Value))
  /-- An object of a model, by the names of the fields that were set, in order. -/
  | record (model : TypeId) (fields : List (String × Value))
  /-- A value of a union. -/
  | choice (union : TypeId) (tag : String) (payload : Value)
  deriving Inhabited

namespace Value

mutual

/-- JSON as a value. -/
def ofJson : Json → Value
  | .null => .null
  | .bool b => .bool b
  | .int n => .int n
  | .float x => .float x
  | .str s => .str s
  | .arr items => .list (ofItems items)
  | .obj members => .dict (ofMembers members)

/-- `ofJson` on items. -/
def ofItems : List Json → List Value
  | [] => []
  | x :: xs => ofJson x :: ofItems xs

/-- `ofJson` on members. -/
def ofMembers : List (String × Json) → List (String × Value)
  | [] => []
  | (k, v) :: ms => (k, ofJson v) :: ofMembers ms

end

/-- The name of the value's kind, as messages give it. -/
def kind (types : Types) : Value → String
  | .null => "NoneType"
  | .bool _ => "bool"
  | .int _ => "int"
  | .float _ => "float"
  | .str _ => "str"
  | .list _ => "list"
  | .tuple _ => "tuple"
  | .dict _ => "dict"
  | .record model _ => types.nameOf model
  | .choice union _ _ => types.nameOf union

/-- A literal as a value. -/
def ofLiteral : Literal → Value
  | .null => .null
  | .bool b => .bool b
  | .int n => .int n
  | .str s => .str s

end Value

end ShapeSum
