import ShapeSum.Json.Writer

/-!
# Field types

The type of a field says which values the field takes and how they are
converted.  Types of objects and unions are named by their place in the table of
generated types.  A choice of several types is held flat, without repetitions;
`alternatives` makes one, and a choice of one is that one.
-/

namespace ShapeSum

/-- The place of a generated type in the table of types. -/
abbrev TypeId := Nat

/-- A value that a field may be restricted to. -/
inductive Literal where
  /-- The null value. -/
  | null
  /-- A truth value. -/
  | bool (b : Bool)
  /-- An integer. -/
  | int (n : Int)
  /-- A text. -/
  | str (s : String)
  deriving DecidableEq

namespace Literal

/-- The literal as JSON. -/
def toJson : Literal → Json
  | .null => .null
  | .bool b => .bool b
  | .int n => .int n
  | .str s => .str s

/-- The literal that a JSON value is, if it is one. -/
def ofJson? : Json → Option Literal
  | .null => some .null
  | .bool b => some (.bool b)
  | .int n => some (.int n)
  | .str s => some (.str s)
  | _ => none

end Literal

/-- The type of a field. -/
inductive FieldType where
  /-- Texts. -/
  | text
  /-- Integers. -/
  | integer
  /-- Finite doubles. -/
  | number
  /-- Truth values. -/
  | boolean
  /-- The null value. -/
  | null
  /-- Everything. -/
  | any
  /-- Objects with any members. -/
  | object
  /-- Lists. -/
  | list (item : FieldType)
  /-- Immutable lists. -/
  | tuple (item : FieldType)
  /-- One of some literals. -/
  | literal (values : List Literal)
  /-- The objects of a generated model. -/
  | model (id : TypeId)
  /-- The values of a generated union. -/
  | union (id : TypeId)
  /-- The type of this name, which is not known yet. -/
  | named (name : String)
  /-- A choice of types. -/
  | choice (options : List FieldType)
  deriving Inhabited

namespace FieldType

mutual

/-- Whether two types are the same. -/
def same : FieldType → FieldType → Bool
  | .text, .text => true
  | .integer, .integer => true
  | .number, .number => true
  | .boolean, .boolean => true
  | .null, .null => true
  | .any, .any => true
  | .object, .object => true
  | .list a, .list b => same a b
  | .tuple a, .tuple b => same a b
  | .literal a, .literal b => a == b
  | .model a, .model b => a == b
  | .union a, .union b => a == b
  | .named a, .named b => a == b
  | .choice as, .choice bs => sameAll as bs
  | _, _ => false

/-- Whether two lists of types are the same. -/
def sameAll : List FieldType → List FieldType → Bool
  | [], [] => true
  | a :: as, b :: bs => same a b && sameAll as bs
  | _, _ => false

end

/-- The options of a type: those of a choice, or the type itself. -/
def options : FieldType → List FieldType
  | .choice os => os
  | t => [t]

/-- A list of types without those that came before. -/
def distinct (seen : List FieldType) : List FieldType → List FieldType
  | [] => []
  | t :: ts => if seen.any (same t) then distinct seen ts else t :: distinct (t :: seen) ts

/-- The choice of some types. -/
def alternatives (ts : List FieldType) : FieldType :=
  match distinct [] (ts.flatMap options) with
  | [t] => t
  | os => .choice os

/-- A type that also takes null. -/
def optional (t : FieldType) : FieldType := alternatives [t, .null]

mutual

/-- A type with the types of some names put in their places. -/
def resolve (lookup : String → Option FieldType) : FieldType → FieldType
  | .named n => (lookup n).getD (.named n)
  | .list t => .list (resolve lookup t)
  | .tuple t => .tuple (resolve lookup t)
  | .choice os => alternatives (resolveAll lookup os)
  | t => t

/-- `resolve` on a list of types. -/
def resolveAll (lookup : String → Option FieldType) : List FieldType → List FieldType
  | [] => []
  | t :: ts => resolve lookup t :: resolveAll lookup ts

end

mutual

/-- The names in a type that are not resolved. -/
def names : FieldType → List String
  | .named n => [n]
  | .list t => names t
  | .tuple t => names t
  | .choice os => namesOfAll os
  | _ => []

/-- `names` of a list of types. -/
def namesOfAll : List FieldType → List String
  | [] => []
  | t :: ts => names t ++ namesOfAll ts

end

mutual

/-- The models in a type. -/
def models : FieldType → List TypeId
  | .model id => [id]
  | .list t => models t
  | .tuple t => models t
  | .choice os => modelsOfAll os
  | _ => []

/-- `models` of a list of types. -/
def modelsOfAll : List FieldType → List TypeId
  | [] => []
  | t :: ts => models t ++ modelsOfAll ts

end

/-! ## Texts -/

mutual

/-- The text of a type in a report; `nameOf` gives the names of generated types. -/
def describe (nameOf : TypeId → String) : FieldType → String
  | .text => "str"
  | .integer => "int"
  | .number => "float"
  | .boolean => "bool"
  | .null => "null"
  | .any => "any"
  | .object => "dict"
  | .list t => s!"list[{describe nameOf t}]"
  | .tuple t => s!"tuple[{describe nameOf t}]"
  | .literal vs => "literal" ++ (Json.arr (vs.map Literal.toJson)).compact
  | .model id => "model " ++ nameOf id
  | .union id => "union " ++ nameOf id
  | .named n => n
  | .choice os => " | ".intercalate (describeAll nameOf os)

/-- The texts of a list of types. -/
def describeAll (nameOf : TypeId → String) : List FieldType → List String
  | [] => []
  | t :: ts => describe nameOf t :: describeAll nameOf ts

end

mutual

/-- The label of a type in the path of an error.  A choice with null among its options is a
nullable type around the choice of the others. -/
def label (nameOf : TypeId → String) : FieldType → String
  | .text => "str"
  | .integer => "int"
  | .number => "float"
  | .boolean => "bool"
  | .null => "none"
  | .any => "any"
  | .object => "dict[str,any]"
  | .list t => s!"list[{label nameOf t}]"
  | .tuple t => s!"tuple[{label nameOf t}, ...]"
  | .literal vs => "literal[" ++ ",".intercalate (vs.map (·.toJson.display)) ++ "]"
  | .model id => nameOf id
  | .union _ => "function-plain[_coerce()]"
  | .named n => n
  | .choice os =>
    let inner := match labels nameOf os with
      | [l] => l
      | ls => "union[" ++ ",".intercalate ls ++ "]"
    if os.any (same .null) then s!"nullable[{inner}]" else inner

/-- The labels of a list of types, null left out. -/
def labels (nameOf : TypeId → String) : List FieldType → List String
  | [] => []
  | t :: ts => if same t .null then labels nameOf ts else label nameOf t :: labels nameOf ts

end

example : (optional (alternatives [.text, .integer, .text])).describe (fun _ => "") =
    "str | int | null" := by decide +kernel

example : (FieldType.list (optional .integer)).label (fun _ => "") = "list[nullable[int]]" := by
  decide +kernel

end FieldType

end ShapeSum
