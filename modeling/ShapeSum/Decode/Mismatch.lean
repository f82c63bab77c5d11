import ShapeSum.Value.Basic

/-!
# Mismatches

A mismatch is the reason why a value is not taken at some place.  An issue adds
the place, as a path of keys, indices and labels of types.  A decode error lists
the issues of a value that should have become an object of a model.
-/

namespace ShapeSum

/-- Why a value is not taken. -/
inductive Mismatch where
  /-- The value is no text. -/
  | text
  /-- The value is no integer. -/
  | integer
  /-- The text does not denote an integer. -/
  | integerText
  /-- The number has a fraction. -/
  | fraction
  /-- The number is too large for an integer. -/
  | size
  /-- The number is not finite. -/
  | notFinite
  /-- The value is no number. -/
  | number
  /-- The text does not denote a number. -/
  | numberText
  /-- The value is no truth value. -/
  | boolean
  /-- The value does not stand for a truth value. -/
  | booleanLike
  /-- The value is not null. -/
  | null
  /-- The value is no object. -/
  | object
  /-- The value is no list. -/
  | list
  /-- The value is no list that can be made immutable. -/
  | tuple
  /-- The value is none of the literals. -/
  | literal (values : List Literal)
  /-- The value is neither an object nor a value of the model of this name. -/
  | model (name : String)
  /-- A required field is missing. -/
  | missing
  /-- There is no field under this key. -/
  | extra
  /-- A union does not take the value, for a reason of its own. -/
  | union (message : String)
  /-- The type of this name was never found. -/
  | unresolved (name : String)
  /-- A union comes upon the model of this name, which was never completed.  That is no verdict on
  the value: it ends the whole decoding. -/
  | undefined (typeName : String)

/-- Texts with commas between them and a word before the last. -/
def joinOr : List String → String
  | [] => ""
  | [a] => a
  | [a, b] => s!"{a} or {b}"
  | a :: rest => s!"{a}, {joinOr rest}"

/-- The wording of a mismatch. -/
def Mismatch.message : Mismatch → String
  | .text => "Input should be a valid string"
  | .integer => "Input should be a valid integer"
  | .integerText => "Input should be a valid integer, unable to parse string as an integer"
  | .fraction => "Input should be a valid integer, got a number with a fractional part"
  | .size => "Unable to parse input string as an integer, exceeded maximum size"
  | .notFinite => "Input should be a finite number"
  | .number => "Input should be a valid number"
  | .numberText => "Input should be a valid number, unable to parse string as a number"
  | .boolean => "Input should be a valid boolean"
  | .booleanLike => "Input should be a valid boolean, unable to interpret input"
  | .null => "Input should be None"
  | .object => "Input should be a valid dictionary"
  | .list => "Input should be a valid list"
  | .tuple => "Input should be a valid tuple"
  | .literal values => "Input should be " ++ joinOr (values.map (·.toJson.display))
  | .model name => s!"Input should be a valid dictionary or instance of {name}"
  | .missing => "Field required"
  | .extra => "Extra inputs are not permitted"
  | .union message => "Value error, " ++ message
  | .unresolved name => s!"{name} is not defined"
  | .undefined typeName => s!"'{typeName}' is not fully defined"

/-- A mismatch and its place. -/
structure Issue where
  /-- Keys, indices and labels from the outside in. -/
  path : List String
  /-- The reason. -/
  mismatch : Mismatch

/-- The issue seen from one level further out. -/
def Issue.under (step : String) (i : Issue) : Issue := { i with path := step :: i.path }

/-- The model that was never completed, if that is the mismatch. -/
def Mismatch.undefined? : Mismatch → Option String
  | .undefined typeName => some typeName
  | _ => none

/-- The first model among some issues that was never completed. -/
def undefinedIn? (issues : List Issue) : Option String :=
  issues.findSome? (·.mismatch.undefined?)

/-- Why a value does not become an object of a model. -/
inductive DecodeError where
  /-- The value has issues. -/
  | rejected (typeName : String) (issues : List Issue)
  /-- A model that the value needs was never completed. -/
  | incomplete (typeName : String)

/-- The name of the type that the value should have become. -/
def DecodeError.typeName : DecodeError → String
  | .rejected n _ => n
  | .incomplete n => n

/-- The wording of an issue with its place. -/
def Issue.message (i : Issue) : String :=
  let path := ".".intercalate i.path
  (if path.isEmpty then "<root>" else path) ++ ": " ++ i.mismatch.message

/-- The wording of a decode error. -/
def DecodeError.message : DecodeError → String
  | .rejected typeName issues =>
    s!"Cannot decode value as '{typeName}': " ++ "; ".intercalate (issues.map Issue.message)
  | .incomplete typeName => s!"'{typeName}' is not fully defined"

end ShapeSum
