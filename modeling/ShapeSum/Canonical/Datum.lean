import ShapeSum.Json.Basic

/-!
# Data to be put into canonical form

A datum is a JSON value or something close to one: a fixed sequence, an object
with keys that are no texts, or a value of a kind that JSON does not know.
`fault?` finds the first part that has no canonical form.
-/

namespace ShapeSum

/-- A key of an object. -/
inductive DatumKey where
  /-- A text. -/
  | text (s : String)
  /-- An integer. -/
  | int (n : Int)

/-- A value to be put into canonical form. -/
inductive Datum where
  /-- The null value. -/
  | null
  /-- A truth value. -/
  | bool (b : Bool)
  /-- An integer. -/
  | int (n : Int)
  /-- A double. -/
  | float (x : Binary64)
  /-- A text. -/
  | str (s : String)
  /-- A list. -/
  | list (items : List Datum)
  /-- A fixed sequence. -/
  | tuple (items : List Datum)
  /-- An object. -/
  | dict (entries : List (DatumKey × Datum))
  /-- A value of a kind that JSON does not know. -/
  | foreign (kind : String)
  deriving Inhabited

/-- Why a datum has no canonical form. -/
inductive CanonicalFault where
  /-- A double where none is allowed. -/
  | float (path : String)
  /-- A double that is not finite. -/
  | notFinite (path : String)
  /-- A key of this kind is no text. -/
  | key (path kind : String)
  /-- A value of a kind that JSON does not know. -/
  | foreign (path kind : String)

/-- A path, with a name for the empty one. -/
def pathOrRoot (path : String) : String := if path.isEmpty then "<root>" else path

/-- The wording of a fault. -/
def CanonicalFault.message : CanonicalFault → String
  | .float path => s!"Floats are not allowed (at {pathOrRoot path})"
  | .notFinite path => s!"Invalid number at {pathOrRoot path}: NaN or Inf not allowed"
  | .key path kind => s!"Dictionary keys must be strings at {path}, got {kind}"
  | .foreign path kind => s!"Non-JSON type at {pathOrRoot path}: {kind}"

namespace Datum

mutual

/-- A JSON value as a datum. -/
def ofJson : Json → Datum
  | .null => .null
  | .bool b => .bool b
  | .int n => .int n
  | .float x => .float x
  | .str s => .str s
  | .arr items => .list (ofItems items)
  | .obj members => .dict (ofMembers members)

/-- JSON values as data. -/
def ofItems : List Json → List Datum
  | [] => []
  | x :: xs => ofJson x :: ofItems xs

/-- Members as entries. -/
def ofMembers : List (String × Json) → List (DatumKey × Datum)
  | [] => []
  | (k, v) :: ms => (.text k, ofJson v) :: ofMembers ms

end

mutual

/-- The first fault of a datum at a path. -/
def fault? (allowFloats : Bool) (path : String) : Datum → Option CanonicalFault
  | .float x =>
    if !allowFloats then some (.float path)
    else if !x.isFinite then some (.notFinite path)
    else none
  | .list items => itemFault? allowFloats path 0 items
  | .tuple items => itemFault? allowFloats path 0 items
  | .dict entries => entryFault? allowFloats path entries
  | .foreign kind => some (.foreign path kind)
  | _ => none

/-- The first fault among items, numbered from an index on. -/
def itemFault? (allowFloats : Bool) (path : String) (index : Nat) :
    List Datum → Option CanonicalFault
  | [] => none
  | x :: xs => (fault? allowFloats s!"{path}[{index}]" x).or
      (itemFault? allowFloats path (index + 1) xs)

/-- The first fault among entries. -/
def entryFault? (allowFloats : Bool) (path : String) :
    List (DatumKey × Datum) → Option CanonicalFault
  | [] => none
  | (.int _, _) :: _ => some (.key path "int")
  | (.text k, v) :: rest =>
    (fault? allowFloats (if path.isEmpty then k else s!"{path}.{k}") v).or
      (entryFault? allowFloats path rest)

end

end Datum

end ShapeSum
