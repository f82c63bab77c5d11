import ShapeSum.Value.Basic

/-!
# Values as JSON and as text

Dumping turns a value back into JSON.  The fields of a model come under the names
of their properties.  Either only the fields that were set are dumped, or all of
them; the payload of a union that is met on the way is always dumped with the
fields that were set.  Doubles that are not finite become null.
-/

namespace ShapeSum

namespace Value

/-- Which fields of a model are dumped. -/
inductive DumpMode where
  /-- The fields that were set. -/
  | set
  /-- All fields, null for those that were not set. -/
  | full
  deriving DecidableEq

/-- The dump of a model from the dumps of the fields that were set. -/
def dumpFields (fields : List Field) (mode : DumpMode) (dumped : List (String × Json)) :
    List (String × Json) :=
  fields.filterMap fun f =>
    match Entries.get? dumped f.name, mode with
    | some j, _ => some (f.property, j)
    | none, .full => some (f.property, .null)
    | none, .set => none

mutual

/-- A value as JSON. -/
def toJson (types : Types) (mode : DumpMode) : Value → Json
  | .null => .null
  | .bool b => .bool b
  | .int n => .int n
  | .float x => if x.isFinite then .float x else .null
  | .str s => .str s
  | .list items => .arr (itemsToJson types mode items)
  | .tuple items => .arr (itemsToJson types mode items)
  | .dict entries => .obj (entriesToJson types mode entries)
  | .record model fields =>
    .obj (dumpFields (types.fieldsOf model) mode (entriesToJson types mode fields))
  | .choice _ _ payload => toJson types .set payload

/-- `toJson` on items. -/
def itemsToJson (types : Types) (mode : DumpMode) : List Value → List Json
  | [] => []
  | x :: xs => toJson types mode x :: itemsToJson types mode xs

/-- `toJson` on entries. -/
def entriesToJson (types : Types) (mode : DumpMode) : List (String × Value) → List (String × Json)
  | [] => []
  | (k, v) :: es => (k, toJson types mode v) :: entriesToJson types mode es

end

mutual

/-- The text of a value, with the names of models and unions. -/
def display (types : Types) : Value → String
  | .null => "None"
  | .bool b => if b then "True" else "False"
  | .int n => toString n
  | .float x => x.plain
  | .str s => Text.quoted s
  | .list items => "[" ++ ", ".intercalate (displayItems types items) ++ "]"
  | .tuple [x] => "(" ++ display types x ++ ",)"
  | .tuple items => "(" ++ ", ".intercalate (displayItems types items) ++ ")"
  | .dict entries =>
    "\x7b" ++ ", ".intercalate ((displayEntries types entries).map fun (k, t) =>
      Text.quoted k ++ ": " ++ t) ++ "\x7d"
  | .record model fields =>
    let shown := displayEntries types fields
    types.nameOf model ++ "(" ++ ", ".intercalate ((types.fieldsOf model).map fun f =>
      f.name ++ "=" ++ (Entries.get? shown f.name).getD "None") ++ ")"
  | .choice union tag payload =>
    types.nameOf union ++ "(" ++ tag ++ ", " ++ display types payload ++ ")"

/-- The texts of items. -/
def displayItems (types : Types) : List Value → List String
  | [] => []
  | x :: xs => display types x :: displayItems types xs

/-- The texts of entries. -/
def displayEntries (types : Types) : List (String × Value) → List (String × String)
  | [] => []
  | (k, v) :: es => (k, display types v) :: displayEntries types es

end

end Value

end ShapeSum
