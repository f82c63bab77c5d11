import ShapeSum.Json.Basic

/-!
# Writing JSON text

The writer sorts the members of every object by key, in the order of code
points.  Only the quote, the backslash and the control characters are escaped.
The layout is compact or indented; indented, an empty container stays on its
line.
-/

namespace ShapeSum

/-! ## Sorting -/

/-- Inserts an entry before the first one with a greater key. -/
def Entries.insertSorted {α : Type} (p : String × α) : Entries α → Entries α
  | [] => [p]
  | q :: rest => if p.1 < q.1 then p :: q :: rest else q :: insertSorted p rest

/-- The entries sorted by key; entries of one key keep their order. -/
def Entries.sorted {α : Type} (e : Entries α) : Entries α :=
  e.foldl (fun acc p => insertSorted p acc) []

namespace Json

/-! ## Strings -/

/-- A character inside a string. -/
def escape (c : Char) : List Char :=
  match c with
  | '"' => ['\\', '"']
  | '\\' => ['\\', '\\']
  | '\n' => ['\\', 'n']
  | '\r' => ['\\', 'r']
  | '\t' => ['\\', 't']
  | '\x08' => ['\\', 'b']
  | '\x0c' => ['\\', 'f']
  | c => if c.toNat < 0x20 then '\\' :: 'u' :: Text.hexDigits 4 c.toNat else [c]

/-- A string with its quotes. -/
def stringText (s : String) : String := String.ofList ('"' :: (s.toList.flatMap escape ++ ['"']))

/-- A double, with names for those that are not finite. -/
def floatText (x : Binary64) : String :=
  String.ofList (x.text "NaN".toList "Infinity".toList)

/-! ## Values -/

/-- How a value is laid out. -/
inductive Layout where
  /-- On one line without blanks. -/
  | compact
  /-- One item a line, each level shifted by a number of blanks. -/
  | indented (width : Nat)

/-- The break before an item at a depth. -/
def Layout.break (l : Layout) (depth : Nat) : String :=
  match l with
  | .compact => ""
  | .indented w => String.ofList ('\n' :: List.replicate (w * depth) ' ')

/-- What stands between a key and its value. -/
def Layout.colon : Layout → String
  | .compact => ":"
  | .indented _ => ": "

/-- Items between brackets, at a depth. -/
def enclose (l : Layout) (depth : Nat) (opening closing : String) (items : List String) : String :=
  match items with
  | [] => opening ++ closing
  | items =>
    opening ++ l.break (depth + 1) ++ ("," ++ l.break (depth + 1)).intercalate items ++
      l.break depth ++ closing

mutual

/-- The text of a value at a depth. -/
def write (l : Layout) (depth : Nat) : Json → String
  | .null => "null"
  | .bool b => if b then "true" else "false"
  | .int n => toString n
  | .float x => floatText x
  | .str s => stringText s
  | .arr items => enclose l depth "[" "]" (writeItems l (depth + 1) items)
  | .obj members =>
    enclose l depth "\x7b" "\x7d"
      ((Entries.sorted (writeMembers l (depth + 1) members)).map fun p =>
        stringText p.1 ++ l.colon ++ p.2)

/-- The texts of items. -/
def writeItems (l : Layout) (depth : Nat) : List Json → List String
  | [] => []
  | x :: xs => write l depth x :: writeItems l depth xs

/-- The texts of members' values, under their keys. -/
def writeMembers (l : Layout) (depth : Nat) : List (String × Json) → List (String × String)
  | [] => []
  | (k, v) :: ms => (k, write l depth v) :: writeMembers l depth ms

end

/-- The text of a value on one line. -/
def compact (j : Json) : String := write .compact 0 j

/-- The text of a value, indented by a number of blanks. -/
def pretty (width : Nat) (j : Json) : String := write (.indented width) 0 j

example : compact (.obj [("b", .arr [.int 1, .null]), ("a", .float .zero)]) =
    "\x7b\"a\":0.0,\"b\":[1,null]\x7d" := by decide +kernel

example : pretty 0 (.arr [.int 1]) = "[\n1\n]" := by decide +kernel

end Json

end ShapeSum
