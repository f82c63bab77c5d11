import ShapeSum.Decode.Judge
import ShapeSum.Report.Description
import ShapeSum.Value.Dump

/-!
# Reports on decoding

A report says how the decoding of one item ended.  A summary counts the ends of a
batch of items: each item is matched, or fits no variant, or fails to decode, and
the reports of the latter two are kept with the positions of their items.  An item
that is no object fits no variant.  A model that was never completed comes to no
verdict on an object, which breaks the batch off.
-/

namespace ShapeSum

/-- How the decoding of an item ends. -/
inductive Verdict where
  /-- A variant took the item. -/
  | matched
  /-- No variant fits. -/
  | noMatch
  /-- The variant that fits did not take the item. -/
  | decodeError
  deriving DecidableEq

/-- The name of a verdict. -/
def Verdict.code : Verdict → String
  | .matched => "MATCHED"
  | .noMatch => "NO_MATCH"
  | .decodeError => "DECODE_ERROR"

/-- A report on the decoding of an item. -/
structure DecodeReport where
  /-- How it ended. -/
  verdict : Verdict
  /-- The name of the union. -/
  union : String
  /-- The keys of the item, sorted. -/
  keys : List String := []
  /-- The tag and the type name of the selected variant. -/
  variant : Option (String × String) := none
  /-- The payload, null if there is none. -/
  value : Json := .null
  /-- What went wrong. -/
  errors : List String := []
  /-- The variants that do not fit. -/
  rejections : List Rejection := []

/-- Whether the item was taken. -/
def DecodeReport.ok (r : DecodeReport) : Bool := r.verdict == .matched

/-- The report on a dispatch over a union. -/
def DecodeReport.ofDispatch (types : Types) (u : UnionType) (d : Dispatch) : DecodeReport :=
  match d.outcome with
  | .matched v payload =>
    { verdict := .matched, union := u.name, keys := d.keys, rejections := d.rejections
      variant := some (v.tag, v.typeName), value := payload.toJson types .set }
  | .failed v e =>
    { verdict := .decodeError, union := u.name, keys := d.keys, rejections := d.rejections
      variant := some (v.tag, e.typeName), errors := [e.message] }
  | .noMatch => { verdict := .noMatch, union := u.name, keys := d.keys, rejections := d.rejections }

/-- The report on an item. -/
def DecodeReport.ofItem (types : Types) (u : UnionType) (item : Json) : DecodeReport :=
  match item with
  | .obj members => ofDispatch types u (dispatch types u (Value.ofMembers members))
  | j =>
    { verdict := .noMatch, union := u.name, errors := [s!"Item is {j.kind}, not an object"] }

/-- The model that was never completed, if it breaks a dispatch off. -/
def Dispatch.undefined? (d : Dispatch) : Option String :=
  match d.outcome with
  | .failed _ (.incomplete typeName) => some typeName
  | _ => none

/-- The report on an item, or the model that was never completed and breaks its decoding off. -/
def reportOn (types : Types) (u : UnionType) (item : Json) : Except String DecodeReport :=
  match item with
  | .obj members =>
    match (dispatch types u (Value.ofMembers members)).undefined? with
    | some typeName => .error typeName
    | none => .ok (.ofItem types u item)
  | j => .ok (.ofItem types u j)

/-- The number of items as JSON. -/
def count (n : Nat) : Json := .int n

/-- A rejection as JSON. -/
def Rejection.toJson (r : Rejection) : Json :=
  let (code, absent, foreign) : String × List String × List String := match r with
    | .missing _ names => ("MISSING_REQUIRED", names, [])
    | .extra _ names => ("EXTRA_FIELDS", [], names)
  .obj [("tag", .str r.tag), ("code", .str code), ("missing", textArray absent),
    ("extra", textArray foreign)]

/-- A report as JSON. -/
def DecodeReport.toJson (r : DecodeReport) : Json :=
  .obj [("ok", .bool r.ok), ("code", .str r.verdict.code), ("union", .str r.union),
    ("keys", textArray r.keys), ("tag", optionalText (r.variant.map Prod.fst)),
    ("type_name", optionalText (r.variant.map Prod.snd)), ("value", r.value),
    ("errors", textArray r.errors), ("rejections", .arr (r.rejections.map Rejection.toJson))]

/-! ## Batches -/

/-- The summary of a batch of items. -/
structure CheckSummary where
  /-- The name of the union. -/
  union : String
  /-- How many items there are. -/
  total : Nat := 0
  /-- How many were matched. -/
  matched : Nat := 0
  /-- How many fit no variant. -/
  noMatch : Nat := 0
  /-- How many failed to decode. -/
  decodeErrors : Nat := 0
  /-- How many items each tag took, in the order of the variants. -/
  tagCounts : List (String × Nat)
  /-- The reports on the items that were not matched, with their positions. -/
  failures : List (Nat × DecodeReport) := []

namespace CheckSummary

/-- The summary of no items. -/
def empty (u : UnionType) : CheckSummary :=
  { union := u.name, tagCounts := u.tagged.map fun v => (v.tag, 0) }

/-- Whether every item was matched. -/
def ok (s : CheckSummary) : Bool := s.failures.isEmpty

/-- The counts with one more item for a tag. -/
def countTag (tag : String) (counts : List (String × Nat)) : List (String × Nat) :=
  counts.map fun (t, n) => (t, if t = tag then n + 1 else n)

/-- The summary with one more item, by the report on it. -/
def add (s : CheckSummary) (r : DecodeReport) : CheckSummary :=
  let failed := { s with total := s.total + 1, failures := s.failures ++ [(s.total, r)] }
  match r.verdict with
  | .matched =>
    { s with
      total := s.total + 1
      matched := s.matched + 1
      tagCounts := match r.variant with
        | some (tag, _) => countTag tag s.tagCounts
        | none => s.tagCounts }
  | .noMatch => { failed with noMatch := s.noMatch + 1 }
  | .decodeError => { failed with decodeErrors := s.decodeErrors + 1 }

/-- A summary as JSON, but for the counts of tags. -/
def members (s : CheckSummary) : List (String × Json) :=
  [("ok", .bool s.ok), ("union", .str s.union), ("total", count s.total),
    ("matched", count s.matched), ("no_match", count s.noMatch),
    ("decode_errors", count s.decodeErrors),
    ("failures", .arr (s.failures.map fun f => f.2.toJson)),
    ("failure_indices", .arr (s.failures.map fun f => count f.1))]

end CheckSummary

/-- The summary of a batch of items decoded against a union. -/
def check (types : Types) (u : UnionType) (items : List Json) : CheckSummary :=
  items.foldl (fun s item => s.add (.ofItem types u item)) (.empty u)

/-- The summary of a batch of items decoded against a union one after the other, or the model that
was never completed and breaks one of them off. -/
def checkEach (types : Types) (u : UnionType) (items : List Json) : Except String CheckSummary :=
  items.foldlM (fun s item => s.add <$> reportOn types u item) (.empty u)

end ShapeSum
