import ShapeSum.Decode.Dispatch
import ShapeSum.Json.Basic

/-!
# Descriptions of unions

A description lists the variants of a union in the order in which they are tried,
and the pairs of variants that share objects.  Of such a pair the earlier variant
always wins.
-/

namespace ShapeSum

/-- An optional text as JSON. -/
def optionalText (s : Option String) : Json :=
  match s with
  | some s => .str s
  | none => .null

/-- Texts as JSON. -/
def textArray (xs : List String) : Json := .arr (xs.map .str)

/-- The pairs of tags whose variants overlap, the earlier variant first. -/
def overlapping : List Descriptor → List (String × String)
  | [] => []
  | d :: ds => ((ds.filter d.overlaps).map fun e => (d.tag, e.tag)) ++ overlapping ds

/-- The pairs of tags of a union whose variants overlap. -/
def UnionType.overlapping (u : UnionType) : List (String × String) :=
  ShapeSum.overlapping (u.tagged.map Variant.toDescriptor)

/-- The description of a variant. -/
def Descriptor.describe (d : Descriptor) : Json :=
  .obj [("tag", .str d.tag), ("type_name", .str d.typeName),
    ("required_fields", textArray d.required), ("optional_fields", textArray d.optional),
    ("fingerprint", .str d.fingerprint), ("source", optionalText d.source)]

/-- The description of a union. -/
def UnionType.describe (u : UnionType) : Json :=
  .obj [("name", .str u.name), ("source", optionalText u.source),
    ("variants", .arr (u.tagged.map fun v => v.toDescriptor.describe)),
    ("overlapping", .arr (u.overlapping.map fun (a, b) => textArray [a, b]))]

/-- A sentence about the variants of a union. -/
def UnionType.summary (u : UnionType) : String :=
  "oneOf union of " ++ ", ".intercalate (u.variants.map (·.typeName)) ++ "."

end ShapeSum
