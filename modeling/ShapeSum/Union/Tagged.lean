import ShapeSum.Decode.Dispatch

/-!
# Tags and values of a union

The variants whose tags are enumerated are known by their tags, and by the names
of their types where no tag of that name exists.  A value of a union is wrapped
from a tag of this union and an object of the tag's model.
-/

namespace ShapeSum

namespace UnionType

/-- The variant with a tag. -/
def byTag? (u : UnionType) (tag : String) : Option Variant := u.tagged.find? (·.tag == tag)

/-- The variant with a type name. -/
def byTypeName? (u : UnionType) (name : String) : Option Variant :=
  u.tagged.find? (·.typeName == name)

/-- The variant with a tag, or else with a type name. -/
def variant? (u : UnionType) (name : String) : Option Variant :=
  (u.byTag? name).orElse fun _ => u.byTypeName? name

end UnionType

/-- Why a tag and a payload make no value of a union. -/
inductive WrapFault where
  /-- The tag or the payload is missing. -/
  | incomplete (union : String)
  /-- The tag is one of another union. -/
  | foreignTag (tag union : String)
  /-- The payload is no object of the tag's model. -/
  | payload (tag typeName kind : String)

/-- The wording of a fault. -/
def WrapFault.message : WrapFault → String
  | .incomplete union => s!"{union} requires both a tag and a payload"
  | .foreignTag tag union => s!"{tag} is not a {union} tag"
  | .payload tag typeName kind => s!"Payload for {tag} must be {typeName}, got {kind}"

/-- The value of the union at a place made from a tag, given with the union that it belongs to,
and a payload. -/
def wrap (types : Types) (union : TypeId) (tag : Option (TypeId × Variant)) (payload : Value) :
    Except WrapFault Value :=
  match tag, payload with
  | none, _ => .error (.incomplete (types.nameOf union))
  | some _, .null => .error (.incomplete (types.nameOf union))
  | some (owner, v), payload =>
    if owner ≠ union then .error (.foreignTag v.tag (types.nameOf union))
    else match payload with
      | .record model fields =>
        if model = v.type then .ok (.choice union v.tag (.record model fields))
        else .error (.payload v.tag (types.nameOf v.type) (types.nameOf model))
      | p => .error (.payload v.tag (types.nameOf v.type) (p.kind types))

end ShapeSum
