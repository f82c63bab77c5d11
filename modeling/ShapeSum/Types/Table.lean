import ShapeSum.Types.FieldType
import ShapeSum.Union.Descriptor

/-!
# The table of generated types

A model describes objects by their fields, a union is a choice between models.
The table lists the models and unions that were generated, and a type is known by
its place.
-/

namespace ShapeSum

/-- A field of a model. -/
structure Field where
  /-- The name of the attribute. -/
  name : String
  /-- The name of the property in the schema. -/
  property : String
  /-- Whether objects must have the field. -/
  required : Bool
  /-- The type of its values. -/
  type : FieldType
  /-- The description in the schema. -/
  description : Option String

/-- The name of the field in JSON; a property without a name goes by its attribute. -/
def Field.wire (f : Field) : String := if f.property.isEmpty then f.name else f.property

/-- A type of objects. -/
structure Model where
  /-- The name of the type. -/
  name : String
  /-- The fields in order. -/
  fields : List Field
  /-- Whether values are immutable and hashed by their fields. -/
  frozen : Bool

/-- A variant of a union and the model of its values. -/
structure Variant extends Descriptor where
  /-- The model. -/
  type : TypeId

/-- How the values of unions are hashed. -/
inductive HashStrategy where
  /-- By the digest of their JSON. -/
  | canonicalJson
  /-- By their fields. -/
  | native
  deriving DecidableEq

/-- A choice between models. -/
structure UnionType where
  /-- The name of the type. -/
  name : String
  /-- The location of the schema. -/
  source : Option String
  /-- The variants in order. -/
  variants : List Variant
  /-- Whether values are compared by tag and payload. -/
  structural : Bool
  /-- How values are hashed. -/
  hashing : HashStrategy

/-- A generated type. -/
inductive TypeDef where
  /-- A model. -/
  | model (m : Model)
  /-- A union. -/
  | union (u : UnionType)

/-- The generated types by their places. -/
abbrev Types := List TypeDef

namespace Types

/-- The model at a place. -/
def model? (types : Types) (id : TypeId) : Option Model :=
  match types[id]? with
  | some (.model m) => some m
  | _ => none

/-- The union at a place. -/
def union? (types : Types) (id : TypeId) : Option UnionType :=
  match types[id]? with
  | some (.union u) => some u
  | _ => none

/-- The name of the type at a place. -/
def nameOf (types : Types) (id : TypeId) : String :=
  match types[id]? with
  | some (.model m) => m.name
  | some (.union u) => u.name
  | none => ""

/-- The fields of the model at a place. -/
def fieldsOf (types : Types) (id : TypeId) : List Field :=
  match types.model? id with
  | some m => m.fields
  | none => []

/-- The models that are reached from some models through fields in at most `steps` steps. -/
def reached (types : Types) : Nat → List TypeId → List TypeId
  | 0, ids => ids
  | steps + 1, ids =>
    let next := ids.flatMap fun id => (types.fieldsOf id).flatMap fun f => f.type.models
    reached types steps (ids ++ (next.filter (!ids.contains ·)).eraseDups)

/-- Whether no type in reach of a model is still unresolved. -/
def isComplete (types : Types) (id : TypeId) : Bool :=
  (types.reached types.length [id]).all fun id =>
    (types.fieldsOf id).all fun f => f.type.names.isEmpty

end Types

end ShapeSum
