import ShapeSum.Json.Basic
import ShapeSum.Uri.Basic

/-!
# Failures

A *generation error* is a fault of the schema; a generation that meets one is
rolled back.  Any other failure escapes from a generation and leaves what was
done so far.
-/

namespace ShapeSum

/-- The module that generated types are said to live in. -/
def generatedModule : String := "schemaunion.generated"

/-- Why no union can be generated from a schema. -/
inductive GenerationError where
  /-- A branch does not describe objects. -/
  | nonObject (location : String) (content : Json)
  /-- Two branches of a union have one type name. -/
  | duplicateVariant (union typeName : String)
  /-- Two type names of a union have one tag. -/
  | tagCollision (tag first second : String)
  /-- A reference leads nowhere. -/
  | unresolvable (ref : String) (base : Option String) (reason : String)
  /-- A chain of references comes back to a place it passed. -/
  | cyclic (chain : List String)
  /-- A type name is taken. -/
  | alreadyDeclared (name : String)
  /-- A type name was not reserved. -/
  | notReserved (name : String)
  /-- A union is met while it is being generated. -/
  | recursiveUnion (location : String)
  /-- A fragment has no branches. -/
  | noBranches (location : String)

/-- The wording of a generation error. -/
def GenerationError.message : GenerationError → String
  | .nonObject location content =>
    s!"Only object type supported, '{location}' cannot be used as a oneOf option " ++
      s!"(got {content.display})"
  | .duplicateVariant union typeName => s!"Duplicate oneOf option '{typeName}' in '{union}'"
  | .tagCollision tag first second =>
    s!"Variants {first}, {second} all normalize to tag '{tag}'"
  | .unresolvable ref base reason =>
    let from_ := match base with
      | some b => if b.isEmpty then "" else s!" from '{b}'"
      | none => ""
    let because := if reason.isEmpty then "" else s!": {reason}"
    s!"Cannot resolve $ref '{ref}'{from_}{because}"
  | .cyclic chain => "Circular $ref chain: " ++ " -> ".intercalate chain
  | .alreadyDeclared name => s!"Type '{name}' is already declared in '{generatedModule}'"
  | .notReserved name => s!"Type '{name}' was not reserved in '{generatedModule}'"
  | .recursiveUnion location => s!"Recursive oneOf at '{location}' is not supported"
  | .noBranches location => s!"'{location}' has no oneOf branches"

/-- Why an operation on schemas fails. -/
inductive Failure where
  /-- A fault of the schema. -/
  | generation (e : GenerationError)
  /-- A reference is no URI. -/
  | uri (f : Uri.Fault)
  /-- The loader broke down on a document. -/
  | loader (uri : String)
  /-- A location is no longer marked as being compiled when its compilation ends. -/
  | pendingLost (location : String)
  /-- A value of this kind stands among the required names. -/
  | unhashable (kind : String)
  /-- A tag is no identifier. -/
  | invalidTag (tag : String)
  /-- A tag is reserved for the enumeration of tags itself. -/
  | reservedTag (tag : String)
  /-- The type has no fields. -/
  | noFields (name : String)
  /-- What stands in for a type is only a text. -/
  | noType
  /-- A field bears the name that models keep for their settings. -/
  | settingsField
  /-- A back reference bears the name of something that is no type. -/
  | notAType
  /-- A back reference bears the name of the field that it is the type of. -/
  | ownField
  /-- A back reference bears a name that is not declared. -/
  | undeclared (name : String)
  /-- The schema is nested deeper than the limit. -/
  | tooDeep

end ShapeSum
