import ShapeSum.Json.Basic

/-!
# Events

The decisions of generation and dispatch that a verbose run reports, one line
each.
-/

namespace ShapeSum

/-- A decision worth a line. -/
inductive Event where
  /-- A union is being generated. -/
  | generating (name : String) (branches : Nat)
  /-- A model was compiled. -/
  | compiled (name location : String)
  /-- A branch of a union has its type. -/
  | branch (typeName location : String)
  /-- An object is dispatched. -/
  | dispatched (union : String) (variants : Nat) (keys : List String)
  /-- A variant is tried. -/
  | tried (tag : String) (required optional : List String)
  /-- A variant misses no field; these keys are no fields of it. -/
  | delta (tag : String) (extra : List String)

/-- The part of the program that an event comes from. -/
def Event.origin : Event → String
  | .generating _ _ => "generator"
  | .compiled _ _ => "type_compiler"
  | .branch _ _ => "generator"
  | .dispatched _ _ _ => "dispatch"
  | .tried _ _ _ => "dispatch"
  | .delta _ _ => "dispatch"

/-- The wording of an event. -/
def Event.message : Event → String
  | .generating name branches => s!"Generating {name} with {branches} oneOf options"
  | .compiled name location => s!"Compiled {name} from {location}"
  | .branch typeName location => s!"oneOf option {typeName} compiled from {location}"
  | .dispatched union variants keys =>
    s!"Invoke oneOf factory for {union} with {variants} options: {displayTuple keys}"
  | .tried tag required optional =>
    s!"{tag} required: {displayTuple required} optional: {displayTuple optional}"
  | .delta tag extra => s!"{tag} delta: {displayTexts extra}"

/-- The line of an event. -/
def Event.line (e : Event) : String := s!"DEBUG schemaunion.kernel.{e.origin}: {e.message}"

end ShapeSum
