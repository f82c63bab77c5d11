import ShapeSum.Config
import ShapeSum.Event
import ShapeSum.Generation.Namespace
import ShapeSum.Schema.Chain

/-!
# The state of generation

Everything that a generation reads and writes.  Counters, unions and the
namespace outlive a generation; the locations that are being compiled or
generated guard against endless recursion while it runs.
-/

namespace ShapeSum

/-- The state of generation. -/
structure Generation where
  /-- The documents. -/
  store : Store
  /-- The names of types. -/
  names : Namespace := {}
  /-- The numbers given to branches without a reference. -/
  counters : Counters := []
  /-- The generated unions by location. -/
  unions : Entries TypeId := []
  /-- The locations of unions that are being generated. -/
  inProgress : List String := []
  /-- The locations that are being compiled, with the names of their models. -/
  pending : Entries String := []
  /-- The models compiled since the outermost compilation began. -/
  session : List TypeId := []
  /-- Whether a model of the session refers back to one that was being compiled. -/
  backReference : Bool := false
  /-- The generated types. -/
  types : Types := []
  /-- What was reported. -/
  log : List Event := []

/-- A computation on the state that may fail; what it did is kept in either case. -/
abbrev Generating := ExceptT Failure (StateM Generation)

/-- What generation is told: the settings, whether properties may be unions, and how deep schemas
may be nested. -/
structure Mode where
  /-- The settings. -/
  config : Config
  /-- Whether a property with branches becomes a union; otherwise it takes everything. -/
  nestedUnions : Bool := true
  /-- The greatest depth of fragments inside each other. -/
  depth : Nat := 1000

namespace Generating

/-- A computation on the documents. -/
def onStore {α : Type} (x : Resolving α) : Generating α := fun st =>
  let (r, store) := x.run st.store
  (r, { st with store })

/-- A result as a computation that touches nothing. -/
def ofExcept {α : Type} (r : Except Failure α) : Generating α := fun st => (r, st)

/-- A generation error as a failure. -/
def orFail {α : Type} (r : Except GenerationError α) : Generating α :=
  ofExcept (r.mapError .generation)

/-- Reports an event. -/
def report (e : Event) : Generating Unit := modify fun st => { st with log := st.log ++ [e] }

/-- The declared names. -/
def declaredNames : Generating (List String) := return Entries.keys (← get).names.names

/-- Adds a type to the table. -/
def addType (d : TypeDef) : Generating TypeId := do
  let id := (← get).types.length
  modify fun st => { st with types := st.types ++ [d] }
  return id

/-- Declares a name. -/
def declare (name : String) (handle : Handle) (fragment : Option Fragment) : Generating Unit := do
  let names ← orFail ((← get).names.declare name handle fragment)
  modify fun st => { st with names }

/-- Reserves a name. -/
def reserve (name : String) : Generating Unit := do
  let names ← orFail ((← get).names.reserve name)
  modify fun st => { st with names }

/-- Fills in a reserved name. -/
def fill (name : String) (handle : Handle) (fragment : Option Fragment) : Generating Unit := do
  let names ← orFail ((← get).names.fill name handle fragment)
  modify fun st => { st with names }

end Generating

end ShapeSum
