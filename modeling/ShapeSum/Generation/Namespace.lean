import ShapeSum.Schema.Fragment
import ShapeSum.Failure
import ShapeSum.Text.Case
import ShapeSum.Types.Table

/-!
# Namespaces

A namespace holds the names of the types that one target declares, in order.  A
name is declared once, whatever the case of its letters.  A name may be reserved
before its type exists and filled in later.  The namespace also remembers which
fragment a type was compiled from: a fragment at the same location with equal
content has that type.
-/

namespace ShapeSum

/-- What a name stands for. -/
inductive Handle where
  /-- Nothing yet. -/
  | reserved
  /-- A model. -/
  | model (id : TypeId)
  /-- A union. -/
  | union (id : TypeId)
  /-- A text that was put in by hand. -/
  | label (text : String)

/-- The declared names and the fragments that types were compiled from. -/
structure Namespace where
  /-- The names in order. -/
  names : Entries Handle := []
  /-- Compiled fragments by location: content and type. -/
  compiled : Entries (Json × Handle) := []

namespace Namespace

/-- Whether a name is declared, whatever the case of its letters. -/
def contains (n : Namespace) (name : String) : Bool :=
  (Entries.keys n.names).any fun k => Text.lower k == Text.lower name

/-- What a name stands for. -/
def get? (n : Namespace) (name : String) : Option Handle := Entries.get? n.names name

/-- The namespace with the type of a fragment remembered. -/
def remember (n : Namespace) (handle : Handle) (fragment : Option Fragment) : Namespace :=
  match fragment with
  | none => n
  | some f => { n with compiled := Entries.set n.compiled f.location (f.content, handle) }

/-- The namespace with a name that stands for a type, and the type remembered for a fragment. -/
def put (n : Namespace) (name : String) (handle : Handle) (fragment : Option Fragment) : Namespace :=
  { n with names := Entries.set n.names name handle }.remember handle fragment

/-- The namespace with a new name. -/
def declare (n : Namespace) (name : String) (handle : Handle) (fragment : Option Fragment) :
    Except GenerationError Namespace :=
  if n.contains name then .error (.alreadyDeclared name) else .ok (n.put name handle fragment)

/-- The namespace with a new name that stands for nothing yet. -/
def reserve (n : Namespace) (name : String) : Except GenerationError Namespace :=
  n.declare name .reserved none

/-- The namespace with a reserved name filled in. -/
def fill (n : Namespace) (name : String) (handle : Handle) (fragment : Option Fragment) :
    Except GenerationError Namespace :=
  match n.get? name with
  | some .reserved => .ok (n.put name handle fragment)
  | _ => .error (.notReserved name)

/-- The type that was compiled from a fragment: one remembered for its location with equal
content. -/
def typeOf? (n : Namespace) (f : Fragment) : Option Handle :=
  match Entries.get? n.compiled f.location with
  | some (_, .reserved) => none
  | some (content, handle) => if content.sameContent f.content then some handle else none
  | none => none

end Namespace

end ShapeSum
