import ShapeSum.Entries
import ShapeSum.Naming.Unique

/-!
# Names for the types of a union

The namer proposes names for the branches of a union and for the union itself,
all different from the names that are declared.  Branches without a reference are
numbered; the numbers are counters, one for each name they are derived from.
-/

namespace ShapeSum

/-- Counters by name.  A name without an entry stands at zero. -/
abbrev Counters := Entries Nat

/-- The number that was given out last for a name. -/
def Counters.current (c : Counters) (base : String) : Nat := (Entries.get? c base).getD 0

/-- The counters with the next number for a name given out. -/
def Counters.advance (c : Counters) (base : String) : Counters :=
  Entries.set c base (Counters.current c base + 1)

/-- The naming policy and the separator for names that are taken. -/
structure Namer where
  /-- How type names are formed. -/
  policy : NamingPolicy
  /-- Put behind a name that is taken. -/
  separator : String

namespace Namer

/-- The name of a type that a reference leads to. -/
def forReference (n : Namer) (ref : String) (declared : List String) : Except Uri.Fault String :=
  (referenceName ref).map fun raw =>
    uniqueName (n.policy.typeName (if raw.isEmpty then "Root" else raw)) declared n.separator

/-- The name of a branch that is written in place, by its number. -/
def forInline (n : Namer) (base : String) (index : Nat) (declared : List String) : String :=
  uniqueName (n.policy.typeName (base ++ toString index)) declared n.separator

/-- The name of a union. -/
def forUnion (n : Namer) (base : String) (declared : List String) : String :=
  uniqueName (n.policy.typeName base true) declared n.separator

/-- The name of the type of a nested object. -/
def forNested (n : Namer) (raw : String) (declared : List String) : String :=
  uniqueName (n.policy.typeName raw) declared n.separator

end Namer

end ShapeSum
