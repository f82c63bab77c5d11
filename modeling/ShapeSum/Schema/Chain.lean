import ShapeSum.Schema.Store

/-!
# Reference chains

A fragment that is a reference leads to another fragment, which may be a
reference again.  The chain records the locations passed.  It ends at a fragment
that is no reference, and fails when a location comes up a second time.  The
number of hops is bounded, since a loader may answer for any number of URIs.
-/

namespace ShapeSum

/-- The locations visited from a fragment on, and the fragment where the chain ends. -/
structure Chain where
  /-- The locations, the start first. -/
  hops : List String
  /-- The fragment at the end. -/
  target : Fragment

/-- Whether at least one reference was followed. -/
def Chain.isReference (c : Chain) : Bool := decide (1 < c.hops.length)

/-- Follows references from `current`, whose location is the last of `hops`. -/
def followRefs : Nat → List String → Fragment → Resolving Chain
  | 0, _, _ => throw .tooDeep
  | fuel + 1, hops, current =>
    match current.ref with
    | none => return ⟨hops, current⟩
    | some ref => do
      let target ← Store.resolveRef ref current
      if hops.contains target.location then
        throw (.generation (.cyclic (hops ++ [target.location])))
      else followRefs fuel (hops ++ [target.location]) target

/-- The greatest number of hops in a chain. -/
def hopLimit : Nat := 100000

/-- The chain of references from a fragment. -/
def resolveChain (f : Fragment) : Resolving Chain := followRefs hopLimit [f.location] f

/-- The fragment where the references from a fragment end. -/
def resolve (f : Fragment) : Resolving Fragment := do
  return (← resolveChain f).target

end ShapeSum
