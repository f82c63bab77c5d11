import ShapeSum.Generation.Generate
import ShapeSum.Proofs.Run

/-!
# Runs of generation

What the elementary computations of generation do to a state: each changes one
component of it, or fails and changes nothing.
-/

namespace ShapeSum.Generating

variable {α : Type}

@[simp] theorem run_onStore (x : Resolving α) (s : Generation) :
    (onStore x).run s = ((x.run s.store).1, { s with store := (x.run s.store).2 }) := rfl

/-- A name is declared unless it is taken. -/
theorem run_declare (name : String) (h : Handle) (f : Option Fragment) (s : Generation) :
    (declare name h f).run s = if s.names.contains name
      then (.error (.generation (.alreadyDeclared name)), s)
      else (.ok (), { s with names := s.names.put name h f }) := by
  rw [declare, run_bind_ok (run_get s), Namespace.declare]
  by_cases hc : s.names.contains name = true
  · rw [if_pos hc, if_pos hc]
    rfl
  · rw [if_neg hc, if_neg hc]
    rfl

/-- Reserving a name is declaring it with nothing behind it. -/
theorem run_reserve (name : String) (s : Generation) :
    (reserve name).run s = (declare name .reserved none).run s := rfl

/-- A name is filled in if it is reserved. -/
theorem run_fill (name : String) (h : Handle) (f : Option Fragment) (s : Generation) :
    (fill name h f).run s = match s.names.get? name with
      | some .reserved => (.ok (), { s with names := s.names.put name h f })
      | _ => (.error (.generation (.notReserved name)), s) := by
  rw [fill, run_bind_ok (run_get s), Namespace.fill]
  generalize s.names.get? name = found
  rcases found with _ | (_ | _ | _ | _) <;> rfl

end ShapeSum.Generating

namespace ShapeSum

variable {α : Type}

namespace Generation

/-- The state with a location marked as being compiled. -/
def mark (s : Generation) (location name : String) : Generation :=
  { s with pending := Entries.set s.pending location name }

/-- The state with the mark of a location removed. -/
def unmark (s : Generation) (location : String) : Generation :=
  { s with pending := s.pending.filter (·.1 != location) }

end Generation

/-- The mark of a location is removed if it is still there, whatever the result in between. -/
theorem run_whilePending (location name : String) (x : Generating α) (s : Generation) :
    (whilePending location name x).run s = match x.run (s.mark location name) with
      | (r, s') => if Entries.has s'.pending location = true then (r, s'.unmark location)
        else (.error (.pendingLost location), s') := by
  show whilePending location name x s = _
  rw [whilePending]
  rfl

end ShapeSum
