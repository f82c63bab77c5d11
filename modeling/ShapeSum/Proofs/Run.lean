import ShapeSum.Failure

/-!
# Runs of failing computations

Computations on a state that may fail keep what they did when they fail.  A
sequence passes the state on and stops at the first failure: `run_bind` opens a
sequence, and the other equations say what the elementary computations do.
-/

namespace ShapeSum

variable {σ α β : Type}

/-- The failure that a result is, if it is one. -/
def failure? : Except Failure α → Option Failure
  | .ok _ => none
  | .error e => some e

/-- Whether a failure is one of the bookkeeping of compilations: a mark is gone, or a name is
taken. -/
def Failure.ofBookkeeping : Failure → Bool
  | .pendingLost _ => true
  | .generation (.alreadyDeclared _) => true
  | _ => false

/-- A result that is no failure of the bookkeeping of compilations. -/
def Plain (r : Except Failure α) : Prop := ∀ e, r = .error e → e.ofBookkeeping = false

theorem Plain.ok (a : α) : Plain (.ok a) := fun _ h => nomatch h

theorem Plain.error {e : Failure} (he : e.ofBookkeeping = false) :
    Plain (.error e : Except Failure α) := by
  intro e' h
  cases h
  exact he

@[simp] theorem failure?_error (e : Failure) :
    failure? (.error e : Except Failure α) = some e := rfl

@[simp] theorem run_get (s : σ) :
    (get : ExceptT Failure (StateM σ) σ).run s = (.ok s, s) := rfl

/-- A sequence goes on from where its first part ends, unless that fails. -/
theorem run_bind (x : ExceptT Failure (StateM σ) α) (f : α → ExceptT Failure (StateM σ) β)
    (s : σ) :
    (x >>= f).run s = match x.run s with
      | (.ok a, s') => (f a).run s'
      | (.error e, s') => (.error e, s') := by
  show (ExceptT.bindCont f (x.run s).1) (x.run s).2 = _
  rcases x.run s with ⟨e | a, s'⟩ <;> rfl

theorem run_bind_ok {x : ExceptT Failure (StateM σ) α} {s s' : σ} {a : α}
    (h : x.run s = (.ok a, s')) (f : α → ExceptT Failure (StateM σ) β) :
    (x >>= f).run s = (f a).run s' := by
  rw [run_bind, h]

theorem run_bind_error {x : ExceptT Failure (StateM σ) α} {s s' : σ} {e : Failure}
    (h : x.run s = (.error e, s')) (f : α → ExceptT Failure (StateM σ) β) :
    (x >>= f).run s = (.error e, s') := by
  rw [run_bind, h]

/-- A sequence that succeeds is made of two parts that do. -/
theorem exists_of_run_bind {x : ExceptT Failure (StateM σ) α}
    {f : α → ExceptT Failure (StateM σ) β} {s s'' : σ} {b : β}
    (h : (x >>= f).run s = (.ok b, s'')) :
    ∃ a s', x.run s = (.ok a, s') ∧ (f a).run s' = (.ok b, s'') := by
  rw [run_bind] at h
  rcases hx : x.run s with ⟨e | a, s'⟩ <;> rw [hx] at h
  · cases h
  · exact ⟨a, s', rfl, h⟩

/-- A handler takes over from where a computation fails. -/
theorem run_tryCatch (x : ExceptT Failure (StateM σ) α)
    (handle : Failure → ExceptT Failure (StateM σ) α) (s : σ) :
    (tryCatch x handle).run s = match x.run s with
      | (.ok a, s') => (.ok a, s')
      | (.error e, s') => (handle e).run s' := by
  rw [ExceptT.run_tryCatch]
  simp only [bind, StateT.bind]
  rcases x.run s with ⟨e | a, s'⟩ <;> rfl

/-- A result that gives something is that something. -/
theorem eq_ok_of_toOption {ε : Type} {r : Except ε α} {a : α} (h : r.toOption = some a) :
    r = .ok a := by
  cases r with
  | ok b => exact congrArg Except.ok (Option.some.inj h)
  | error e => cases h

end ShapeSum
