import ShapeSum.Proofs.Generation.Likeness
import ShapeSum.Proofs.Generation.Session

/-!
# Failed generations are invisible

A generation that ends in a generation error is undone.  In a session whose
generations did not fail in any other way nothing is marked between requests, so
the state after the failure is alike to the one before, and alike states answer all
further requests in the same way.
-/

namespace ShapeSum

variable {mode : Mode} {s t : Generation}

/-! ## Sessions on alike states -/

/-- Alike states answer a request in the same way, and stay alike. -/
theorem Alike.request (mode : Mode) (h : Alike false s t) (q : Request) :
    (q.run mode s).1 = (q.run mode t).1 ∧ Alike false (q.run mode s).2 (q.run mode t).2 := by
  cases q with
  | add uri content =>
    refine ⟨rfl, { h with documents := ?_ }⟩
    show (s.store.add uri content).view = (t.store.add uri content).view
    rw [Store.view_add, Store.view_add, h.documents]
  | locate uri pointer =>
    obtain ⟨hr, hs⟩ := agree_onStore (transparent_fragment uri pointer) s t h
    exact ⟨congrArg Answer.located hr, hs⟩
  | generate base f =>
    obtain ⟨hr, hs⟩ := agree_generate mode base f s t h
    rw [Request.run_generate, Request.run_generate]
    refine ⟨?_, hs⟩
    dsimp only
    rw [hr, hs.types]
  | decode union entries =>
    refine ⟨?_, h⟩
    show Answer.decoded _ = Answer.decoded _
    rw [h.types]

/-- Alike states answer all requests in the same way. -/
theorem Alike.answers_eq (mode : Mode) (h : Alike false s t) (requests : List Request) :
    (answerAll mode requests s).1 = (answerAll mode requests t).1 := by
  induction requests generalizing s t with
  | nil => rfl
  | cons q qs ih =>
    obtain ⟨ha, hs⟩ := h.request mode q
    show (q.run mode s).1 :: (answerAll mode qs (q.run mode s).2).1 =
      (q.run mode t).1 :: (answerAll mode qs (q.run mode t).2).1
    rw [ha, ih hs]

/-! ## Between requests -/

/-- Nothing is marked as being generated or compiled. -/
structure Idle (s : Generation) : Prop where
  /-- No union is being generated. -/
  inProgress : s.inProgress = []
  /-- No fragment is being compiled. -/
  pending : s.pending = []

/-- A request that is settled leaves nothing marked. -/
theorem Idle.request (h : Idle s) (q : Request) (hq : (q.run mode s).1.isSettled = true) :
    Idle (q.run mode s).2 := by
  cases q with
  | add uri content => exact ⟨h.inProgress, h.pending⟩
  | locate uri pointer => exact ⟨h.inProgress, h.pending⟩
  | decode union entries => exact h
  | generate base f =>
    refine ⟨?_, pending_generate base f h.pending⟩
    obtain ⟨calls, hc⟩ := exists_makes mode base f s
    obtain ⟨hr, hs⟩ := generate_run mode base f s
    rw [Makes] at hc
    rw [Request.run_generate, hr] at hq
    rw [Request.run_generate]
    dsimp only
    rw [hs]
    cases hu : ((unionOf mode (annotate mode) base f).run s).1 with
    | ok id =>
      rw [hu] at hc
      exact (hc.inProgress_of_none rfl).trans h.inProgress
    | error e =>
      rw [hu] at hq
      cases e with
      | generation e => rfl
      | _ => cases hq

/-- A session of settled requests leaves nothing marked. -/
theorem Idle.answers (h : Idle s) (requests : List Request)
    (hq : ∀ a ∈ (answerAll mode requests s).1, a.isSettled = true) :
    Idle (answerAll mode requests s).2 := by
  induction requests generalizing s with
  | nil => exact h
  | cons q qs ih =>
    have hq' : ∀ a ∈ (q.run mode s).1 :: (answerAll mode qs (q.run mode s).2).1,
        a.isSettled = true := hq
    rw [List.forall_mem_cons] at hq'
    exact ih (h.request q hq'.1) hq'.2

/-! ## The roll-back -/

/-- What a roll-back leaves is alike to the state before, when nothing was marked. -/
theorem alike_rolledBack {s' : Generation} {calls : List Call} {r : Option Failure}
    (hs : Idle s) (h : Course mode (Chosen mode) s calls r s') :
    Alike false s (s.rolledBack s') where
  documents := h.view.symm
  names := rfl
  counters := rfl
  unions := rfl
  inProgress := hs.inProgress
  pending := hs.pending.trans (h.pending_eq_nil hs.pending).symm
  types := rfl
  session hn := by
    rcases hn with hn | hn
    · cases hn
    · exact absurd hs.pending hn

/-- A branch that is an object with one object inside. -/
def nestedBranch : Json :=
  .obj [("type", .str "object"), ("properties", .obj [
    ("owner", .obj [("type", .str "object"), ("properties", .obj [
      ("name", .obj [("type", .str "string")])])])])]

/-- A union that can be generated. -/
def soundRoot : Fragment :=
  ⟨.obj [("oneOf", .arr [nestedBranch])], "memory:///sound.json", ""⟩

/-- A union whose second branch is no object. -/
def faultyRoot : Fragment :=
  ⟨.obj [("oneOf", .arr [nestedBranch, .obj [("type", .str "string")]])],
    "memory:///faulty.json", ""⟩

/-- A store without documents. -/
def bareStore : Store := .empty fun _ => .unavailable ""

/-- Whether a result is a generation error. -/
def isGenerationError {α : Type} : Except Failure α → Bool
  | .error (.generation _) => true
  | _ => false

theorem exists_of_isGenerationError {α : Type} {r : Except Failure α}
    (h : isGenerationError r = true) : ∃ e, r = .error (.generation e) := by
  unfold isGenerationError at h
  split at h
  · exact ⟨_, rfl⟩
  · cases h

end ShapeSum
