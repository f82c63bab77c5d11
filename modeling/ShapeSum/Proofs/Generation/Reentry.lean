import ShapeSum.Proofs.Generation.Session

/-!
# Compilations that are entered again

A branch of a union is compiled without a look at the marks, so a union inside an
object may have the object itself as a branch.  The inner compilation then removes
the mark of the outer one, and the outer one fails because its mark is gone.  That is
the only way for a mark to be gone: a generation ends with a lost mark exactly when
one of its compilations is at a location that is being compiled.
-/

namespace ShapeSum

variable {mode : Mode} {named : Naming} {s s' : Generation} {calls : List Call}
  {r : Option Failure}

/-- A call at a marked location: the first such call enters it again. -/
theorem Course.exists_reenters (h : Course mode named s calls r s') {l : String}
    (hs : Entries.has s.pending l = true) (hc : ∃ c ∈ calls, c.location = l) :
    ∃ c ∈ calls, c.Reenters := by
  -- For one call: either it is the call at the location, or the call is inside it.
  have hcall {c : Call} {calls : List Call} (ih : Entries.has c.start.pending l = true →
      (∃ d ∈ calls, d.location = l) → ∃ d ∈ calls, d.Reenters)
      (hs : Entries.has c.before.pending l = true) (hc : ∃ d ∈ c :: calls, d.location = l) :
      ∃ d ∈ c :: calls, d.Reenters := by
    obtain ⟨d, hd, hl⟩ := hc
    rcases List.mem_cons.1 hd with rfl | hd
    · subst hl
      exact ⟨d, List.mem_cons_self, hs⟩
    · obtain ⟨e, he, hr⟩ := ih ((has_mark _ _ _ _).2 (.inr hs)) ⟨d, hd, hl⟩
      exact ⟨e, List.mem_cons_of_mem _ he, hr⟩
  have hnone : ¬∃ c ∈ ([] : List Call), c.location = l := by simp
  induction h with
  | done s => exact absurd hc hnone
  | fault s e he => exact absurd hc hnone
  | change h => exact absurd hc hnone
  | @seq s s' s'' calls calls' r h₁ h₂ ih₁ ih₂ =>
    obtain ⟨c, hm, hl⟩ := hc
    by_cases h₀ : ∃ d ∈ calls, d.location = l
    · obtain ⟨d, hd, hr⟩ := ih₁ hs h₀
      exact ⟨d, List.mem_append_left _ hd, hr⟩
    · have hs' := (h₁.has_pending l).2 ⟨hs, fun d hd he => h₀ ⟨d, hd, he⟩⟩
      rcases List.mem_append.1 hm with hm | hm
      · exact absurd ⟨c, hm, hl⟩ h₀
      · obtain ⟨d, hd, hr⟩ := ih₂ hs' ⟨c, hm, hl⟩
        exact ⟨d, List.mem_append_right _ hd, hr⟩
  | lost c hg h hm ih => exact hcall ih hs hc
  | failed c hg h hm hf ih => exact hcall ih hs hc
  | taken c hg h hm ht ih => exact hcall ih hs hc
  | compiled c id hg h hm hf ht ih => exact hcall ih hs hc
  | reserved hn ht => exact absurd hc hnone
  | occupied hn ht => exact absurd hc hnone
  | abandoned location hs' h ih => exact ih hs hc
  | generated name id f hs' h ih => exact ih hs hc

/-- A mark is lost only if a call enters a location again. -/
theorem Course.reenters_of_lost (h : Course mode named s calls r s') {l : String}
    (hr : r = some (.pendingLost l)) : ∃ c ∈ calls, c.Reenters := by
  induction h with
  | done s => cases hr
  | fault s e he =>
    cases hr
    cases he
  | change h => cases hr
  | seq h₁ h₂ ih₁ ih₂ =>
    obtain ⟨c, hc, hre⟩ := ih₂ hr
    exact ⟨c, List.mem_append_right _ hc, hre⟩
  | @lost calls c hg h hm ih =>
    have hstart : Entries.has c.start.pending c.location = true := (has_mark _ _ _ _).2 (.inl rfl)
    have hat : ∃ d ∈ calls, d.location = c.location := by
      refine Classical.byContradiction fun hno => ?_
      have hafter := (h.has_pending c.location).2 ⟨hstart, fun d hd he => hno ⟨d, hd, he⟩⟩
      rw [hm] at hafter
      cases hafter
    obtain ⟨d, hd, hre⟩ := h.exists_reenters hstart hat
    exact ⟨d, List.mem_cons_of_mem _ hd, hre⟩
  | failed c hg h hm hf ih =>
    obtain ⟨d, hd, hre⟩ := ih (hf.trans hr)
    exact ⟨d, List.mem_cons_of_mem _ hd, hre⟩
  | taken c hg h hm ht ih => cases hr
  | compiled c id hg h hm hf ht ih => cases hr
  | reserved hn ht => cases hr
  | occupied hn ht => cases hr
  | abandoned location hs h ih => exact ih hr
  | generated name id f hs h ih => cases hr

/-- When a call enters a location again that was not marked before the course, a mark is lost. -/
theorem Course.lost_of_reenters (h : Course mode named s calls r s') {c : Call}
    (hc : c ∈ calls) (hre : c.Reenters) (hs : ¬Entries.has s.pending c.location = true) :
    ∃ l, r = some (.pendingLost l) := by
  -- A call that enters again inside another one that keeps its mark is at a different location.
  have hcall {d : Call} {calls : List Call} (h : Course mode named d.start calls d.failure d.after)
      (ih : c ∈ calls → ¬Entries.has d.start.pending c.location = true →
        ∃ l, d.failure = some (.pendingLost l))
      (hm : Entries.has d.after.pending d.location = true) (hc : c ∈ d :: calls)
      (hs : ¬Entries.has d.before.pending c.location = true) :
      ∃ l, d.failure = some (.pendingLost l) := by
    rcases List.mem_cons.1 hc with rfl | hc
    · exact absurd hre hs
    · refine ih hc fun hstart => ?_
      rcases (has_mark _ _ _ _).1 hstart with hl | hl
      · exact ((h.has_pending d.location).1 hm).2 c hc hl
      · exact hs hl
  induction h with
  | done s => exact nomatch hc
  | fault s e he => exact nomatch hc
  | change h => exact nomatch hc
  | seq h₁ h₂ ih₁ ih₂ =>
    rcases List.mem_append.1 hc with hc | hc
    · obtain ⟨l, hl⟩ := ih₁ hc hs
      cases hl
    · exact ih₂ hc fun hs' => hs ((h₁.has_pending c.location).1 hs').1
  | lost d hg h hm ih => exact ⟨_, rfl⟩
  | failed d hg h hm hf ih =>
    obtain ⟨l, hl⟩ := hcall h ih hm hc hs
    exact ⟨l, hf.symm.trans hl⟩
  | taken d hg h hm ht ih =>
    obtain ⟨l, hl⟩ := hcall h ih hm hc hs
    rw [ht.1] at hl
    cases hl
  | compiled d id hg h hm hf ht ih =>
    obtain ⟨l, hl⟩ := hcall h ih hm hc hs
    rw [hf] at hl
    cases hl
  | reserved hn ht => exact nomatch hc
  | occupied hn ht => exact nomatch hc
  | abandoned location hs' h ih => exact ih hc hs
  | generated name id f hs' h ih =>
    obtain ⟨l, hl⟩ := ih hc hs
    cases hl

/-- Without marks from before, a mark is lost exactly when a call enters a location again. -/
theorem Course.lost_iff_reenters (h : Course mode named s calls r s') (hs : s.pending = []) :
    (∃ l, r = some (.pendingLost l)) ↔ ∃ c ∈ calls, c.Reenters := by
  constructor
  · rintro ⟨l, hl⟩
    exact h.reenters_of_lost hl
  · rintro ⟨c, hc, hre⟩
    exact h.lost_of_reenters hc hre ((pending_eq_nil_iff s).1 hs c.location)

/-- A result is a failure exactly when its failure is that one. -/
theorem failure?_eq_some_iff {α : Type} {r : Except Failure α} {e : Failure} :
    failure? r = some e ↔ r = .error e := by
  cases r with
  | ok a => exact ⟨fun h => (nomatch h), fun h => (nomatch h)⟩
  | error e' =>
    rw [failure?_error, Option.some_inj]
    exact ⟨congrArg Except.error, fun h => by cases h; rfl⟩

/-- In every reachable state, a generation fails with a lost mark exactly when one of the
compilations that it makes is at a location that is being compiled. -/
theorem pendingLost_iff_reenters (mode : Mode) (hs : Reachable s) (base : String)
    (f : Fragment) :
    (∃ calls, Makes mode base f s calls) ∧ ∀ calls, Makes mode base f s calls →
      ((∃ l, ((generate mode base f).run s).1 = .error (.pendingLost l)) ↔
        ∃ c ∈ calls, c.Reenters) := by
  refine ⟨exists_makes mode base f s, fun calls hc => ?_⟩
  rw [(generate_run mode base f s).1, ← Course.lost_iff_reenters hc hs.pending]
  exact exists_congr fun l => failure?_eq_some_iff.symm

/-! ## A document that is entered again -/

/-- The location whose mark a result says is lost. -/
def lostMark? {α : Type} : Except Failure α → Option String
  | .error (.pendingLost l) => some l
  | _ => none

theorem eq_error_of_lostMark {α : Type} {r : Except Failure α} {l : String}
    (h : lostMark? r = some l) : r = .error (.pendingLost l) := by
  unfold lostMark? at h
  split at h <;> cases h
  rfl

/-- A document whose branch has a property with that same branch. -/
def loopDocument : Json :=
  .obj [("oneOf", .arr [.obj [("$ref", .str "#/definitions/a")]]),
    ("definitions", .obj [("a", .obj [("type", .str "object"), ("properties", .obj [
      ("p", .obj [("oneOf", .arr [.obj [("$ref", .str "#/definitions/a")]])])])])])]

/-- The root of the document. -/
def loopRoot : Fragment := ⟨loopDocument, "memory:///schema.json", ""⟩

/-- The state with that document and nothing generated. -/
def loopState : Generation :=
  { store := (Store.empty fun _ => .unavailable "").add "memory:///schema.json" loopDocument }

theorem generate_loopRoot : ((generate { config := {} } "tree" loopRoot).run loopState).1 =
    .error (.pendingLost "memory:///schema.json#/definitions/a") :=
  eq_error_of_lostMark (by decide +kernel)

/-- A generation from a fresh state may end with a lost mark. -/
theorem exists_reachable_pendingLost : Reachable loopState ∧
    ((generate { config := {} } "tree" loopRoot).run loopState).1 =
      .error (.pendingLost "memory:///schema.json#/definitions/a") :=
  ⟨.fresh _, generate_loopRoot⟩

/-- In the generation of that document a compilation enters a location again. -/
theorem exists_reenters_loopRoot :
    ∃ calls, Makes { config := {} } "tree" loopRoot loopState calls ∧ ∃ c ∈ calls, c.Reenters := by
  obtain ⟨⟨calls, hc⟩, hiff⟩ :=
    pendingLost_iff_reenters { config := {} } (Reachable.fresh loopState.store) "tree" loopRoot
  exact ⟨calls, hc, (hiff calls hc).1 ⟨_, generate_loopRoot⟩⟩

end ShapeSum
