import ShapeSum.Proofs.Generation.Reentry
import ShapeSum.Proofs.Naming.Unique

/-!
# Names that are taken in between

The name for a model is chosen before the model is made and declared after it.  It
is free when it is chosen, but a model inside may be declared under the same name
before.  That is the only way for a chosen name to be taken: apart from lost marks,
a generation ends with a name that is already declared exactly when one of its
compilations is overtaken.  The names of unions are reserved at once and never
taken.
-/

namespace ShapeSum

variable {mode : Mode} {s s' : Generation} {calls : List Call} {r : Option Failure}

/-- A chosen name is free. -/
theorem Chosen.free {names : Namespace} {name : String} (h : Chosen mode names name)
    (hsep : Config.isSeparator mode.config.separator = true) : names.contains name = false := by
  obtain ⟨raw, rfl⟩ := h
  rw [Namespace.contains, List.any_eq_false]
  intro k hk he
  refine uniqueName_free hsep raw (Entries.keys names.names) ?_
  rw [← eq_of_beq he]
  exact List.mem_map_of_mem hk

/-- Every compilation begins with a free name. -/
theorem Course.name_free (h : Course mode (Chosen mode) s calls r s')
    (hsep : Config.isSeparator mode.config.separator = true) :
    ∀ c ∈ calls, c.before.names.contains c.name = false := by
  induction h with
  | done s => exact fun _ hc => nomatch hc
  | fault s e he => exact fun _ hc => nomatch hc
  | change h => exact fun _ hc => nomatch hc
  | seq h₁ h₂ ih₁ ih₂ => exact List.forall_mem_append.2 ⟨ih₁, ih₂⟩
  | lost c hg h hm ih => exact List.forall_mem_cons.2 ⟨hg.name.free hsep, ih⟩
  | failed c hg h hm hf ih => exact List.forall_mem_cons.2 ⟨hg.name.free hsep, ih⟩
  | taken c hg h hm ht ih => exact List.forall_mem_cons.2 ⟨hg.name.free hsep, ih⟩
  | compiled c id hg h hm hf ht ih => exact List.forall_mem_cons.2 ⟨hg.name.free hsep, ih⟩
  | reserved hn ht => exact fun _ hc => nomatch hc
  | occupied hn ht => exact fun _ hc => nomatch hc
  | abandoned location hs h ih => exact ih
  | generated name id f hs h ih => exact ih

/-- A name is already declared only if its compilation was overtaken. -/
theorem Course.overtaken_of_alreadyDeclared (h : Course mode (Chosen mode) s calls r s')
    (hsep : Config.isSeparator mode.config.separator = true) {n : String}
    (hr : r = some (.generation (.alreadyDeclared n))) : ∃ c ∈ calls, c.Overtaken := by
  induction h with
  | done s => cases hr
  | fault s e he =>
    cases hr
    cases he
  | change h => cases hr
  | seq h₁ h₂ ih₁ ih₂ =>
    obtain ⟨c, hc, ho⟩ := ih₂ hr
    exact ⟨c, List.mem_append_right _ hc, ho⟩
  | lost c hg h hm ih => cases hr
  | failed c hg h hm hf ih =>
    obtain ⟨d, hd, ho⟩ := ih (hf.trans hr)
    exact ⟨d, List.mem_cons_of_mem _ hd, ho⟩
  | taken c hg h hm ht ih => exact ⟨c, List.mem_cons_self, ht⟩
  | compiled c id hg h hm hf ht ih => cases hr
  | reserved hn ht => cases hr
  | occupied hn ht =>
    rw [hn.free hsep] at ht
    cases ht
  | abandoned location hs h ih => exact ih hr
  | generated name id f hs h ih => cases hr

/-- When a compilation is overtaken, its name is already declared, or a mark is lost around it. -/
theorem Course.fails_of_overtaken {named : Naming} (h : Course mode named s calls r s')
    {c : Call} (hc : c ∈ calls) (ho : c.Overtaken) :
    (∃ n, r = some (.generation (.alreadyDeclared n))) ∨ ∃ l, r = some (.pendingLost l) := by
  induction h with
  | done s => exact nomatch hc
  | fault s e he => exact nomatch hc
  | change h => exact nomatch hc
  | seq h₁ h₂ ih₁ ih₂ =>
    rcases List.mem_append.1 hc with hc | hc
    · obtain ⟨n, hn⟩ | ⟨l, hl⟩ := ih₁ hc
      · cases hn
      · cases hl
    · exact ih₂ hc
  | lost d hg h hm ih => exact .inr ⟨_, rfl⟩
  | failed d hg h hm hf ih =>
    rw [← hf]
    rcases List.mem_cons.1 hc with rfl | hc
    · rw [ho.1] at hf
      cases hf
    · exact ih hc
  | taken d hg h hm ht ih => exact .inl ⟨_, rfl⟩
  | compiled d id hg h hm hf ht ih =>
    rcases List.mem_cons.1 hc with rfl | hc
    · rw [ho.2] at ht
      cases ht
    · rw [hf] at ih
      obtain ⟨n, hn⟩ | ⟨l, hl⟩ := ih hc
      · cases hn
      · cases hl
  | reserved hn ht => exact nomatch hc
  | occupied hn ht => exact nomatch hc
  | abandoned location hs h ih => exact ih hc
  | generated name id f hs h ih =>
    obtain ⟨n, hn⟩ | ⟨l, hl⟩ := ih hc
    · cases hn
    · cases hl

/-- Without marks from before, a name is already declared exactly when a compilation is overtaken
and none enters a location again. -/
theorem Course.alreadyDeclared_iff (h : Course mode (Chosen mode) s calls r s')
    (hsep : Config.isSeparator mode.config.separator = true) (hs : s.pending = []) :
    (∃ n, r = some (.generation (.alreadyDeclared n))) ↔
      (∃ c ∈ calls, c.Overtaken) ∧ ∀ c ∈ calls, ¬c.Reenters := by
  constructor
  · rintro ⟨n, hn⟩
    refine ⟨h.overtaken_of_alreadyDeclared hsep hn, fun c hc hre => ?_⟩
    obtain ⟨l, hl⟩ := (h.lost_iff_reenters hs).2 ⟨c, hc, hre⟩
    rw [hn] at hl
    cases hl
  · rintro ⟨⟨c, hc, ho⟩, hno⟩
    rcases h.fails_of_overtaken hc ho with hn | hl
    · exact hn
    · obtain ⟨d, hd, hre⟩ := (h.lost_iff_reenters hs).1 hl
      exact absurd hre (hno d hd)

/-- In every reachable state, every compilation of a generation begins with a free name, and the
generation fails with a name that is already declared exactly when one of its compilations is
overtaken and none enters a location again. -/
theorem alreadyDeclared_iff_overtaken (mode : Mode)
    (hsep : Config.isSeparator mode.config.separator = true) (hs : Reachable s) (base : String)
    (f : Fragment) :
    (∃ calls, Makes mode base f s calls) ∧ ∀ calls, Makes mode base f s calls →
      (∀ c ∈ calls, c.before.names.contains c.name = false) ∧
      ((∃ n, ((generate mode base f).run s).1 = .error (.generation (.alreadyDeclared n))) ↔
        (∃ c ∈ calls, c.Overtaken) ∧ ∀ c ∈ calls, ¬c.Reenters) := by
  refine ⟨exists_makes mode base f s, fun calls hc => ⟨Course.name_free hc hsep, ?_⟩⟩
  rw [(generate_run mode base f s).1, ← Course.alreadyDeclared_iff hc hsep hs.pending]
  exact exists_congr fun n => failure?_eq_some_iff.symm

/-! ## A document whose name is taken in between -/

/-- The name that a result says is already declared. -/
def declaredName? {α : Type} : Except Failure α → Option String
  | .error (.generation (.alreadyDeclared n)) => some n
  | _ => none

theorem eq_error_of_declaredName {α : Type} {r : Except Failure α} {n : String}
    (h : declaredName? r = some n) : r = .error (.generation (.alreadyDeclared n)) := by
  unfold declaredName? at h
  split at h <;> cases h
  rfl

/-- A document whose branch has an object property of the branch's own name. -/
def namesakeDocument : Json :=
  .obj [("oneOf", .arr [.obj [("$ref", .str "#/definitions/foo")]]),
    ("definitions", .obj [("foo", .obj [("type", .str "object"), ("properties", .obj [
      ("foo", .obj [("type", .str "object"), ("properties", .obj [
        ("a", .obj [("type", .str "string")])])])])])])]

/-- The root of the document. -/
def namesakeRoot : Fragment := ⟨namesakeDocument, "memory:///schema.json", ""⟩

/-- The state with that document and nothing generated. -/
def namesakeState : Generation :=
  { store := (Store.empty fun _ => .unavailable "").add "memory:///schema.json"
      namesakeDocument }

theorem generate_namesakeRoot :
    ((generate { config := {} } "tree" namesakeRoot).run namesakeState).1 =
      .error (.generation (.alreadyDeclared "Foo")) :=
  eq_error_of_declaredName (by decide +kernel)

/-- A generation from a fresh state may fail since its chosen name is already declared. -/
theorem exists_reachable_alreadyDeclared : Reachable namesakeState ∧
    ((generate { config := {} } "tree" namesakeRoot).run namesakeState).1 =
      .error (.generation (.alreadyDeclared "Foo")) :=
  ⟨.fresh _, generate_namesakeRoot⟩

/-- In the generation of that document a compilation is overtaken. -/
theorem exists_overtaken_namesakeRoot :
    ∃ calls, Makes { config := {} } "tree" namesakeRoot namesakeState calls ∧
      ∃ c ∈ calls, c.Overtaken := by
  obtain ⟨⟨calls, hc⟩, h⟩ := alreadyDeclared_iff_overtaken { config := {} } (by decide +kernel)
    (Reachable.fresh namesakeState.store) "tree" namesakeRoot
  exact ⟨calls, hc, ((h calls hc).2.1 ⟨_, generate_namesakeRoot⟩).1⟩

end ShapeSum
