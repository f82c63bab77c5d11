import ShapeSum.Proofs.Generation.Keeping

/-!
# Unions describe what they were made of

A generation should return a union that describes the fragment as it is at that moment.
It does when no union was kept for the location of the fragment.  Otherwise it returns
the kept one, which describes a fragment that stood at this location earlier in the
session (`Session.describes_generate`).
-/

namespace ShapeSum

variable {past : List (String → Fetch)} {s : Generation}

/-- In every session, a generation that succeeds returns the union of the fragment at the end of the
references.  If none was kept for its location, the union describes it by the present documents;
otherwise it is the kept one, which describes a fragment at the same location by the documents of
some step. -/
theorem Session.describes_generate (h : Session past s) (mode : Mode) (base : String)
    (f : Fragment) {id : TypeId} (hr : ((generate mode base f).run s).1 = .ok id) :
    ∃ target u, LeadsTo s.store.view f target ∧
      ((generate mode base f).run s).2.types.union? id = some u ∧
      (Entries.get? s.unions target.location = none ∧
          u.Describes ((generate mode base f).run s).2.types s.store.view target ∨
        Entries.get? s.unions target.location = some id ∧ ∃ view ∈ past, ∃ g : Fragment,
          g.location = target.location ∧
            u.Describes ((generate mode base f).run s).2.types view g) := by
  obtain ⟨-, hg, hp⟩ := upholds_generate (upkeep_keeps mode h.view_mem) base f s h.keeps
  obtain ⟨target, hl, hkept | ⟨hnone, u, hu, hc⟩⟩ := hp id hr
  · obtain ⟨content, hf⟩ := h.keeps.unions _ _ hkept
    cases hf with
    | @union _ u g view hu hv hgl _ hd =>
      exact ⟨target, u, hl, hg.union hu, .inr ⟨hkept, view, hv, g, hgl, hd.grow hg⟩⟩
  · exact ⟨target, u, hl, hu, .inl ⟨hnone, describes_of_composed hc⟩⟩

/-! ## A document that is added again -/

/-- A branch with one property. -/
def recordBranch (property : String) : Json :=
  .obj [("type", .str "object"), ("properties", .obj [(property, .obj [("type", .str "string")])])]

/-- A document with one branch. -/
def firstEdition : Json := .obj [("oneOf", .arr [recordBranch "a"])]

/-- The document with another branch. -/
def secondEdition : Json := .obj [("oneOf", .arr [recordBranch "a", recordBranch "b"])]

/-- The root of the document with another branch. -/
def secondRoot : Fragment := ⟨secondEdition, "memory:///schema.json", ""⟩

/-- The store with the first edition of the document. -/
def editionStore : Store :=
  (Store.empty fun _ => .unavailable "").add "memory:///schema.json" firstEdition

/-- The state after the union of the first edition was generated. -/
def editedState : Generation :=
  ((Request.generate "record" ⟨firstEdition, "memory:///schema.json", ""⟩).run { config := {} }
    { store := editionStore }).2

/-- The state after the second edition was added in place of the first. -/
def revisedState : Generation :=
  ((Request.add "memory:///schema.json" secondEdition).run { config := {} } editedState).2

theorem session_revisedState : ∃ past, Session past revisedState :=
  ⟨_, .request _ (.add _ _) (.request _ (.generate _ _) (.fresh editionStore))⟩

theorem generate_secondRoot :
    ((generate { config := {} } "record" secondRoot).run revisedState).1 = .ok 1 :=
  eq_ok_of_toOption (by decide +kernel)

/-- The union of the second edition describes a fragment at its location by the documents of some
step. -/
theorem describes_generate_secondRoot : ∃ past target u, Session past revisedState ∧
    ((generate { config := {} } "record" secondRoot).run revisedState).1 = .ok 1 ∧
    LeadsTo revisedState.store.view secondRoot target ∧
    ((generate { config := {} } "record" secondRoot).run revisedState).2.types.union? 1 = some u ∧
    (Entries.get? revisedState.unions target.location = none ∧
        u.Describes ((generate { config := {} } "record" secondRoot).run revisedState).2.types
          revisedState.store.view target ∨
      Entries.get? revisedState.unions target.location = some 1 ∧ ∃ view ∈ past, ∃ g : Fragment,
        g.location = target.location ∧
          u.Describes ((generate { config := {} } "record" secondRoot).run revisedState).2.types
            view g) := by
  obtain ⟨past, hs⟩ := session_revisedState
  obtain ⟨target, u, h⟩ :=
    hs.describes_generate { config := {} } "record" secondRoot generate_secondRoot
  exact ⟨past, target, u, hs, generate_secondRoot, h⟩

/-- The union of the second edition does not describe it: it has one variant for two branches. -/
theorem exists_not_describes : ∃ past u, Session past revisedState ∧
    ((generate { config := {} } "record" secondRoot).run revisedState).1 = .ok 1 ∧
    LeadsTo revisedState.store.view secondRoot secondRoot ∧
    ((generate { config := {} } "record" secondRoot).run revisedState).2.types.union? 1 = some u ∧
    ¬u.Describes ((generate { config := {} } "record" secondRoot).run revisedState).2.types
      revisedState.store.view secondRoot := by
  have h : (((generate { config := {} } "record" secondRoot).run revisedState).2.types.union?
      1).any (fun u => u.variants.length == 1) = true := by
    decide +kernel
  obtain ⟨past, hs⟩ := session_revisedState
  obtain ⟨u, hu, hl⟩ := (Option.any_eq_true _ _).1 h
  refine ⟨past, u, hs, generate_secondRoot, leadsTo_self rfl _, hu, fun hd => ?_⟩
  have hlen := hd.variants.length_eq
  rw [eq_of_beq hl] at hlen
  exact absurd hlen (by decide)

end ShapeSum
