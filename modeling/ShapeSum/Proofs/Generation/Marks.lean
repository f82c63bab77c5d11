import ShapeSum.Proofs.Generation.Course

/-!
# What a generation keeps

The marks of compilations obey one law, `Course.has_pending`: after a course a
location is marked exactly when it was marked before and no call of the course was
at it.  So a course never leaves a mark behind.  The marks of unions are those from
before when the course succeeds.  Documents that could be had before can be had
after, and the variants of unions stay in order.
-/

namespace ShapeSum

variable {mode : Mode} {named : Naming} {s s' : Generation} {calls : List Call}
  {r : Option Failure}

/-! ## The marks of compilations -/

theorem has_mark (s : Generation) (location name l : String) :
    Entries.has (s.mark location name).pending l = true ↔
      l = location ∨ Entries.has s.pending l = true :=
  Entries.has_set s.pending location name l

theorem has_unmark (s : Generation) (location l : String) :
    Entries.has (s.unmark location).pending l = true ↔
      l ≠ location ∧ Entries.has s.pending l = true :=
  Entries.has_filter_ne s.pending location l

/-- A small change keeps the marks. -/
theorem Change.pending (h : Change s s') : s'.pending = s.pending := by
  cases h <;> rfl

/-- The law of marks for one call, given the law for the calls inside it. -/
theorem Call.has_pending (c : Call) {l : String}
    (ih : Entries.has c.after.pending l = true ↔
      Entries.has c.start.pending l = true ∧ ∀ d ∈ calls, d.location ≠ l) :
    Entries.has (c.after.unmark c.location).pending l = true ↔
      Entries.has c.before.pending l = true ∧ ∀ d ∈ c :: calls, d.location ≠ l := by
  rw [has_unmark, ih, Call.start, has_mark, List.forall_mem_cons]
  constructor
  · rintro ⟨hl, hm | hm, hd⟩
    · exact absurd hm hl
    · exact ⟨hm, fun e => hl e.symm, hd⟩
  · rintro ⟨hm, hl, hd⟩
    exact ⟨fun e => hl e.symm, .inr hm, hd⟩

/-- After a course a location is marked exactly when it was marked before and no call was at it. -/
theorem Course.has_pending (h : Course mode named s calls r s') (l : String) :
    Entries.has s'.pending l = true ↔
      Entries.has s.pending l = true ∧ ∀ c ∈ calls, c.location ≠ l := by
  induction h with
  | done s => simp
  | fault s e he => simp
  | change h => rw [h.pending]; simp
  | seq h₁ h₂ ih₁ ih₂ =>
    rw [ih₂, ih₁, List.forall_mem_append, and_assoc]
  | lost c hg h hm ih =>
    rw [← c.has_pending ih, has_unmark]
    refine ⟨fun hl => ⟨fun e => ?_, hl⟩, And.right⟩
    rw [e, hm] at hl
    cases hl
  | failed c hg h hm hf ih => exact c.has_pending ih
  | taken c hg h hm ht ih => exact c.has_pending ih
  | compiled c id hg h hm hf ht ih => exact c.has_pending ih
  | reserved hn ht => simp [Generation.put]
  | occupied hn ht => simp
  | abandoned location hs h ih => exact ih
  | generated name id f hs h ih => exact ih

/-- Nothing is marked when there are no entries. -/
theorem pending_eq_nil_iff (s : Generation) :
    s.pending = [] ↔ ∀ l, ¬Entries.has s.pending l = true := by
  constructor
  · intro h l
    rw [h]
    exact Bool.false_ne_true
  · intro h
    rcases hp : s.pending with _ | ⟨⟨l, name⟩, rest⟩
    · rfl
    · refine absurd ?_ (h l)
      rw [hp, Entries.has, Entries.get?, if_pos rfl]
      rfl

/-- A course leaves no marks behind. -/
theorem Course.pending_eq_nil (h : Course mode named s calls r s') (hs : s.pending = []) :
    s'.pending = [] := by
  rw [pending_eq_nil_iff] at hs ⊢
  intro l hl
  exact hs l ((h.has_pending l).1 hl).1

/-! ## The marks of unions -/

theorem Change.inProgress (h : Change s s') : s'.inProgress = s.inProgress := by
  cases h <;> rfl

/-- The mark of a union is removed from the marks that were there before. -/
theorem filter_ne_cons {location : String} {marks : List String} (h : location ∉ marks) :
    (location :: marks).filter (· != location) = marks := by
  rw [List.filter_cons_of_neg (by simp)]
  rw [List.filter_eq_self]
  intro l hl
  exact bne_iff_ne.2 fun e => h (e ▸ hl)

/-- A course that succeeds keeps the marks of unions. -/
theorem Course.inProgress_of_none (h : Course mode named s calls r s') (hr : r = none) :
    s'.inProgress = s.inProgress := by
  induction h with
  | done s => rfl
  | fault s e he => cases hr
  | change h => exact h.inProgress
  | seq h₁ h₂ ih₁ ih₂ => exact (ih₂ hr).trans (ih₁ rfl)
  | lost c hg h hm ih => cases hr
  | failed c hg h hm hf ih => cases hr
  | taken c hg h hm ht ih => cases hr
  | compiled c id hg h hm hf ht ih => exact ih hf
  | reserved hn ht => rfl
  | occupied hn ht => cases hr
  | abandoned location hs h ih => cases hr
  | @generated s s' calls name id f hs h ih =>
    show s'.inProgress.filter (· != f.location) = s.inProgress
    rw [ih rfl]
    exact filter_ne_cons hs

/-! ## Documents and types -/

/-- What depends on the documents and types only, and is kept by small changes, is kept. -/
theorem Course.invariant {P : Generation → Prop} (h : Course mode named s calls r s')
    (hchange : ∀ {s s'}, Change s s' → P s → P s')
    (hframe : ∀ {s s'}, P s → s'.store = s.store → s'.types = s.types → P s') (hs : P s) :
    P s' := by
  induction h with
  | done s => exact hs
  | fault s e he => exact hs
  | change h => exact hchange h hs
  | seq h₁ h₂ ih₁ ih₂ => exact ih₂ (ih₁ hs)
  | lost c hg h hm ih => exact ih (hframe hs rfl rfl)
  | failed c hg h hm hf ih => exact hframe (ih (hframe hs rfl rfl)) rfl rfl
  | taken c hg h hm ht ih => exact hframe (ih (hframe hs rfl rfl)) rfl rfl
  | compiled c id hg h hm hf ht ih => exact hframe (ih (hframe hs rfl rfl)) rfl rfl
  | reserved hn ht => exact hframe hs rfl rfl
  | occupied hn ht => exact hs
  | abandoned location hs' h ih => exact ih (hframe hs rfl rfl)
  | generated name id f hs' h ih => exact hframe (ih (hframe hs rfl rfl)) rfl rfl

/-- The same documents can be had after a course. -/
theorem Course.view (h : Course mode named s calls r s') : s'.store.view = s.store.view := by
  refine h.invariant (P := fun t => t.store.view = s.store.view) (fun hc ht => ?_)
    (fun ht hst _ => ?_) rfl
  · cases hc with
    | documents store hv => exact hv.trans ht
    | _ => exact ht
  · rw [hst]
    exact ht

/-- The variants of every union have their required fields in order. -/
def Types.Ordered (types : Types) : Prop :=
  ∀ u, .union u ∈ types → ∀ v ∈ u.variants, v.Ordered

/-- A model does not disturb the order of variants. -/
theorem Types.Ordered.of_mem {types types' : Types} (h : types.Ordered)
    (hm : ∀ u, .union u ∈ types' → .union u ∈ types ∨ ∀ v ∈ u.variants, v.Ordered) :
    types'.Ordered := by
  intro u hu
  rcases hm u hu with hu | hv
  · exact h u hu
  · exact hv

/-- The variants of unions stay in order. -/
theorem Course.ordered (h : Course mode named s calls r s') (hs : s.types.Ordered) :
    s'.types.Ordered := by
  refine h.invariant (P := fun t => t.types.Ordered) (fun hc ht => ?_)
    (fun ht _ hst => ?_) hs
  · cases hc with
    | model m =>
      refine ht.of_mem fun u hu => .inl ?_
      simpa using hu
    | settle id m =>
      refine ht.of_mem fun u hu => .inl ?_
      rcases List.mem_or_eq_of_mem_set hu with hu | hu
      · exact hu
      · cases hu
    | union u hv =>
      refine ht.of_mem fun w hw => ?_
      rcases List.mem_append.1 hw with hw | hw
      · exact .inl hw
      · cases List.mem_singleton.1 hw
        exact .inr hv
    | _ => exact ht
  · rw [hst]
    exact ht

end ShapeSum
