import ShapeSum.Proofs.Generation.Obeying
import ShapeSum.Proofs.Generation.Producing
import ShapeSum.Proofs.Generation.Uniting

/-!
# States across successful computations

A relation between states carries over a computation when it holds between the states
before and after each of its runs that succeed.  What a regime says is said of every run;
here a run that fails says nothing, so the making of a union can be taken as one step, from
before its location is marked to when it is kept (`Outward.union`).

The functions that make unions carry over every relation that the compilation of a branch
carries over.
-/

namespace ShapeSum

variable {α β : Type} {mode : Mode} {Q : Generation → Generation → Prop} {x : Generating α}

/-- A relation holds between the states before and after a computation that succeeds. -/
def CarriesOver (Q : Generation → Generation → Prop) (x : Generating α) : Prop :=
  ∀ s a s', x.run s = (.ok a, s') → Q s s'

theorem carriesOver_throw (e : Failure) : CarriesOver Q (throw e : Generating α) :=
  fun _ _ _ h => nomatch h

/-- A relation that the steps of making unions carry over. -/
structure Outward (mode : Mode) (Q : Generation → Generation → Prop) : Prop where
  refl (s : Generation) : Q s s
  trans {s s' s'' : Generation} : Q s s' → Q s' s'' → Q s s''
  /-- Something aside is done. -/
  aside {s s' : Generation} : Aside s s' → s'.session = s.session →
    s'.backReference = s.backReference → Q s s'
  /-- A reference back is noted. -/
  refer (s : Generation) : Q s { s with backReference := true }
  /-- A name is reserved. -/
  reserve {s : Generation} {name : String} : s.names.contains name = false →
    Q s (s.put name .reserved none)
  /-- A union is made. -/
  union {s s' : Generation} {f : Fragment} {name : String} {variants : List Variant}
    {u : UnionType} : Entries.get? s.unions f.location = none → f.location ∉ s.inProgress →
    Q (s.enter f.location) s' → assembleUnion mode name f.location variants = .ok u →
    Q s (Generation.leave { s' with types := s'.types ++ [.union u] } name s'.types.length f)

section Outward

variable (hQ : Outward mode Q)

include hQ

theorem carriesOver_pure (a : α) : CarriesOver Q (pure a : Generating α) := by
  intro s a' s' h
  cases h
  exact hQ.refl s

theorem CarriesOver.bind {f : α → Generating β} (hx : CarriesOver Q x)
    (hf : ∀ a, CarriesOver Q (f a)) : CarriesOver Q (x >>= f) := by
  intro s b s'' h
  obtain ⟨a, s', hrun, h⟩ := exists_of_run_bind h
  exact hQ.trans (hx s a s' hrun) (hf a s' b s'' h)

omit hQ in
theorem CarriesOver.get {f : Generation → Generating α} (hf : ∀ s, CarriesOver Q (f s)) :
    CarriesOver Q (get >>= f) := fun s a s' h => hf s s a s' h

theorem carriesOver_ofExcept (r : Except Failure α) : CarriesOver Q (Generating.ofExcept r) := by
  cases r with
  | ok a => exact carriesOver_pure hQ a
  | error e => exact carriesOver_throw e

theorem carriesOver_declaredNames : CarriesOver Q Generating.declaredNames := by
  intro s a s' h
  cases h
  exact hQ.refl s

theorem carriesOver_report (e : Event) : CarriesOver Q (Generating.report e) := by
  intro s a s' h
  cases h
  exact hQ.aside ⟨rfl, rfl, rfl, rfl, rfl, rfl, id⟩ rfl rfl

theorem carriesOver_onStore {x : Resolving α} (hx : Transparent x) :
    CarriesOver Q (Generating.onStore x) := by
  intro s a s' h
  rw [Generating.run_onStore] at h
  obtain ⟨-, rfl⟩ := Prod.mk.inj h
  exact hQ.aside ⟨hx.keeps s.store, rfl, rfl, rfl, rfl, rfl, id⟩ rfl rfl

theorem carriesOver_reserve (name : String) : CarriesOver Q (Generating.reserve name) := by
  intro s a s' h
  rw [Generating.run_reserve, Generating.run_declare] at h
  split at h
  · cases h
  · rename_i hfree
    cases h
    exact hQ.reserve (Bool.eq_false_iff.2 hfree)

/-! ## The making of a union -/

theorem carriesOver_branchTarget (branch : Fragment) : CarriesOver Q (branchTarget branch) := by
  have hcheck (t : Fragment) : CarriesOver Q (if t.isObject then return t
      else throw (.generation (.nonObject t.location t.content)) : Generating Fragment) := by
    split
    · exact carriesOver_pure hQ t
    · exact carriesOver_throw _
  unfold branchTarget
  dsimp only
  split
  · exact .bind hQ (carriesOver_onStore hQ (transparent_resolve branch)) hcheck
  · exact .bind hQ (carriesOver_pure hQ branch) hcheck

theorem carriesOver_nameBranch (base : String) (branch : Fragment) :
    CarriesOver Q (nameBranch mode base branch) := by
  unfold nameBranch
  split
  · exact .bind hQ (carriesOver_declaredNames hQ) fun _ => carriesOver_ofExcept hQ _
  · intro s name s' h
    cases h
    exact hQ.aside ⟨rfl, rfl, rfl, rfl, rfl, rfl, id⟩ rfl rfl

variable {annotate : Annotate} (hC : ∀ name f, CarriesOver Q (compile mode annotate name f))

include hC

theorem carriesOver_branchType (base : String) (branch target : Fragment) :
    CarriesOver Q (branchType mode annotate base branch target) := by
  refine .get fun s => ?_
  split
  · exact carriesOver_pure hQ _
  · exact carriesOver_pure hQ _
  · exact carriesOver_throw _
  · refine .bind hQ (carriesOver_nameBranch hQ base branch) fun name => ?_
    exact .bind hQ (hC name target) fun _ => carriesOver_pure hQ _

theorem carriesOver_compileVariant (base : String) (branch : Fragment) :
    CarriesOver Q (compileVariant mode annotate base branch) := by
  refine .bind hQ (carriesOver_branchTarget hQ branch) fun target => ?_
  refine .bind hQ (carriesOver_branchType hQ hC base branch target) fun _ => ?_
  refine .bind hQ (carriesOver_report hQ _) fun _ => ?_
  exact .get fun _ => carriesOver_ofExcept hQ _

theorem carriesOver_compileVariants (base : String) (branches : List Fragment) :
    CarriesOver Q (compileVariants mode annotate base branches) := by
  induction branches with
  | nil => exact carriesOver_pure hQ _
  | cons b bs ih =>
    refine .bind hQ (carriesOver_compileVariant hQ hC base b) fun v => ?_
    exact .bind hQ ih fun _ => carriesOver_pure hQ _

theorem carriesOver_draftVariants (base : String) (f : Fragment) :
    CarriesOver Q (draftVariants mode annotate base f) := by
  refine .bind hQ (carriesOver_declaredNames hQ) fun declared => ?_
  refine .bind hQ (carriesOver_reserve hQ _) fun _ => ?_
  refine .bind hQ (carriesOver_report hQ _) fun _ => ?_
  exact .bind hQ (carriesOver_compileVariants hQ hC base f.branches) fun _ => carriesOver_pure hQ _

/-- A union that is given was kept before, or made in one step. -/
theorem carriesOver_unionOf (base : String) (f : Fragment) :
    CarriesOver Q (unionOf mode annotate base f) := by
  refine .bind hQ (carriesOver_onStore hQ (transparent_resolve f)) fun target => ?_
  intro s id s' h
  obtain ⟨_, _, hget, h⟩ := exists_of_run_bind h
  cases hget
  split at h
  · cases h
    exact hQ.refl s
  · rename_i hunions
    split at h
    · cases h
    · rename_i hprogress
      split at h
      · cases h
      · rw [run_buildUnion, run_draftUnion] at h
        rcases hrun : (draftVariants mode annotate base target).run (s.enter target.location)
          with ⟨e | ⟨name, variants⟩, t⟩ <;> rw [hrun] at h <;> dsimp only at h
        · cases h
        · cases hu : assembleUnion mode name target.location variants with
          | error e =>
            rw [hu] at h
            cases h
          | ok u =>
            rw [hu] at h
            dsimp only at h
            split at h
            · cases h
              exact hQ.union hunions (by simpa using hprogress)
                (carriesOver_draftVariants hQ hC base target _ _ _ hrun) hu
            · cases h

/-! ## The types of properties -/

variable (hA : ∀ property f, CarriesOver Q (annotate property f))

include hA

omit hC in
theorem carriesOver_compileFields (required : List String) (done : List Field)
    (properties : List (String × Fragment)) :
    CarriesOver Q (compileFields annotate required done properties) := by
  induction properties generalizing done with
  | nil => exact carriesOver_pure hQ _
  | cons p rest ih =>
    obtain ⟨property, f⟩ := p
    refine .bind hQ (hA property f) fun r => ?_
    obtain ⟨type, isBack⟩ := r
    cases isBack with
    | false => exact ih _
    | true =>
      refine .bind hQ (fun s _ s' h => ?_) fun _ => ih _
      cases h
      exact hQ.refer s

theorem carriesOver_typeFor (property : String) (reference : Option String) (f : Fragment)
    (jsonType : String) :
    CarriesOver Q (typeFor mode annotate property reference f jsonType) := by
  by_cases hobject : jsonType = "object"
  · subst hobject
    change CarriesOver Q (objectType mode annotate property reference f)
    unfold objectType
    split
    · exact carriesOver_pure hQ _
    · refine .bind hQ (carriesOver_ofExcept hQ _) fun raw => ?_
      refine .bind hQ (carriesOver_declaredNames hQ) fun declared => ?_
      exact .bind hQ (hC _ f) fun _ => carriesOver_pure hQ _
  by_cases harray : jsonType = "array"
  · subst harray
    refine .bind hQ ?_ fun _ => carriesOver_pure hQ _
    unfold itemType
    split
    · exact hA property _
    · exact carriesOver_pure hQ _
  · rw [Regime.typeFor_eq_plainType mode annotate property reference f hobject harray]
    exact carriesOver_pure hQ _

theorem carriesOver_typesFor (property : String) (reference : Option String) (f : Fragment)
    (jsonTypes : List String) :
    CarriesOver Q (typesFor mode annotate property reference f jsonTypes) := by
  induction jsonTypes with
  | nil => exact carriesOver_pure hQ _
  | cons t ts ih =>
    refine .bind hQ (carriesOver_typeFor hQ hC hA property reference f t) fun _ => ?_
    exact .bind hQ ih fun _ => carriesOver_pure hQ _

theorem carriesOver_newType (property : String) (reference : Option String) (f : Fragment) :
    CarriesOver Q (newType mode annotate property reference f) := by
  unfold newType
  split
  · split
    · exact .bind hQ (carriesOver_unionOf hQ hC property f)
        fun _ => carriesOver_pure hQ _
    · exact carriesOver_pure hQ _
  · split
    · exact carriesOver_pure hQ _
    · unfold typeByJsonTypes
      split
      · exact carriesOver_pure hQ _
      · exact .bind hQ (carriesOver_typesFor hQ hC hA property reference f _)
          fun _ => carriesOver_pure hQ _

theorem carriesOver_annotateOnce (property : String) (f : Fragment) :
    CarriesOver Q (annotateOnce mode annotate property f) := by
  refine .bind hQ (carriesOver_onStore hQ (transparent_resolveChain f)) fun chain => ?_
  refine .get fun s => ?_
  split
  · exact carriesOver_pure hQ _
  · split
    · exact carriesOver_pure hQ _
    · exact carriesOver_newType hQ hC hA property _ chain.target

end Outward

/-! ## Tables of types -/

namespace Types

variable {types types' : Types} {id : TypeId}

/-- What a table begins with is found in it. -/
theorem model?_eq_of_lt (h : types <+: types') (hlt : id < types.length) :
    types'.model? id = types.model? id := by
  obtain ⟨rest, rfl⟩ := h
  unfold model?
  rw [List.getElem?_append_left hlt]

/-- A model in the place of another one changes no unions. -/
theorem union?_set_model {m : Model} (hm : types.model? id = some m) (m' : Model) (id' : TypeId) :
    union? (types.set id (.model m')) id' = types.union? id' := by
  unfold union?
  rw [List.getElem?_set]
  by_cases he : id = id'
  · rw [if_pos he, if_pos (lt_length_of_model? hm), ← he, model?_eq_some.1 hm]
  · rw [if_neg he]

/-- A model at the end of a table adds no union. -/
theorem union?_append_model (types : Types) (m : Model) (id : TypeId) :
    union? (types ++ [.model m]) id = types.union? id := by
  unfold union?
  rcases Nat.lt_trichotomy id types.length with hlt | rfl | hgt
  · rw [List.getElem?_append_left hlt]
  · rw [List.getElem?_concat_length, List.getElem?_eq_none (Nat.le_refl _)]
  · rw [List.getElem?_eq_none (by simp; omega), List.getElem?_eq_none (by omega)]

/-- A union at the end of a table adds no model. -/
theorem model?_append_union (types : Types) (u : UnionType) (id : TypeId) :
    model? (types ++ [.union u]) id = types.model? id := by
  unfold model?
  rcases Nat.lt_trichotomy id types.length with hlt | rfl | hgt
  · rw [List.getElem?_append_left hlt]
  · rw [List.getElem?_concat_length, List.getElem?_eq_none (Nat.le_refl _)]
  · rw [List.getElem?_eq_none (by simp; omega), List.getElem?_eq_none (by omega)]

end Types

/-! ## Whole generations -/

/-- A generation that succeeds is a run that does. -/
theorem run_unionOf_of_generate {base : String} {f : Fragment} {s s' : Generation} {id : TypeId}
    (h : (generate mode base f).run s = (.ok id, s')) :
    (unionOf mode (annotate mode) base f).run s = (.ok id, s') := by
  obtain ⟨hresult, hstate⟩ := generate_run mode base f s
  rw [h] at hresult hstate
  rw [← hresult] at hstate
  exact Prod.ext hresult.symm hstate.symm

/-- A relation that looks at unions only, and that the making of a union carries over. -/
structure OfUnions (mode : Mode) (Q : Generation → Generation → Prop) : Prop where
  trans {s s' s'' : Generation} : Q s s' → Q s' s'' → Q s s''
  /-- No union is made. -/
  quiet {s s' : Generation} : s'.unions = s.unions → s'.inProgress = s.inProgress →
    s.types.length ≤ s'.types.length → (∀ id, s'.types.union? id = s.types.union? id) → Q s s'
  /-- A union is made. -/
  union {s s' : Generation} {f : Fragment} {name : String} {variants : List Variant}
    {u : UnionType} : Entries.get? s.unions f.location = none → f.location ∉ s.inProgress →
    Q (s.enter f.location) s' → assembleUnion mode name f.location variants = .ok u →
    Q s (Generation.leave { s' with types := s'.types ++ [.union u] } name s'.types.length f)

namespace OfUnions

variable (hQ : OfUnions mode Q)

include hQ

theorem outward : Outward mode Q where
  refl _ := hQ.quiet rfl rfl (Nat.le_refl _) fun _ => rfl
  trans := hQ.trans
  refer _ := hQ.quiet rfl rfl (Nat.le_refl _) fun _ => rfl
  aside h _ _ := hQ.quiet h.unions h.inProgress (h.types ▸ Nat.le_refl _) fun _ => h.types ▸ rfl
  reserve _ := hQ.quiet rfl rfl (Nat.le_refl _) fun _ => rfl
  union := hQ.union

theorem carriesOver_settleAll (ids : List TypeId) : CarriesOver Q (settleAll ids) := by
  induction ids with
  | nil => exact carriesOver_pure hQ.outward _
  | cons id ids ih =>
    intro s a s' h
    obtain ⟨_, _, hget, h⟩ := exists_of_run_bind h
    cases hget
    split at h
    · exact ih _ _ _ h
    · rename_i m hm
      split at h
      · cases h
      · rename_i m' hsettle
        obtain ⟨_, s₁, hset, h⟩ := exists_of_run_bind h
        cases hset
        have hstep : Q s { s with types := s.types.set id (.model m') } :=
          hQ.quiet rfl rfl (List.length_set ..).ge (Types.union?_set_model hm m')
        exact hQ.trans hstep (ih _ _ _ h)

/-! ### Compilations -/

variable {annotate : Annotate} (hA : ∀ property f, CarriesOver Q (annotate property f))

include hA

theorem carriesOver_buildModel (name : String) (f : Fragment) :
    CarriesOver Q (buildModel mode annotate name f) := by
  have hO := hQ.outward
  refine .bind hO (carriesOver_ofExcept hO _) fun required => ?_
  refine .bind hO (carriesOver_compileFields hO hA required [] f.properties) fun fields => ?_
  refine .get fun s => .bind hO (carriesOver_ofExcept hO _) fun fields' => ?_
  intro s id s' h
  obtain ⟨-, rfl⟩ := of_run_addType h
  exact hQ.quiet rfl rfl (by simp) fun id => Types.union?_append_model _ _ id

theorem carriesOver_compileNew (name : String) (f : Fragment) (outermost : Bool) :
    CarriesOver Q (compileNew mode annotate name f outermost) := by
  intro s handle s' h
  obtain ⟨id, b, hbuild, -, -, -, hend⟩ := of_run_compileNew h
  have hbegin : Q s ((s.begun outermost).mark f.location name) := by
    cases outermost <;> exact hQ.quiet rfl rfl (Nat.le_refl _) fun _ => rfl
  have hcompiled : Q b (b.compiled name id f) := hQ.quiet rfl rfl (Nat.le_refl _) fun _ => rfl
  refine hQ.trans hbegin (hQ.trans (hQ.carriesOver_buildModel hA name f _ _ _ hbuild)
    (hQ.trans hcompiled ?_))
  obtain ⟨_, _, hget, hend⟩ := exists_of_run_bind hend
  cases hget
  split at hend
  · exact hQ.carriesOver_settleAll _ _ _ _ hend
  · exact carriesOver_pure hQ.outward _ _ _ _ hend

theorem carriesOver_compile (name : String) (f : Fragment) :
    CarriesOver Q (compile mode annotate name f) := by
  unfold compile
  split
  · refine .get fun s => ?_
    split
    · exact carriesOver_pure hQ.outward _
    · exact hQ.carriesOver_compileNew hA name f _
  · exact carriesOver_throw _

omit hA

theorem carriesOver_annotateWithin (depth : Nat) (property : String) (f : Fragment) :
    CarriesOver Q (annotateWithin mode depth property f) := by
  induction depth generalizing property f with
  | zero => exact carriesOver_throw _
  | succ depth ih =>
    exact carriesOver_annotateOnce hQ.outward (hQ.carriesOver_compile ih) ih property f

/-- Generations that succeed carry the relation over. -/
theorem carriesOver_generate (base : String) (f : Fragment) :
    CarriesOver Q (generate mode base f) := by
  intro s id s' h
  have hrun := run_unionOf_of_generate h
  exact carriesOver_unionOf hQ.outward (hQ.carriesOver_compile
    (hQ.carriesOver_annotateWithin mode.depth)) base f s id s' hrun

end OfUnions

end ShapeSum
