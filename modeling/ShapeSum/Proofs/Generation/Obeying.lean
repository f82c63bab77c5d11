import ShapeSum.Proofs.Generation.Regime

/-!
# Computations under a regime

A computation obeys a regime when it leads from good states to good states that are
related as the regime says, fails only as the regime allows, and gives what is said
about it.  The functions of the generation obey every regime.  The recursion through
the types of properties is closed last: what is found within one depth more obeys the
regime if what is found within the depth does.
-/

namespace ShapeSum

variable {α β : Type} {mode : Mode} {view : String → Fetch}

namespace Regime

/-- From a good state a computation comes to a good one, which is related to it unless the
computation fails, and what it gives has a property of its own. -/
def Obeys (R : Regime mode view) (b : Bool) (x : Generating α) (s : Generation)
    (post : α → Generation → Prop) : Prop :=
  R.Good s → R.Good (x.run s).2 ∧
    (∀ a, (x.run s).1 = .ok a → R.After b s (x.run s).2 ∧ post a (x.run s).2) ∧
    ∀ e, (x.run s).1 = .error e → R.Err e

variable {R : Regime mode view} {b : Bool} {s : Generation} {x : Generating α}
  {post post' : α → Generation → Prop} {goal : β → Generation → Prop}

/-! ## Sequences -/

theorem obeys_of_run_ok {a : α} {s' : Generation} (hrun : x.run s = (.ok a, s'))
    (h : R.Good s → R.Good s' ∧ R.After b s s' ∧ post a s') : R.Obeys b x s post := by
  intro hs
  obtain ⟨hgood, hafter⟩ := h hs
  rw [hrun]
  refine ⟨hgood, fun a' ha => ?_, fun e he => ?_⟩
  · cases ha
    exact hafter
  · cases he

theorem obeys_of_run_error {e : Failure} {s' : Generation} (hrun : x.run s = (.error e, s'))
    (h : R.Good s → R.Good s') (he : R.Good s → R.Err e) : R.Obeys b x s post := by
  intro hs
  rw [hrun]
  refine ⟨h hs, fun a ha => ?_, fun e' he' => ?_⟩
  · cases ha
  · cases he'
    exact he hs

theorem obeys_pure {a : α} (h : R.Good s → post a s) : R.Obeys b (pure a) s post :=
  obeys_of_run_ok rfl fun hs => ⟨hs, R.after_refl b s, h hs⟩

theorem obeys_throw {e : Failure} (he : R.Err e) : R.Obeys b (throw e) s post :=
  obeys_of_run_error rfl id fun _ => he

theorem obeys_of_good (h : R.Good s → R.Obeys b x s post) : R.Obeys b x s post :=
  fun hs => h hs hs

theorem Obeys.imp (h : R.Obeys b x s post)
    (hp : ∀ a s', R.Good s' → R.After b s s' → post a s' → post' a s') : R.Obeys b x s post' := by
  intro hs
  obtain ⟨hgood, hok, herr⟩ := h hs
  exact ⟨hgood, fun a ha => ⟨(hok a ha).1, hp a _ hgood (hok a ha).1 (hok a ha).2⟩, herr⟩

/-- What obeys a regime strictly also does so loosely. -/
theorem Obeys.loosen (h : R.Obeys true x s post) :
    R.Obeys b x s (fun a s' => R.After true s s' ∧ post a s') := by
  intro hs
  obtain ⟨hgood, hok, herr⟩ := h hs
  exact ⟨hgood, fun a ha => ⟨R.after_of_strict (hok a ha).1, hok a ha⟩, herr⟩

theorem Obeys.bind {f : α → Generating β} (hx : R.Obeys b x s post)
    (hf : ∀ a s', R.Good s' → R.After b s s' → post a s' → R.Obeys b (f a) s' goal) :
    R.Obeys b (x >>= f) s goal := by
  intro hs
  obtain ⟨hgood, hok, herr⟩ := hx hs
  rcases hr : x.run s with ⟨e | a, s'⟩ <;> rw [hr] at hgood hok herr
  · exact obeys_of_run_error (by rw [run_bind, hr]) (fun _ => hgood) (fun _ => herr e rfl) hs
  · obtain ⟨hafter, hpost⟩ := hok a rfl
    obtain ⟨hgood', hok', herr'⟩ := hf a s' hgood hafter hpost hgood
    rw [run_bind_ok hr]
    exact ⟨hgood', fun c hc => ⟨R.after_trans hafter (hok' c hc).1, (hok' c hc).2⟩, herr'⟩

/-- What a computation reads first is the state that it starts from. -/
theorem Obeys.get {f : Generation → Generating α} (h : R.Good s → R.Obeys b (f s) s post) :
    R.Obeys b (get >>= f) s post := fun hs => h hs hs

/-! ## Elementary computations -/

theorem obeys_modify {g : Generation → Generation}
    (h : R.Good s → R.Good (g s) ∧ R.After true s (g s)) :
    R.Obeys b (modify g) s (fun _ s' => s' = g s) := by
  refine obeys_of_run_ok rfl fun hs => ?_
  obtain ⟨hgood, hafter⟩ := h hs
  exact ⟨hgood, R.after_of_strict hafter, rfl⟩

theorem obeys_aside {g : Generation → Generation} (h : Aside s (g s)) :
    R.Obeys b (modify g) s (fun _ s' => s' = g s) :=
  obeys_modify fun hs => R.aside hs h

theorem obeys_ofExcept {r : Except Failure α} (hr : Ordinary r) :
    R.Obeys b (Generating.ofExcept r) s (fun a s' => r = .ok a ∧ s' = s) := by
  cases r with
  | ok a => exact obeys_pure fun _ => ⟨rfl, rfl⟩
  | error e => exact obeys_throw (R.failure (hr e rfl).2)

theorem obeys_declaredNames : R.Obeys b Generating.declaredNames s (fun _ s' => s' = s) :=
  obeys_pure fun _ => rfl

theorem obeys_onStore {x : Resolving α} (hx : Transparent x)
    (herr : ∀ e, (x.run (Store.empty view)).1 = .error e → R.Err e) :
    R.Obeys b (Generating.onStore x) s (fun a _ => (x.run (Store.empty view)).1 = .ok a) := by
  intro hs
  have hresult : (x.run s.store).1 = (x.run (Store.empty view)).1 :=
    hx.agrees _ _ (R.view_eq hs)
  rw [Generating.run_onStore, hresult]
  have haside : Aside s { s with store := (x.run s.store).2 } :=
    ⟨hx.keeps s.store, rfl, rfl, rfl, rfl, rfl, id⟩
  obtain ⟨hgood, hafter⟩ := R.aside hs haside
  exact ⟨hgood, fun a ha => ⟨R.after_of_strict hafter, ha⟩, herr⟩

/-- A resolution ends where the references end. -/
theorem obeys_resolveChain {f : Fragment} (hf : R.Known f) :
    R.Obeys b (Generating.onStore (resolveChain f)) s
      (fun c _ => LeadsTo view f c.target) :=
  (obeys_onStore (transparent_resolveChain f) fun _ he => R.unresolved hf he).imp
    fun c _ _ _ hc => resolve_run_eq_ok_iff.2 ⟨c, hc, rfl⟩

theorem obeys_resolve {f : Fragment} (hf : R.Known f) :
    R.Obeys b (Generating.onStore (resolve f)) s (fun t _ => LeadsTo view f t) := by
  refine obeys_onStore (transparent_resolve f) fun e he => R.unresolved hf (e := e) ?_
  unfold resolve at he
  rw [run_bind] at he
  rcases hr : (resolveChain f).run (Store.empty view) with ⟨e' | c, s'⟩ <;> rw [hr] at he
  · cases he
    rfl
  · cases he

theorem obeys_report (e : Event) :
    R.Obeys b (Generating.report e) s (fun _ s' => s' = { s with log := s.log ++ [e] }) :=
  obeys_aside ⟨rfl, rfl, rfl, rfl, rfl, rfl, id⟩

theorem obeys_reserve (name : String) :
    R.Obeys b (Generating.reserve name) s (fun _ _ => True) := by
  have hrun := Generating.run_declare name .reserved none s
  split at hrun
  · exact obeys_of_run_error hrun id fun _ => R.failure rfl
  · refine obeys_of_run_ok hrun fun hs => ?_
    obtain ⟨hgood, hafter⟩ := R.reserve name hs
    exact ⟨hgood, R.after_of_strict hafter, trivial⟩

theorem obeys_declare {name : String} {id : TypeId} {f : Fragment} (hf : R.Known f)
    (hnew : R.New f) (hmade : R.Made s.types f id) :
    R.Obeys b (Generating.declare name (.model id) (some f)) s
      (fun _ s' => s'.types = s.types) := by
  have hrun := Generating.run_declare name (.model id) (some f) s
  split at hrun
  · exact obeys_of_run_error hrun (fun hs => hs) fun _ => R.failure rfl
  · refine obeys_of_run_ok hrun fun hs => ?_
    obtain ⟨hgood, hafter⟩ := R.declare name hs hf hnew hmade
    exact ⟨hgood, R.after_of_strict hafter, rfl⟩

/-- Back references are resolved only where there are any. -/
theorem obeys_settleAll (ids : List TypeId) (hback : s.backReference = true) :
    R.Obeys b (settleAll ids) s (fun _ _ => True) := by
  induction ids generalizing s with
  | nil => exact obeys_pure fun _ => trivial
  | cons id ids ih =>
    refine Obeys.get fun hs => ?_
    cases hm : s.types.model? id with
    | none => exact ih hback
    | some m =>
      dsimp only
      cases hsettle : m.settle s.names with
      | error e => exact obeys_throw (R.failure (ordinary_settle _ _ e hsettle).2)
      | ok m' =>
        obtain ⟨hgood, hafter⟩ := R.settle hs hback hm hsettle
        have hset : R.Obeys b (set { s with types := s.types.set id (.model m') }) s
            (fun _ s' => s' = { s with types := s.types.set id (.model m') }) :=
          obeys_of_run_ok rfl fun _ => ⟨hgood, R.after_of_strict hafter, rfl⟩
        refine hset.bind fun _ s' _ _ hs' => ih ?_
        rw [hs']
        exact hback

/-! ## Compilations -/

theorem after_loose (R : Regime mode view) {s s' : Generation} (h : R.After b s s') :
    R.After false s s' := by
  cases b with
  | false => exact h
  | true => exact R.after_of_strict h

theorem suited_after {s s' : Generation} {f : Fragment} {r : FieldType × Bool}
    (hafter : R.After b s s') (h : Suited view (R.Fit s.types) f r) :
    Suited view (R.Fit s'.types) f r :=
  h.imp fun _ hr => R.fit_after (R.after_loose hafter) hr

section Depth

variable {annotate : Annotate} {d : Nat}
  (hA : ∀ p f s, R.Known f → R.May d s f →
    R.Obeys true (annotate p f) s (fun r s' => Suited view (R.Fit s'.types) f r))

include hA

/-- The fields are made for the properties one by one, in a row with the fields before. -/
theorem obeys_compileFields (required : List String) (done : List Field)
    (properties : List (String × Fragment))
    (hp : ∀ p ∈ properties, R.Known p.2 ∧ R.May d s p.2) :
    R.Obeys true (compileFields annotate required done properties) s
      (fun fields s' => ∃ new, fields = done ++ new ∧
        List.Forall₂ (FieldFor (Suited view (R.Fit s'.types)) required) properties new ∧
        new.map Field.outline = outlinesOf required (done.map Field.name) properties) := by
  induction properties generalizing done s with
  | nil => exact obeys_pure fun _ => ⟨[], (List.append_nil _).symm, .nil, rfl⟩
  | cons p rest ih =>
    obtain ⟨property, f⟩ := p
    obtain ⟨⟨hknown, hmay⟩, hrest⟩ := List.forall_mem_cons.1 hp
    refine (hA property f s hknown hmay).bind fun r s₁ _ hafter₁ hfit => ?_
    obtain ⟨type, isBack⟩ := r
    -- The new field is the next one of the row, from whatever state the others are made.
    have hnext (s₂ : Generation) (hafter₂ : R.After true s₁ s₂) (field : Field)
        (hfield : FieldFor (Suited view (R.Fit s₁.types)) required (property, f) field)
        (hname : field.name = attributeName property (done.map Field.name)) :
        R.Obeys true (compileFields annotate required (done ++ [field]) rest) s₂
          (fun fields s' => ∃ new, fields = done ++ new ∧
            List.Forall₂ (FieldFor (Suited view (R.Fit s'.types)) required)
              ((property, f) :: rest) new ∧
            new.map Field.outline =
              outlinesOf required (done.map Field.name) ((property, f) :: rest)) := by
      have hafter := R.after_trans hafter₁ hafter₂
      refine (ih (done ++ [field]) fun p hp => ⟨(hrest p hp).1,
        R.may_after (hrest p hp).1 (hrest p hp).2 hafter⟩).imp fun fields s₃ _ hafter₃ h => ?_
      obtain ⟨new, rfl, hnew, ho⟩ := h
      refine ⟨field :: new, by rw [List.append_assoc]; rfl, .cons ?_ hnew, ?_⟩
      · exact hfield.imp fun g r hr => suited_after (R.after_trans hafter₂ hafter₃) hr
      · rw [List.map_append, List.map_singleton, hname] at ho
        rw [List.map_cons, ho, outlinesOf, Field.outline, hname, hfield.property, hfield.required]
    cases isBack with
    | false => exact hnext s₁ (R.after_refl _ _) _ ⟨rfl, rfl, type, false, hfit, rfl⟩ rfl
    | true =>
      refine Obeys.bind (obeys_modify fun hs => R.refer hs hknown hfit) fun _ s₂ _ hafter₂ _ => ?_
      exact hnext s₂ hafter₂ _ ⟨rfl, rfl, type, true, hfit, rfl⟩ rfl

theorem obeys_buildModel (name : String) {f : Fragment} (hf : R.Known f)
    (hobject : f.isObject = true) (hmay : ∀ p ∈ f.properties, R.May d s p.2) :
    R.Obeys true (buildModel mode annotate name f) s (fun id s' => R.Made s'.types f id) := by
  refine (obeys_ofExcept (ordinary_requiredNames f)).bind fun required s₁ _ _ hr => ?_
  obtain ⟨hr, rfl⟩ := hr
  have hparts : ∀ p ∈ f.properties, R.Known p.2 ∧ R.May d s₁ p.2 := fun p hp =>
    ⟨R.known_part hf (.property hp), hmay p hp⟩
  refine (obeys_compileFields hA required [] f.properties hparts).bind fun fields s₂ _ _ h => ?_
  obtain ⟨new, rfl, hnew, ho⟩ := h
  refine Obeys.get fun hs => ?_
  refine (obeys_ofExcept (ordinary_finishFields _ _ _)).bind fun fields' s₃ _ _ h => ?_
  obtain ⟨hfinish, rfl⟩ := h
  refine obeys_of_run_ok rfl fun _ => ?_
  exact R.model hs hf hobject hr hnew ho hfinish

omit hA in
/-- The mark of a fragment is set for the time of its compilation. -/
theorem obeys_whilePending {x : Generating TypeId} {f : Fragment} {name : String}
    (hf : R.Known f) (hmay : R.MayCompile d s f)
    (hmark : b = true → Entries.has s.pending f.location = false)
    (hx : R.Obeys true x (s.mark f.location name) (fun id s' => R.Made s'.types f id)) :
    R.Obeys b (whilePending f.location name x) s (fun id s' => R.Made s'.types f id) := by
  refine obeys_of_good fun hs => ?_
  obtain ⟨hgood, hok, herr⟩ := hx (R.mark f.location name hs)
  have hrun := run_whilePending f.location name x s
  rcases hr : x.run (s.mark f.location name) with ⟨r, s'⟩
  rw [hr] at hgood hok herr hrun
  dsimp only at hrun
  split at hrun
  · cases r with
    | error e => exact obeys_of_run_error hrun (fun _ => R.unmark _ hgood) fun _ => herr e rfl
    | ok id =>
      obtain ⟨hafter, hmade⟩ := hok id rfl
      exact obeys_of_run_ok hrun fun _ =>
        ⟨R.unmark _ hgood, R.unmark_after hf hmay hmark hafter, hmade⟩
  · exact obeys_of_run_error hrun (fun _ => hgood) fun _ => R.failure rfl

theorem obeys_compileNew (name : String) {f : Fragment} (hf : R.Known f) (hnew : R.New f)
    (hobject : f.isObject = true) (hmay : R.MayCompile d s f)
    (hmark : b = true → Entries.has s.pending f.location = false)
    (outermost : Bool) :
    R.Obeys b (compileNew mode annotate name f outermost) s
      (fun h s' => ∃ id, h = .model id ∧ R.Made s'.types f id) := by
  have hbegin : R.Obeys true (beginSession outermost) s (fun _ s' => s'.pending = s.pending) := by
    refine (obeys_aside ?_).imp fun _ s' _ _ h => ?_
    · cases outermost
      · exact ⟨rfl, rfl, rfl, rfl, rfl, rfl, id⟩
      · exact ⟨rfl, rfl, rfl, rfl, rfl, rfl, nofun⟩
    · rw [h]
      cases outermost <;> rfl
  have hend (s : Generation) : R.Obeys b (endSession outermost) s (fun _ _ => True) := by
    refine Obeys.get fun _ => ?_
    split
    · rename_i hback
      exact obeys_settleAll _ (Bool.and_eq_true_iff.1 hback).2
    · exact obeys_pure fun _ => trivial
  refine hbegin.loosen.bind fun _ s₁ _ _ h => ?_
  obtain ⟨hafter, hpending⟩ := h
  have hmay₁ := R.mayCompile_after hmay hafter
  have hbody : R.Obeys true (buildModel mode annotate name f) (s₁.mark f.location name)
      (fun id s' => R.Made s'.types f id) :=
    obeys_buildModel hA name hf hobject fun p hp => R.may_property hmay₁ hf hobject hp
  refine (obeys_whilePending hf hmay₁ (fun hb => hpending ▸ hmark hb) hbody).bind
    fun id s₂ _ _ hmade => ?_
  refine (obeys_declare hf hnew hmade).bind fun _ s₃ _ _ h₃ => ?_
  refine (obeys_aside (g := fun st => { st with session := st.session ++ [id] })
    ⟨rfl, rfl, rfl, rfl, rfl, rfl, fun h => h⟩).bind fun _ s₄ _ _ h₄ => ?_
  refine (obeys_report _).bind fun _ s₅ _ _ h₅ => ?_
  refine (hend s₅).bind fun _ s₆ _ hafter₆ _ => obeys_pure fun _ => ⟨id, rfl, ?_⟩
  have htypes : s₅.types = s₂.types := by rw [h₅, h₄, ← h₃]
  rw [← htypes] at hmade
  exact R.made_after (R.after_loose hafter₆) hmade

/-- A compilation gives a type for the fragment, whether it was compiled before or is compiled
now. -/
theorem obeys_compile (name : String) {f : Fragment} (hf : R.Known f)
    (hmay : R.MayCompile d s f) (hmark : b = true → Entries.has s.pending f.location = false) :
    R.Obeys b (compile mode annotate name f) s
      (fun h s' => h ≠ .reserved ∧ R.Fit s'.types f (h.fieldType, false)) := by
  unfold compile
  split
  · rename_i hobject
    refine Obeys.get fun hs => ?_
    cases ht : s.names.typeOf? f with
    | some h =>
      refine obeys_pure fun _ => ⟨?_, R.cached hs hf ht⟩
      rintro rfl
      unfold Namespace.typeOf? at ht
      split at ht
      · cases ht
      · rename_i hne _
        split at ht <;> cases ht
        exact hne rfl
      · cases ht
    | none =>
      have hnew := R.new hs hf ht
      refine (obeys_compileNew hA name hf hnew hobject hmay hmark _).imp fun h s' _ _ hp => ?_
      obtain ⟨id, rfl, hmade⟩ := hp
      exact ⟨nofun, R.fit_made hmade⟩
  · exact obeys_throw (R.failure rfl)

/-! ## Unions -/

omit hA in
/-- The fragment that a branch stands for is where its references end. -/
theorem obeys_branchTarget {branch : Fragment} (hb : R.Known branch) :
    R.Obeys b (branchTarget branch) s
      (fun t _ => LeadsTo view branch t ∧ t.isObject = true) := by
  have hcheck (t : Fragment) (s : Generation) (h : LeadsTo view branch t) :
      R.Obeys b (if t.isObject then return t
        else throw (.generation (.nonObject t.location t.content)) : Generating Fragment) s
        (fun t _ => LeadsTo view branch t ∧ t.isObject = true) := by
    split
    · rename_i ho
      exact obeys_pure fun _ => ⟨h, ho⟩
    · exact obeys_throw (R.failure rfl)
  unfold branchTarget
  by_cases hr : branch.ref.isSome = true
  · simp only [hr, if_true]
    exact (obeys_resolve hb).bind fun t s' _ _ h => hcheck t s' h
  · simp only [hr]
    have hself : R.Obeys b (pure branch) s (fun t _ => t = branch) := obeys_pure fun _ => rfl
    refine hself.bind fun t s' _ _ h => hcheck t s' ?_
    rw [h]
    exact leadsTo_self (Option.not_isSome_iff_eq_none.1 hr) view

omit hA in
theorem obeys_nameBranch (base : String) (branch : Fragment) :
    R.Obeys true (nameBranch mode base branch) s (fun _ _ => True) := by
  unfold nameBranch
  cases branch.ref with
  | some ref =>
    refine obeys_declaredNames.bind fun declared s' _ _ _ => ?_
    exact (obeys_ofExcept (ordinary_uri _)).imp fun _ _ _ _ _ => trivial
  | none =>
    refine Obeys.bind (obeys_aside ⟨rfl, rfl, rfl, rfl, rfl, rfl, fun h => h⟩)
      fun _ s' _ _ _ => ?_
    exact Obeys.get fun _ => obeys_pure fun _ => trivial

/-- The type of a branch is one for the fragment that it stands for. -/
theorem obeys_branchType (base : String) (branch : Fragment) {t : Fragment} (ht : R.Known t)
    (hmay : R.MayCompile d s t) :
    R.Obeys false (branchType mode annotate base branch t) s
      (fun r s' => R.Fit s'.types t (r.2.fieldType, false)) := by
  refine Obeys.get fun hs => ?_
  rcases hc : s.names.typeOf? t with _ | (_ | id | id | text)
  · refine (obeys_nameBranch base branch).loosen.bind fun name s' _ _ h => ?_
    have hmay' := R.mayCompile_after hmay h.1
    have hcompile : R.Obeys false (compile mode annotate name t) s'
        (fun h s' => h ≠ .reserved ∧ R.Fit s'.types t (h.fieldType, false)) :=
      obeys_compile hA name ht hmay' nofun
    exact hcompile.bind fun h s₂ _ _ hfit => obeys_pure fun _ => hfit.2
  · exact obeys_throw (R.failure rfl)
  · exact obeys_pure fun _ => R.cached hs ht hc
  · exact obeys_pure fun _ => R.cached hs ht hc
  · exact obeys_throw (R.failure rfl)

omit hA in
/-- A variant has the model that its type is. -/
theorem handle_of_variant {types : Types} {typeName source : String} {handle : Handle}
    {v : Variant} (h : types.variant mode typeName source handle = .ok v) :
    handle = .model v.type := by
  cases handle with
  | model id =>
    unfold Types.variant at h
    dsimp only at h
    cases hm : types.model? id with
    | none =>
      rw [hm] at h
      cases h
    | some m =>
      rw [hm] at h
      cases hd : m.descriptor typeName (some source) mode.config.emptyTag with
      | error e =>
        simp only [hd, Except.map] at h
        cases h
      | ok desc =>
        simp only [hd, Except.map] at h
        cases h
        rfl
  | _ => cases h

/-- The variant for a branch is made for it. -/
theorem obeys_compileVariant (base : String) {f branch : Fragment} (hf : R.Known f)
    (hmay : R.MayBranch d s f) (hb : branch ∈ f.branches) :
    R.Obeys false (compileVariant mode annotate base branch) s
      (fun v s' => VariantFor view (R.Fit s'.types) branch v) := by
  have hknown := R.known_part hf (.branch hb)
  refine (obeys_branchTarget hknown).bind fun t s₁ _ hafter h => ?_
  obtain ⟨hlead, hobject⟩ := h
  have hcompile := R.may_branch (R.mayBranch_after hmay hafter) hf hb hlead
  refine (obeys_branchType hA base branch (R.known_leads hknown hlead) hcompile).bind
    fun r s₂ _ _ hfit => ?_
  obtain ⟨typeName, handle⟩ := r
  refine (obeys_report _).bind fun _ s₃ _ _ h₃ => ?_
  refine Obeys.get fun _ => ?_
  refine (obeys_ofExcept (ordinary_variant _ _ _ _ _)).imp fun v s₄ _ _ h => ?_
  obtain ⟨hv, rfl⟩ := h
  refine ⟨t, hlead, hobject, ?_⟩
  rw [handle_of_variant hv] at hfit
  rw [h₃]
  exact hfit

/-- The variants are made for the branches, one for each and in order. -/
theorem obeys_compileVariants (base : String) {f : Fragment} (hf : R.Known f)
    (hmay : R.MayBranch d s f) {branches : List Fragment} (hb : ∀ b ∈ branches, b ∈ f.branches) :
    R.Obeys false (compileVariants mode annotate base branches) s
      (fun vs s' => List.Forall₂ (VariantFor view (R.Fit s'.types)) branches vs) := by
  induction branches generalizing s with
  | nil => exact obeys_pure fun _ => .nil
  | cons b bs ih =>
    obtain ⟨hb, hbs⟩ := List.forall_mem_cons.1 hb
    refine (obeys_compileVariant hA base hf hmay hb).bind fun v s₁ _ hafter₁ hv => ?_
    refine (ih (R.mayBranch_after hmay hafter₁) hbs).bind fun vs s₂ _ hafter₂ hvs => ?_
    refine obeys_pure fun _ => .cons ?_ hvs
    obtain ⟨t, hlead, hobject, hfit⟩ := hv
    exact ⟨t, hlead, hobject, R.fit_after hafter₂ hfit⟩

theorem obeys_draftUnion (base : String) {f : Fragment} (hf : R.Known f)
    (honeOf : f.hasOneOf = true) (hmay : R.MayBranch d s f) :
    R.Obeys false (draftUnion mode annotate base f) s
      (fun r s' => R.Fit s'.types f (.union r.2, false)) := by
  refine obeys_declaredNames.bind fun declared s₁ _ hafter₁ _ => ?_
  refine (obeys_reserve _).bind fun _ s₂ _ hafter₂ _ => ?_
  refine (obeys_report _).bind fun _ s₃ _ hafter₃ _ => ?_
  have hmay₃ := R.mayBranch_after hmay (R.after_trans hafter₁ (R.after_trans hafter₂ hafter₃))
  refine (obeys_compileVariants hA base hf hmay₃ fun _ h => h).bind fun variants s₄ _ _ hv => ?_
  refine (obeys_ofExcept (ordinary_assembleUnion _ _ _ _)).bind fun u s₅ _ _ hu => ?_
  obtain ⟨hu, rfl⟩ := hu
  have hvariants : u.variants = variants := by rw [eq_of_assembleUnion hu]
  subst hvariants
  have hadd : R.Obeys false (Generating.addType (.union u)) s₅
      (fun id s' => R.Fit s'.types f (.union id, false)) := by
    refine obeys_of_run_ok rfl fun hs => ?_
    obtain ⟨hgood, hafter, hfit⟩ := R.union hs hf honeOf hv hu
    exact ⟨hgood, R.after_of_strict hafter, hfit⟩
  exact hadd.bind fun id s₆ _ _ hfit => obeys_pure fun _ => hfit

/-- A union is built with its fragment marked as being generated. -/
theorem obeys_buildUnion (base : String) {f : Fragment} (hf : R.Known f) (hnew : R.New f)
    (honeOf : f.hasOneOf = true) (hmay : R.MayBranch d (s.enter f.location) f)
    (hunions : Entries.get? s.unions f.location = none) (hprogress : f.location ∉ s.inProgress) :
    R.Obeys true (buildUnion mode annotate base f) s
      (fun id s' => R.Fit s'.types f (.union id, false)) := by
  refine obeys_of_good fun hs => ?_
  obtain ⟨hgood, hok, herr⟩ := obeys_draftUnion hA base hf honeOf hmay (R.enter f.location hs)
  have hrun := run_buildUnion mode annotate base f s
  rcases hr : (draftUnion mode annotate base f).run (s.enter f.location) with
    ⟨e | ⟨name, id⟩, s'⟩ <;> rw [hr] at hgood hok herr hrun <;> dsimp only at hrun
  · exact obeys_of_run_error hrun (fun _ => hgood) (fun _ => herr e rfl)
  · obtain ⟨hafter, hfit⟩ := hok _ rfl
    split at hrun
    · refine obeys_of_run_ok hrun fun _ => ?_
      obtain ⟨hgood', hafter'⟩ : R.Good (s'.leave name id f) ∧
          R.After true s (s'.leave name id f) :=
        R.leave hgood hf hnew honeOf hmay hfit hunions hprogress hafter
      exact ⟨hgood', hafter', hfit⟩
    · exact obeys_of_run_error hrun (fun _ => hgood) fun _ => R.failure rfl

omit hA in
theorem hasOneOf_of_branches {f : Fragment} (h : f.branches.isEmpty = false) :
    f.hasOneOf = true := by
  unfold Fragment.branches at h
  unfold Fragment.hasOneOf
  split at h
  · rename_i hget
    rw [hget]
    rfl
  · cases h

/-- A union that is found fits if the fragment has branches.  One that was kept may be that of
another fragment at its location. -/
theorem obeys_unionAtTarget (base : String) {f : Fragment} (hf : R.Known f) (hnew : R.New f)
    (hrecursive : f.location ∈ s.inProgress → R.Err (.generation (.recursiveUnion f.location)))
    (hmay : Entries.get? s.unions f.location = none → f.location ∉ s.inProgress →
      R.MayBranch d (s.enter f.location) f) :
    R.Obeys true (unionAtTarget mode annotate base f) s
      (fun id s' => f.hasOneOf = true → R.Fit s'.types f (.union id, false)) := by
  refine Obeys.get fun hs => ?_
  cases hk : Entries.get? s.unions f.location with
  | some id => exact obeys_pure fun _ honeOf => R.kept hs hf honeOf hk
  | none =>
    dsimp only
    split
    · rename_i hprogress
      exact obeys_throw (hrecursive (List.contains_iff_mem.1 hprogress))
    · rename_i hprogress
      have hfree : f.location ∉ s.inProgress := by
        rwa [Bool.not_eq_true, List.contains_eq_mem, decide_eq_false_iff_not] at hprogress
      split
      · exact obeys_throw (R.failure rfl)
      · rename_i hbranches
        have honeOf := hasOneOf_of_branches (Bool.eq_false_iff.2 hbranches)
        exact (obeys_buildUnion hA base hf hnew honeOf (hmay hk hfree) hk hfree).imp
          fun _ _ _ _ hfit _ => hfit

/-- A union is that of the fragment where the references end. -/
theorem obeys_unionOf (base : String) {f : Fragment} (hf : R.Known f)
    (hnew : ∀ t, LeadsTo view f t → R.New t)
    (hrecursive : ∀ t s', LeadsTo view f t → R.After true s s' → t.location ∈ s'.inProgress →
      R.Err (.generation (.recursiveUnion t.location)))
    (hmay : ∀ t s', LeadsTo view f t → R.After true s s' →
      Entries.get? s'.unions t.location = none → t.location ∉ s'.inProgress →
      R.MayBranch d (s'.enter t.location) t) :
    R.Obeys true (unionOf mode annotate base f) s
      (fun id s' => ∃ t, LeadsTo view f t ∧
        (t.hasOneOf = true → R.Fit s'.types t (.union id, false))) := by
  refine (obeys_resolve hf).bind fun t s₁ _ hafter hlead => ?_
  exact (obeys_unionAtTarget hA base (R.known_leads hf hlead) (hnew t hlead)
    (hrecursive t s₁ hlead hafter) (hmay t s₁ hlead hafter)).imp fun id _ _ _ hfit => ⟨t, hlead, hfit⟩

/-! ## The types of properties -/

variable {f t : Fragment}

theorem obeys_itemType (property : String) (hf : R.Known f) (hlead : LeadsTo view f t)
    (ht : t.IsTyped) (harray : "array" ∈ t.types) (hmay : R.May (d + 1) s f) :
    R.Obeys true (itemType annotate property t) s
      (fun r s' => ItemFor (Suited view (R.Fit s'.types)) t r) := by
  unfold itemType ItemFor
  cases hget : t.get? "items" with
  | none => exact obeys_pure fun _ => rfl
  | some j =>
    cases j with
    | obj ms =>
      exact hA property _ s (R.known_part (R.known_leads hf hlead) (.items hget))
        (R.may_item hmay hf hlead ht harray hget)
    | _ => exact obeys_pure fun _ => rfl

theorem obeys_objectType (property : String) (reference : Option String) (hf : R.Known f)
    (hlead : LeadsTo view f t) (ht : t.IsTyped) (hobject : "object" ∈ t.declared)
    (hmay : R.May (d + 1) s f) (hfree : Entries.has s.pending t.location = false) :
    R.Obeys true (objectType mode annotate property reference t) s
      (fun r s' => R.FitAs s'.types t "object" r) := by
  unfold objectType
  split
  · rename_i hempty
    exact obeys_pure fun _ => R.fitAs_object ht hobject hempty
  · refine (obeys_ofExcept (ordinary_nestedName _ _)).bind fun raw s₁ _ _ h => ?_
    obtain ⟨-, rfl⟩ := h
    refine obeys_declaredNames.bind fun declared s₂ _ _ h => ?_
    subst h
    refine (obeys_compile hA _ (R.known_leads hf hlead) (R.may_object hmay hf hlead ht hfree)
      fun _ => hfree).bind fun handle s₃ _ _ h => obeys_pure fun _ => ?_
    exact R.fitAs_handle ht hobject h.1 h.2

omit hA in
theorem typeFor_eq_plainType (mode : Mode) (annotate : Annotate) (property : String)
    (reference : Option String) (t : Fragment) {jsonType : String} (hobject : jsonType ≠ "object")
    (harray : jsonType ≠ "array") : typeFor mode annotate property reference t jsonType =
      pure (plainType jsonType, false) := by
  unfold typeFor plainType
  split <;> simp_all

theorem obeys_typeFor (property : String) (reference : Option String) (hf : R.Known f)
    (hlead : LeadsTo view f t) (ht : t.IsTyped) {jsonType : String} (hj : jsonType ∈ t.declared)
    (hmay : R.May (d + 1) s f) (hfree : Entries.has s.pending t.location = false) :
    R.Obeys true (typeFor mode annotate property reference t jsonType) s
      (fun r s' => R.FitAs s'.types t jsonType r) := by
  by_cases hobject : jsonType = "object"
  · subst hobject
    exact obeys_objectType hA property reference hf hlead ht hj hmay hfree
  by_cases harray : jsonType = "array"
  · subst harray
    have htypes : "array" ∈ t.types := by
      unfold Fragment.declared at hj
      split at hj
      · split at hj
        · simp at hj
        · cases hj
      · exact hj
    refine (obeys_itemType hA property hf hlead ht htypes hmay).bind fun r s₁ _ _ hitem => ?_
    exact obeys_pure fun _ => R.fitAs_array ht hj hitem
  · rw [typeFor_eq_plainType mode annotate property reference t hobject harray]
    exact obeys_pure fun _ => R.fitAs_plain ht hj hobject harray

/-- Every JSON type in a row has a type of its own. -/
theorem obeys_typesFor (property : String) (reference : Option String) (hf : R.Known f)
    (hlead : LeadsTo view f t) (ht : t.IsTyped) {jsonTypes : List String}
    (hj : ∀ j ∈ jsonTypes, j ∈ t.declared) (hmay : R.May (d + 1) s f)
    (hfree : Entries.has s.pending t.location = false) :
    R.Obeys true (typesFor mode annotate property reference t jsonTypes) s
      (fun r s' => ∃ rs : List (FieldType × Bool),
        List.Forall₂ (R.FitAs s'.types t) jsonTypes rs ∧
        r = (rs.map Prod.fst, rs.any Prod.snd)) := by
  induction jsonTypes generalizing s with
  | nil => exact obeys_pure fun _ => ⟨[], .nil, rfl⟩
  | cons j js ih =>
    obtain ⟨hj, hjs⟩ := List.forall_mem_cons.1 hj
    refine (obeys_typeFor hA property reference hf hlead ht hj hmay hfree).bind
      fun r s₁ _ hafter₁ hr => ?_
    refine (ih hjs (R.may_after hf hmay hafter₁) (R.pending_after hafter₁ hfree)).bind
      fun r' s₂ _ hafter₂ h => obeys_pure fun _ => ?_
    obtain ⟨rs, hrs, rfl⟩ := h
    exact ⟨r :: rs, .cons (R.fitAs_after (R.after_loose hafter₂) hr) hrs, rfl⟩

omit hA in
/-- A fragment that takes everything declares no JSON type. -/
theorem declared_eq_nil (h : (t.types.isEmpty && !t.isObject) = true) : t.declared = [] := by
  obtain ⟨hempty, hobject⟩ := Bool.and_eq_true_iff.1 h
  rw [Fragment.declared, if_pos hempty, if_neg (by simpa using hobject)]

omit hA in
/-- Any other fragment declares the JSON types that it is typed by. -/
theorem declared_of_typed (h : ¬(t.types.isEmpty && !t.isObject) = true) :
    (if t.types.isEmpty then ["object"] else t.types) = t.declared ∧ t.declared ≠ [] := by
  unfold Fragment.declared
  by_cases hempty : t.types.isEmpty = true
  · have hobject : t.isObject = true := by simpa [hempty] using h
    rw [if_pos hempty, if_pos hempty, if_pos hobject]
    exact ⟨rfl, List.cons_ne_nil _ _⟩
  · rw [if_neg hempty, if_neg hempty]
    exact ⟨rfl, fun h => hempty (List.isEmpty_iff.2 h)⟩

theorem obeys_typeByJsonTypes (property : String) (reference : Option String) (hf : R.Known f)
    (hlead : LeadsTo view f t) (ht : t.IsTyped) (hmay : R.May (d + 1) s f)
    (hfree : Entries.has s.pending t.location = false) :
    R.Obeys true (typeByJsonTypes mode annotate property reference t) s
      (fun r s' => R.Fit s'.types t r) := by
  unfold typeByJsonTypes
  by_cases hnone : (t.types.isEmpty && !t.isObject) = true
  · rw [if_pos hnone]
    exact obeys_pure fun _ => R.fit_untyped ht (declared_eq_nil hnone)
  · obtain ⟨hdeclared, hne⟩ := declared_of_typed hnone
    rw [if_neg hnone, hdeclared]
    refine (obeys_typesFor hA property reference hf hlead ht (fun _ h => h) hmay hfree).bind
      fun r s₁ _ _ h => obeys_pure fun _ => ?_
    obtain ⟨rs, hrs, rfl⟩ := h
    exact R.fit_options (R.known_leads hf hlead) ht hne hrs

theorem obeys_newType (property : String) (reference : Option String) (hf : R.Known f)
    (hlead : LeadsTo view f t) (hnew : R.New t) (hmay : R.May (d + 1) s f)
    (hfree : Entries.has s.pending t.location = false) :
    R.Obeys true (newType mode annotate property reference t) s
      (fun r s' => R.Fit s'.types t r) := by
  unfold newType
  split
  · rename_i honeOf
    split
    · have hunion : R.Obeys true (unionOf mode annotate property t) s
          (fun id s' => ∃ t', LeadsTo view t t' ∧
            (t'.hasOneOf = true → R.Fit s'.types t' (.union id, false))) := by
        refine obeys_unionOf hA property (R.known_leads hf hlead) (fun t' hlead' => ?_)
          (fun t' s' hlead' hafter => ?_) fun t' s' hlead' hafter => ?_ <;>
          cases hlead'.unique (leadsTo_self hlead.hops.2 view)
        · exact hnew
        · exact R.recursive (R.may_after hf hmay hafter) hf hlead honeOf
        · exact R.may_union (R.may_after hf hmay hafter) hf hlead honeOf
      refine hunion.bind fun id s' _ _ h => obeys_pure fun _ => ?_
      obtain ⟨t', hlead', hfit⟩ := h
      cases hlead'.unique (leadsTo_self hlead.hops.2 view)
      exact hfit honeOf
    · rename_i hnested
      exact obeys_pure fun _ => R.fit_anyBranch honeOf (Bool.eq_false_iff.2 hnested)
  · rename_i honeOf
    have honeOf := Bool.eq_false_iff.2 honeOf
    cases hl : literals? t with
    | some values => exact obeys_pure fun _ => R.fit_literal honeOf hl
    | none => exact obeys_typeByJsonTypes hA property reference hf hlead ⟨honeOf, hl⟩ hmay hfree

/-- The type that is found for a fragment suits it. -/
theorem obeys_annotateOnce (property : String) (hf : R.Known f) (hmay : R.May (d + 1) s f) :
    R.Obeys true (annotateOnce mode annotate property f) s
      (fun r s' => Suited view (R.Fit s'.types) f r) := by
  refine (obeys_resolveChain hf).bind fun chain s₁ _ hafter hlead => ?_
  have hmay₁ := R.may_after hf hmay hafter
  have ht := R.known_leads hf hlead
  refine Obeys.get fun hs => ?_
  cases hp : Entries.get? s₁.pending chain.target.location with
  | some name => exact obeys_pure fun _ => ⟨_, hlead, R.back hs hmay₁ hf hlead hp⟩
  | none =>
    dsimp only
    cases hc : s₁.names.typeOf? chain.target with
    | some handle => exact obeys_pure fun _ => ⟨_, hlead, R.cached hs ht hc⟩
    | none =>
      have hfree : Entries.has s₁.pending chain.target.location = false := by
        rw [Entries.has, hp]
        rfl
      have hnew := R.new hs ht hc
      exact (obeys_newType hA property _ hf hlead hnew hmay₁ hfree).imp fun r _ _ _ hfit =>
        ⟨_, hlead, hfit⟩

end Depth

/-! ## The recursion -/

/-- The types of properties are found under every regime, within every depth. -/
theorem obeys_annotateWithin (R : Regime mode view) (d : Nat) (property : String) (f : Fragment)
    (s : Generation) (hf : R.Known f) (hmay : R.May d s f) :
    R.Obeys true (annotateWithin mode d property f) s
      (fun r s' => Suited view (R.Fit s'.types) f r) := by
  induction d generalizing property f s with
  | zero => exact obeys_throw (R.tooDeep hmay)
  | succ d ih => exact obeys_annotateOnce ih property hf hmay

/-- A whole compilation gives a type for the fragment. -/
theorem obeys_compileModel (R : Regime mode view) (name : String) {f : Fragment} (hf : R.Known f)
    (hmay : R.MayCompile mode.depth s f) :
    R.Obeys false (compileModel mode name f) s
      (fun h s' => h ≠ .reserved ∧ R.Fit s'.types f (h.fieldType, false)) :=
  obeys_compile (R.obeys_annotateWithin mode.depth) name hf hmay nofun

/-- A whole compilation of a fragment that has no type yet makes a model of it. -/
theorem obeys_compileModel_new (R : Regime mode view) (name : String) {f : Fragment}
    (hf : R.Known f) (hmay : R.MayCompile mode.depth s f) (hfree : s.names.typeOf? f = none) :
    R.Obeys false (compileModel mode name f) s
      (fun h s' => ∃ id, h = .model id ∧ R.Made s'.types f id) := by
  unfold compileModel compile
  split
  · rename_i hobject
    refine Obeys.get fun hs => ?_
    rw [hfree]
    have hnone : false = true → Entries.has s.pending f.location = false := nofun
    exact obeys_compileNew (R.obeys_annotateWithin mode.depth) name hf (R.new hs hf hfree) hobject
      hmay hnone s.pending.isEmpty
  · exact obeys_throw (R.failure rfl)

/-- A whole generation, before it is rolled back. -/
theorem obeys_generation (R : Regime mode view) (base : String) {f : Fragment} (hf : R.Known f)
    (hnew : ∀ t, LeadsTo view f t → R.New t)
    (hrecursive : ∀ t s', LeadsTo view f t → R.After true s s' → t.location ∈ s'.inProgress →
      R.Err (.generation (.recursiveUnion t.location)))
    (hmay : ∀ t s', LeadsTo view f t → R.After true s s' →
      Entries.get? s'.unions t.location = none → t.location ∉ s'.inProgress →
      R.MayBranch mode.depth (s'.enter t.location) t) :
    R.Obeys true (unionOf mode (annotate mode) base f) s
      (fun id s' => ∃ t, LeadsTo view f t ∧
        (t.hasOneOf = true → R.Fit s'.types t (.union id, false))) :=
  obeys_unionOf (R.obeys_annotateWithin mode.depth) base hf hnew hrecursive hmay

end Regime

end ShapeSum
