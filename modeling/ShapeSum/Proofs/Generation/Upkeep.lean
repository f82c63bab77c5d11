import Mathlib.Data.List.Forall2
import ShapeSum.Proofs.Generation.Session
import ShapeSum.Proofs.Types.Outline

/-!
# What generation keeps up

A property of states is kept up by generation when the elementary steps keep it: a
model is added that depicts its fragment, a name is declared for such a model, back
references are resolved, and a union is added whose variants were drawn one by one
from the branches.  `Upkeep` lists these steps with all that is known when they are
taken.  Models keep their outlines and unions stay throughout.  What a computation
gives is described along the way: a compilation gives the type that the names then
remember for the fragment, and a generation the union that was kept before or one made
of the branches as they are now.
-/

namespace ShapeSum

variable {α β : Type}

/-! ## What is remembered and what is drawn -/

/-- A handle is remembered for a fragment: it was put down at its location, for this content or for
an equal one. -/
def Namespace.Remembers (n : Namespace) (f : Fragment) (h : Handle) : Prop :=
  ∃ content, Entries.get? n.compiled f.location = some (content, h) ∧
    (content = f.content ∨ content.sameContent f.content = true)

/-- The type that was compiled from a fragment is remembered for it. -/
theorem Namespace.remembers_of_typeOf? {n : Namespace} {f : Fragment} {h : Handle}
    (ht : n.typeOf? f = some h) : n.Remembers f h := by
  unfold typeOf? at ht
  split at ht
  · cases ht
  · rename_i content handle _ hget
    split at ht
    · rename_i hc
      cases ht
      exact ⟨content, hget, .inr hc⟩
    · cases ht
  · cases ht

/-- A type is put down at the location of its fragment and for the content there. -/
theorem Namespace.get?_compiled_put (n : Namespace) (name : String) (h : Handle) (f : Fragment) :
    Entries.get? (n.put name h (some f)).compiled f.location = some (f.content, h) := by
  show Entries.get? (Entries.set n.compiled f.location (f.content, h)) f.location = _
  rw [Entries.get?_set, if_pos rfl]

/-- What is put down for a fragment leaves other locations alone. -/
theorem Namespace.typeOf?_put_of_ne (n : Namespace) (name : String) (h : Handle) {f g : Fragment}
    (hne : f.location ≠ g.location) : (n.put name h (some f)).typeOf? g = n.typeOf? g := by
  have hget : Entries.get? (n.put name h (some f)).compiled g.location =
      Entries.get? n.compiled g.location :=
    (Entries.get?_set _ _ _ _).trans (if_neg hne)
  simp only [typeOf?, hget]

/-- A state gives a variant for a branch: that of a type that is remembered for the fragment that the
branch stands for, under the name of the type. -/
def Gives (mode : Mode) (view : String → Fetch) (s : Generation) (branch : Fragment)
    (v : Variant) : Prop :=
  ∃ target typeName handle, LeadsTo view branch target ∧ target.isObject = true ∧
    s.names.Remembers target handle ∧ (∀ id, handle = .model id → s.types.nameOf id = typeName) ∧
    s.types.variant mode typeName target.location handle = .ok v

/-- A variant is drawn from a branch: a state with a property, whose types have grown since, gave
it. -/
def Drawn (mode : Mode) (view : String → Fetch) (I : Generation → Prop) (types : Types)
    (branch : Fragment) (v : Variant) : Prop :=
  ∃ s, I s ∧ s.types.Grow types ∧ Gives mode view s branch v

theorem Drawn.grow {mode : Mode} {view : String → Fetch} {I : Generation → Prop}
    {types types' : Types} {branch : Fragment} {v : Variant} (h : Drawn mode view I types branch v)
    (hg : types.Grow types') : Drawn mode view I types' branch v := by
  obtain ⟨s, hs, hgrow, hv⟩ := h
  exact ⟨s, hs, hgrow.trans hg, hv⟩

/-- A union is composed of the branches of a fragment. -/
def Composed (mode : Mode) (view : String → Fetch) (I : Generation → Prop) (types : Types)
    (f : Fragment) (u : UnionType) : Prop :=
  ∃ name, List.Forall₂ (Drawn mode view I types) f.branches u.variants ∧
    assembleUnion mode name f.location u.variants = .ok u

theorem Composed.grow {mode : Mode} {view : String → Fetch} {I : Generation → Prop}
    {types types' : Types} {f : Fragment} {u : UnionType} (h : Composed mode view I types f u)
    (hg : types.Grow types') : Composed mode view I types' f u := by
  obtain ⟨name, hv, hu⟩ := h
  exact ⟨name, hv.imp fun _ _ hd => hd.grow hg, hu⟩

/-- A property of states that the steps of generation keep, with what is known when they are
taken. -/
structure Upkeep (mode : Mode) (view : String → Fetch) (I : Generation → Prop) : Prop where
  /-- The same documents can be had. -/
  documents {s : Generation} : I s → s.store.view = view
  /-- Nothing changes but marks, counters, reports and what was loaded. -/
  frame {s s' : Generation} : I s → s'.store.view = s.store.view → s'.names = s.names →
    s'.unions = s.unions → s'.types = s.types → I s'
  /-- A model is added. -/
  model {s : Generation} {m : Model} {f : Fragment} : I s → m.Depicts f →
    I { s with types := s.types ++ [.model m] }
  /-- The name of a model is declared. -/
  declare {s : Generation} {id : TypeId} {m : Model} {f : Fragment} : I s →
    s.types.model? id = some m → m.Depicts f → s.names.contains m.name = false →
    I (s.put m.name (.model id) (some f))
  /-- The back references of a model are resolved. -/
  settle {s : Generation} {id : TypeId} {m m' : Model} : I s → s.types.model? id = some m →
    m.settle s.names = .ok m' → I { s with types := s.types.set id (.model m') }
  /-- A name is reserved. -/
  reserve {s : Generation} {name : String} : I s → s.names.contains name = false →
    I (s.put name .reserved none)
  /-- A union is added. -/
  union {s : Generation} {u : UnionType} {f : Fragment} : I s →
    Composed mode view I s.types f u → I { s with types := s.types ++ [.union u] }
  /-- A union is kept for its fragment, and its name filled in. -/
  keep {s : Generation} {id : TypeId} {u : UnionType} {f : Fragment} : I s →
    s.types.union? id = some u → Composed mode view I s.types f u →
    s.names.get? u.name = some .reserved → I (s.leave u.name id f)

/-! ## Computations -/

/-- From a state with a property a computation comes to one with it, whose types have grown, and what
it gives has a property of its own. -/
def Upholds (I : Generation → Prop) (x : Generating α) (s : Generation)
    (post : α → Generation → Prop) : Prop :=
  I s → I (x.run s).2 ∧ s.types.Grow (x.run s).2.types ∧
    ∀ a, (x.run s).1 = .ok a → post a (x.run s).2

section Sequences

variable {I : Generation → Prop} {s : Generation} {x : Generating α}
  {post : α → Generation → Prop} {goal : β → Generation → Prop}

theorem upholds_pure {a : α} (h : I s → post a s) : Upholds I (pure a) s post :=
  fun hs => ⟨hs, Types.grow_refl _, fun a' ha => by cases ha; exact h hs⟩

theorem upholds_throw (e : Failure) : Upholds I (throw e) s post :=
  fun hs => ⟨hs, Types.grow_refl _, fun _ ha => nomatch ha⟩

theorem Upholds.mono {post' : α → Generation → Prop} (h : Upholds I x s post)
    (hp : ∀ a s', I s' → post a s' → post' a s') : Upholds I x s post' := by
  intro hs
  obtain ⟨hi, hg, hr⟩ := h hs
  exact ⟨hi, hg, fun a ha => hp a _ hi (hr a ha)⟩

/-- The types grow on the way. -/
theorem Upholds.grows (h : Upholds I x s post) :
    Upholds I x s (fun a s' => s.types.Grow s'.types ∧ post a s') := by
  intro hs
  obtain ⟨hi, hg, hr⟩ := h hs
  exact ⟨hi, hg, fun a ha => ⟨hg, hr a ha⟩⟩

theorem Upholds.bind {f : α → Generating β} (hx : Upholds I x s post)
    (hf : ∀ a s', post a s' → Upholds I (f a) s' goal) : Upholds I (x >>= f) s goal := by
  intro hs
  obtain ⟨hi, hg, hp⟩ := hx hs
  rw [run_bind]
  rcases hr : x.run s with ⟨e | a, s'⟩ <;> rw [hr] at hi hg hp
  · exact ⟨hi, hg, fun _ ha => nomatch ha⟩
  · obtain ⟨hi', hg', hp'⟩ := hf a s' (hp a rfl) hi
    exact ⟨hi', hg.trans hg', hp'⟩

/-- What a computation reads first is the state that it starts from. -/
theorem Upholds.get {f : Generation → Generating α} (h : Upholds I (f s) s post) :
    Upholds I (get >>= f) s post := h

theorem upholds_modify {g : Generation → Generation} (h : I s → I (g s))
    (hg : s.types.Grow (g s).types) : Upholds I (modify g) s (fun _ s' => s' = g s) :=
  fun hs => ⟨h hs, hg, fun _ _ => rfl⟩

theorem upholds_ofExcept (r : Except Failure α) :
    Upholds I (Generating.ofExcept r) s (fun a s' => r = .ok a ∧ s' = s) := by
  cases r with
  | ok a => exact fun hs => ⟨hs, Types.grow_refl _, fun a' ha => by cases ha; exact ⟨rfl, rfl⟩⟩
  | error e => exact fun hs => ⟨hs, Types.grow_refl _, fun _ ha => nomatch ha⟩

theorem upholds_declaredNames :
    Upholds I Generating.declaredNames s (fun _ s' => s' = s) :=
  fun hs => ⟨hs, Types.grow_refl _, fun _ _ => rfl⟩

end Sequences

section Steps

variable {mode : Mode} {view : String → Fetch} {I : Generation → Prop} (hI : Upkeep mode view I)
  {s : Generation} {x : Generating α} {post : α → Generation → Prop}

include hI

/-! ## Elementary computations -/

/-- A change of marks, counters and reports is none of names, unions and types. -/
theorem upholds_aside {g : Generation → Generation} (hv : (g s).store = s.store)
    (hn : (g s).names = s.names) (hu : (g s).unions = s.unions) (ht : (g s).types = s.types) :
    Upholds I (modify g) s (fun _ s' => s' = g s) :=
  upholds_modify (fun hs => hI.frame hs (by rw [hv]) hn hu ht) (ht ▸ Types.grow_refl _)

/-- A resolution gives what the documents that can be had give. -/
theorem upholds_onStore {x : Resolving α} (hx : Transparent x) :
    Upholds I (Generating.onStore x) s
      (fun a s' => (x.run (Store.empty view)).1 = .ok a ∧ s'.unions = s.unions) := by
  intro hs
  rw [Generating.run_onStore]
  refine ⟨hI.frame hs (hx.keeps s.store) rfl rfl rfl, Types.grow_refl _, fun a ha => ⟨?_, rfl⟩⟩
  rw [← ha]
  exact hx.agrees _ _ (hI.documents hs).symm

theorem upholds_report (e : Event) :
    Upholds I (Generating.report e) s (fun _ s' => s' = { s with log := s.log ++ [e] }) :=
  upholds_aside hI rfl rfl rfl rfl

theorem upholds_reserve (name : String) :
    Upholds I (Generating.reserve name) s (fun _ _ => True) := by
  intro hs
  rw [Generating.run_reserve, Generating.run_declare]
  split
  · exact ⟨hs, Types.grow_refl _, fun _ _ => trivial⟩
  · rename_i hfree
    exact ⟨hI.reserve hs (Bool.eq_false_iff.2 hfree), Types.grow_refl _, fun _ _ => trivial⟩

/-- The name of a model is declared, and the model put down for its fragment. -/
theorem upholds_declare {id : TypeId} {m : Model} {f : Fragment}
    (hm : s.types.model? id = some m) (hf : m.Depicts f) :
    Upholds I (Generating.declare m.name (.model id) (some f)) s
      (fun _ s' => s'.types = s.types ∧
        Entries.get? s'.names.compiled f.location = some (f.content, .model id)) := by
  intro hs
  rw [Generating.run_declare]
  split
  · exact ⟨hs, Types.grow_refl _, fun _ ha => nomatch ha⟩
  · rename_i hfree
    exact ⟨hI.declare hs hm hf (Bool.eq_false_iff.2 hfree), Types.grow_refl _,
      fun _ _ => ⟨rfl, s.names.get?_compiled_put m.name _ f⟩⟩

theorem upholds_settleAll (ids : List TypeId) :
    Upholds I (settleAll ids) s (fun _ s' => s'.names = s.names) := by
  induction ids generalizing s with
  | nil => exact upholds_pure fun _ => rfl
  | cons id ids ih =>
    refine Upholds.get ?_
    cases hm : s.types.model? id with
    | none => exact ih
    | some m =>
      dsimp only
      cases hs : m.settle s.names with
      | error e => exact upholds_throw e
      | ok m' =>
        have hset : Upholds I (set { s with types := s.types.set id (.model m') }) s
            (fun _ s' => s'.names = s.names) :=
          fun h => ⟨hI.settle h hm hs, Types.grow_settle hm hs, fun _ _ => rfl⟩
        exact hset.bind fun _ s' hs' => ih.mono fun _ s'' _ h => h.trans hs'

/-! ## Compilations -/

variable {annotate : Annotate} (hA : ∀ p f s, Upholds I (annotate p f) s (fun _ _ => True))

include hA

/-- The fields for properties have their outlines, in a row with the fields before. -/
theorem upholds_compileFields (required : List String) (done : List Field)
    (properties : List (String × Fragment)) :
    Upholds I (compileFields annotate required done properties) s
      (fun fields _ => fields.map Field.outline = done.map Field.outline ++
        outlinesOf required (done.map Field.name) properties) := by
  induction properties generalizing done s with
  | nil => exact upholds_pure fun _ => (List.append_nil _).symm
  | cons p rest ih =>
    obtain ⟨property, f⟩ := p
    refine (hA property f s).bind fun r s' _ => ?_
    obtain ⟨type, isBack⟩ := r
    -- The new field is the next one of the row, whatever its type.
    have hnext (s' : Generation) (field : Field) (hfield : field.outline =
        ⟨attributeName property (done.map Field.name), property,
          required.contains property || marksRequired f⟩) :
        Upholds I (compileFields annotate required (done ++ [field]) rest) s'
          (fun fields _ => fields.map Field.outline = done.map Field.outline ++
            outlinesOf required (done.map Field.name) ((property, f) :: rest)) := by
      refine (ih (done ++ [field])).mono fun fields _ _ h => ?_
      have hname : field.name = attributeName property (done.map Field.name) :=
        congrArg FieldOutline.name hfield
      rw [h, List.map_append, List.map_append, List.map_singleton, List.map_singleton, hfield,
        hname, List.append_assoc]
      rfl
    cases isBack with
    | false => exact hnext s' _ rfl
    | true =>
      exact (upholds_aside hI rfl rfl rfl rfl).bind fun _ s'' _ => hnext s'' _ rfl

/-- The model of a fragment depicts it and has the name that it was asked for. -/
theorem upholds_buildModel (name : String) (f : Fragment) :
    Upholds I (buildModel mode annotate name f) s
      (fun id s' => ∃ m, s'.types.model? id = some m ∧ m.Depicts f ∧ m.name = name) := by
  refine (upholds_ofExcept (requiredNames f)).bind fun required s' hr => ?_
  refine (upholds_compileFields hI hA required [] f.properties).bind fun fields s' hf => ?_
  refine Upholds.get ?_
  refine (upholds_ofExcept (finishFields _ _ _)).bind fun fields' s'' h => ?_
  obtain ⟨hfinish, rfl⟩ := h
  have hdepicts : Model.Depicts ⟨name, fields', mode.config.frozenPayloads⟩ f := by
    unfold Model.Depicts Fragment.outline Model.outline
    rw [hr.1, outline_of_finishFields hfinish, hf]
    rfl
  intro hs
  refine ⟨hI.model hs hdepicts, Types.grow_append _ _, fun id hid => ⟨_, ?_, hdepicts, rfl⟩⟩
  cases hid
  show Types.model? (s''.types ++ [.model _]) s''.types.length = _
  rw [Types.model?, List.getElem?_concat_length]

/-- A new model is put down for its fragment, with the name that it was asked for. -/
theorem upholds_compileNew (name : String) (f : Fragment) (outermost : Bool) :
    Upholds I (compileNew mode annotate name f outermost) s
      (fun h s' => ∃ id, h = .model id ∧ s'.types.nameOf id = name ∧
        Entries.get? s'.names.compiled f.location = some (f.content, .model id)) := by
  have hbegin : Upholds I (beginSession outermost) s (fun _ _ => True) :=
    (upholds_aside hI (by split <;> rfl) (by split <;> rfl) (by split <;> rfl)
      (by split <;> rfl)).mono fun _ _ _ _ => trivial
  have hmake (s : Generation) : Upholds I
      (whilePending f.location name (buildModel mode annotate name f)) s
      (fun id s' => ∃ m, s'.types.model? id = some m ∧ m.Depicts f ∧ m.name = name) := by
    intro hs
    obtain ⟨hi, hg, hp⟩ := upholds_buildModel hI hA (s := s.mark f.location name) name f
      (hI.frame hs rfl rfl rfl rfl)
    rw [run_whilePending]
    rcases hr : (buildModel mode annotate name f).run (s.mark f.location name) with ⟨r, s'⟩
    rw [hr] at hi hg hp
    dsimp only
    split
    · exact ⟨hI.frame hi rfl rfl rfl rfl, hg, hp⟩
    · exact ⟨hi, hg, fun _ ha => nomatch ha⟩
  have hend (s : Generation) : Upholds I (endSession outermost) s
      (fun _ s' => s'.names = s.names) := by
    refine Upholds.get ?_
    split
    · exact upholds_settleAll hI _
    · exact upholds_pure fun _ => rfl
  refine hbegin.bind fun _ s' _ => (hmake s').bind fun id s' hm => ?_
  obtain ⟨m, hm, hf, rfl⟩ := hm
  refine (upholds_declare hI hm hf).bind fun _ s' hr => ?_
  obtain ⟨htypes, hr⟩ := hr
  refine (upholds_aside hI rfl rfl rfl rfl).bind fun _ s₁ h₁ => ?_
  refine (upholds_report hI _).bind fun _ s₂ h₂ => ?_
  refine (hend s₂).grows.bind fun _ s₃ h₃ => upholds_pure fun _ => ⟨id, rfl, ?_, ?_⟩
  · have hm₂ : s₂.types.model? id = some m := by
      rw [h₂, h₁]
      exact htypes ▸ hm
    rw [h₃.1.name (Types.lt_length_of_model? hm₂), Types.nameOf_of_model? hm₂]
  · rw [h₃.2, h₂, h₁]
    exact hr

/-- A compilation gives the type that the names then remember for the fragment, and a new type has
the name that it was asked for. -/
theorem upholds_compile (name : String) (f : Fragment) :
    Upholds I (compile mode annotate name f) s (fun h s' => s'.names.Remembers f h ∧
      (s.names.typeOf? f = none → ∀ id, h = .model id → s'.types.nameOf id = name)) := by
  unfold compile
  split
  · refine Upholds.get ?_
    cases ht : s.names.typeOf? f with
    | some h => exact upholds_pure fun _ => ⟨Namespace.remembers_of_typeOf? ht, nofun⟩
    | none =>
      refine (upholds_compileNew hI hA name f _).mono fun h s' _ hp => ?_
      obtain ⟨id, rfl, hname, hget⟩ := hp
      exact ⟨⟨f.content, hget, .inl rfl⟩, fun _ id' he => Handle.model.inj he ▸ hname⟩
  · exact upholds_throw _

/-! ## Unions -/

omit hA in
/-- The fragment that a branch stands for is where its references end. -/
theorem upholds_branchTarget (branch : Fragment) :
    Upholds I (branchTarget branch) s
      (fun target _ => LeadsTo view branch target ∧ target.isObject = true) := by
  have hcheck (target : Fragment) (s : Generation) (h : LeadsTo view branch target) :
      Upholds I (if target.isObject then return target
        else throw (.generation (.nonObject target.location target.content)) :
          Generating Fragment) s
        (fun target _ => LeadsTo view branch target ∧ target.isObject = true) := by
    split
    · rename_i ho
      exact upholds_pure fun _ => ⟨h, ho⟩
    · exact upholds_throw _
  unfold branchTarget
  by_cases hr : branch.ref.isSome = true
  · simp only [hr, if_true]
    exact (upholds_onStore hI (transparent_resolve branch)).bind fun target s' h =>
      hcheck target s' h.1
  · simp only [hr]
    have hbranch : Upholds I (pure branch) s (fun target _ => target = branch) :=
      upholds_pure fun _ => rfl
    refine hbranch.bind fun target s' h => hcheck target s' ?_
    rw [h]
    exact leadsTo_self (Option.not_isSome_iff_eq_none.1 hr) view

omit hA in
theorem upholds_nameBranch (base : String) (branch : Fragment) :
    Upholds I (nameBranch mode base branch) s (fun _ s' => s'.names = s.names) := by
  unfold nameBranch
  cases branch.ref with
  | some ref =>
    refine upholds_declaredNames.bind fun declared s' hs' => ?_
    exact (upholds_ofExcept _).mono fun _ _ _ h => by rw [h.2, hs']
  | none =>
    refine (upholds_aside hI rfl rfl rfl rfl).bind fun _ s' hs' => ?_
    exact Upholds.get (upholds_pure fun _ => by rw [hs'])

/-- The type of a branch is remembered for the fragment that it stands for, and a model comes with
its name. -/
theorem upholds_branchType (base : String) (branch target : Fragment) :
    Upholds I (branchType mode annotate base branch target) s
      (fun r s' => s'.names.Remembers target r.2 ∧
        ∀ id, r.2 = .model id → s'.types.nameOf id = r.1) := by
  refine Upholds.get ?_
  rcases ht : s.names.typeOf? target with _ | (_ | id | id | text)
  · refine (upholds_nameBranch hI base branch).bind fun name s' hs' => ?_
    exact (upholds_compile hI hA name target).bind fun h s'' hr =>
      upholds_pure fun _ => ⟨hr.1, hr.2 (hs' ▸ ht)⟩
  · exact upholds_throw _
  · exact upholds_pure fun _ => ⟨Namespace.remembers_of_typeOf? ht,
      fun id' he => Handle.model.inj he ▸ rfl⟩
  · exact upholds_pure fun _ => ⟨Namespace.remembers_of_typeOf? ht, nofun⟩
  · exact upholds_throw _

/-- The state after the compilation of a branch gives the variant. -/
theorem upholds_compileVariant (base : String) (branch : Fragment) :
    Upholds I (compileVariant mode annotate base branch) s
      (fun v s' => Gives mode view s' branch v) := by
  refine (upholds_branchTarget hI branch).bind fun target s' ht => ?_
  refine (upholds_branchType hI hA base branch target).bind fun r s' hr => ?_
  obtain ⟨typeName, handle⟩ := r
  refine (upholds_report hI _).bind fun _ s'' hs'' => ?_
  refine Upholds.get ((upholds_ofExcept _).mono fun v s₃ _ hv => ?_)
  obtain ⟨hv, rfl⟩ := hv
  rw [hs''] at hv ⊢
  exact ⟨target, typeName, handle, ht.1, ht.2, hr.1, hr.2, hv⟩

/-- The variants are drawn from the branches, one from each and in order. -/
theorem upholds_compileVariants (base : String) (branches : List Fragment) :
    Upholds I (compileVariants mode annotate base branches) s
      (fun vs s' => List.Forall₂ (Drawn mode view I s'.types) branches vs) := by
  induction branches generalizing s with
  | nil => exact upholds_pure fun _ => .nil
  | cons b bs ih =>
    have hdrawn : Upholds I (compileVariant mode annotate base b) s
        (fun v s' => Drawn mode view I s'.types b v) :=
      (upholds_compileVariant hI hA base b).mono fun v s' hs hv =>
        ⟨s', hs, Types.grow_refl _, hv⟩
    refine hdrawn.bind fun v s' hv => ?_
    exact ih.grows.bind fun vs s' hvs => upholds_pure fun _ => .cons (hv.grow hvs.1) hvs.2

theorem upholds_draftUnion (base : String) (f : Fragment) :
    Upholds I (draftUnion mode annotate base f) s
      (fun r s' => ∃ u, s'.types.union? r.2 = some u ∧ u.name = r.1 ∧
        Composed mode view I s'.types f u) := by
  refine upholds_declaredNames.bind fun declared s' _ => ?_
  refine (upholds_reserve hI _).bind fun _ s' _ => ?_
  refine (upholds_report hI _).bind fun _ s' _ => ?_
  refine (upholds_compileVariants hI hA base f.branches).bind fun variants s' hv => ?_
  refine (upholds_ofExcept _).bind fun union s'' hu => ?_
  obtain ⟨hu, rfl⟩ := hu
  have hunion : union.variants = variants ∧
      union.name = mode.config.namer.forUnion base declared := by
    rw [eq_of_assembleUnion hu]
    exact ⟨rfl, rfl⟩
  obtain ⟨rfl, hname⟩ := hunion
  have hcomposed : Composed mode view I s''.types f union := ⟨_, hv, hu⟩
  have hadd : Upholds I (Generating.addType (.union union)) s''
      (fun id s' => s'.types.union? id = some union) := by
    refine fun hs => ⟨hI.union hs hcomposed, Types.grow_append _ _, fun id hid => ?_⟩
    cases hid
    show Types.union? (s''.types ++ [.union union]) s''.types.length = _
    rw [Types.union?, List.getElem?_concat_length]
  exact hadd.grows.bind fun id s' hid => upholds_pure fun _ =>
    ⟨union, hid.2, hname, hcomposed.grow hid.1⟩

theorem upholds_buildUnion (base : String) (f : Fragment) :
    Upholds I (buildUnion mode annotate base f) s
      (fun id s' => ∃ u, s'.types.union? id = some u ∧ Composed mode view I s'.types f u) := by
  refine (upholds_aside hI rfl rfl rfl rfl).bind fun _ s₁ _ => ?_
  refine (upholds_draftUnion hI hA base f).bind fun r s₂ hr => ?_
  obtain ⟨name, id⟩ := r
  obtain ⟨u, hu, rfl, hc⟩ := hr
  -- The name is filled in and the union kept in one step, since in between nothing else happens.
  intro hs
  rw [run_bind, Generating.run_fill]
  rcases hname : s₂.names.get? u.name with _ | (_ | _ | _ | _)
  case some.reserved =>
    refine ⟨hI.keep hs hu hc hname, Types.grow_refl _, fun id' hid => ⟨u, ?_, hc⟩⟩
    cases hid
    exact hu
  all_goals exact ⟨hs, Types.grow_refl _, fun _ ha => nomatch ha⟩

/-- The union at a fragment is the one that was kept for its location, or one composed of its
branches. -/
def UnionAt (mode : Mode) (view : String → Fetch) (I : Generation → Prop)
    (kept : Entries TypeId) (f : Fragment) (id : TypeId) (s' : Generation) : Prop :=
  Entries.get? kept f.location = some id ∨
    Entries.get? kept f.location = none ∧
      ∃ u, s'.types.union? id = some u ∧ Composed mode view I s'.types f u

/-- A generation gives the union at the end of the references from the fragment. -/
theorem upholds_unionOf (base : String) (f : Fragment) :
    Upholds I (unionOf mode annotate base f) s
      (fun id s' => ∃ target, LeadsTo view f target ∧
        UnionAt mode view I s.unions target id s') := by
  refine (upholds_onStore hI (transparent_resolve f)).bind fun target s' ht => ?_
  obtain ⟨ht, hunions⟩ := ht
  refine Upholds.get ?_
  rw [← hunions]
  cases hk : Entries.get? s'.unions target.location with
  | some id => exact upholds_pure fun _ => ⟨target, ht, .inl hk⟩
  | none =>
    dsimp only
    split
    · exact upholds_throw _
    · split
      · exact upholds_throw _
      · exact (upholds_buildUnion hI hA base target).mono fun id s'' _ hu =>
          ⟨target, ht, .inr ⟨hk, hu⟩⟩

/-! ## The types of fields -/

theorem upholds_objectType (property : String) (reference : Option String) (f : Fragment) :
    Upholds I (objectType mode annotate property reference f) s (fun _ _ => True) := by
  unfold objectType
  split
  · exact upholds_pure fun _ => trivial
  · refine (upholds_ofExcept _).bind fun raw s' _ => ?_
    refine upholds_declaredNames.bind fun declared s' _ => ?_
    exact (upholds_compile hI hA _ f).bind fun _ _ _ => upholds_pure fun _ => trivial

theorem upholds_typeFor (property : String) (reference : Option String) (f : Fragment)
    (jsonType : String) :
    Upholds I (typeFor mode annotate property reference f jsonType) s (fun _ _ => True) := by
  have hitem : Upholds I (itemType annotate property f) s (fun _ _ => True) := by
    unfold itemType
    split
    · exact hA _ _ _
    · exact upholds_pure fun _ => trivial
  unfold typeFor
  split
  case h_1 => exact upholds_objectType hI hA property reference f
  case h_2 => exact hitem.bind fun _ _ _ => upholds_pure fun _ => trivial
  all_goals exact upholds_pure fun _ => trivial

theorem upholds_typesFor (property : String) (reference : Option String) (f : Fragment)
    (jsonTypes : List String) :
    Upholds I (typesFor mode annotate property reference f jsonTypes) s (fun _ _ => True) := by
  induction jsonTypes generalizing s with
  | nil => exact upholds_pure fun _ => trivial
  | cons j js ih =>
    refine (upholds_typeFor hI hA property reference f j).bind fun r s' _ => ?_
    exact ih.bind fun _ _ _ => upholds_pure fun _ => trivial

theorem upholds_newType (property : String) (reference : Option String) (f : Fragment) :
    Upholds I (newType mode annotate property reference f) s (fun _ _ => True) := by
  unfold newType
  split
  · split
    · exact (upholds_unionOf hI hA property f).bind fun _ _ _ => upholds_pure fun _ => trivial
    · exact upholds_pure fun _ => trivial
  · cases literals? f with
    | some values => exact upholds_pure fun _ => trivial
    | none =>
      show Upholds I (typeByJsonTypes mode annotate property reference f) s _
      unfold typeByJsonTypes
      split
      · exact upholds_pure fun _ => trivial
      · exact (upholds_typesFor hI hA property reference f _).bind fun _ _ _ =>
          upholds_pure fun _ => trivial

theorem upholds_annotateOnce (property : String) (f : Fragment) :
    Upholds I (annotateOnce mode annotate property f) s (fun _ _ => True) := by
  refine (upholds_onStore hI (transparent_resolveChain f)).bind fun chain s' _ => ?_
  refine Upholds.get ?_
  cases Entries.get? s'.pending chain.target.location with
  | some name => exact upholds_pure fun _ => trivial
  | none =>
    dsimp only
    cases s'.names.typeOf? chain.target with
    | some handle => exact upholds_pure fun _ => trivial
    | none => exact upholds_newType hI hA property _ chain.target

end Steps

/-! ## Generations and compilations -/

variable {mode : Mode} {view : String → Fetch} {I : Generation → Prop}

/-- Finding the type of a field keeps up what the steps keep, at every depth. -/
theorem upholds_annotateWithin (hI : Upkeep mode view I) (depth : Nat) (property : String)
    (f : Fragment) (s : Generation) :
    Upholds I (annotateWithin mode depth property f) s (fun _ _ => True) := by
  induction depth generalizing property f s with
  | zero => exact upholds_throw _
  | succ depth ih => exact upholds_annotateOnce hI ih property f

/-- Finding the type of a field keeps up what the steps keep. -/
theorem upholds_annotate (hI : Upkeep mode view I) (property : String) (f : Fragment)
    (s : Generation) : Upholds I (annotate mode property f) s (fun _ _ => True) :=
  upholds_annotateWithin hI mode.depth property f s

/-- A whole compilation gives the type that the names then remember for the fragment. -/
theorem upholds_compileModel (hI : Upkeep mode view I) (name : String) (f : Fragment)
    (s : Generation) :
    Upholds I (compileModel mode name f) s (fun h s' => s'.names.Remembers f h) :=
  (upholds_compile hI (upholds_annotate hI) name f).mono fun _ _ _ h => h.1

/-- What a roll-back leaves has a property that depends on names, unions, types and the documents
that can be had, if the state before had it. -/
theorem Upkeep.rolledBack (hI : Upkeep mode view I) {s s' : Generation} (hs : I s) (hs' : I s') :
    I (s.rolledBack s') :=
  hI.frame hs ((hI.documents hs').trans (hI.documents hs).symm) rfl rfl rfl

/-- A whole generation gives the union at the end of the references from the fragment. -/
theorem upholds_generate (hI : Upkeep mode view I) (base : String) (f : Fragment)
    (s : Generation) :
    Upholds I (generate mode base f) s
      (fun id s' => ∃ target, LeadsTo view f target ∧
        UnionAt mode view I s.unions target id s') := by
  intro hs
  have hunion : Upholds I (unionOf mode (annotate mode) base f) s
      (fun id s' => ∃ target, LeadsTo view f target ∧
        UnionAt mode view I s.unions target id s') :=
    upholds_unionOf hI (upholds_annotate hI) base f
  obtain ⟨hi, hg, hp⟩ := hunion hs
  obtain ⟨hresult, hstate⟩ := generate_run mode base f s
  rw [hresult, hstate]
  generalize (unionOf mode (annotate mode) base f).run s = r at hi hg hp ⊢
  obtain ⟨e | id, s'⟩ := r
  · cases e with
    | generation e => exact ⟨hI.rolledBack hs hi, Types.grow_refl _, fun _ ha => nomatch ha⟩
    | _ => exact ⟨hi, hg, hp⟩
  · exact ⟨hi, hg, hp⟩

end ShapeSum
