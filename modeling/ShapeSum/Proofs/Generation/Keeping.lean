import ShapeSum.Proofs.Generation.Depiction

/-!
# What a session keeps

A session adds documents, generates unions and compiles fragments, and it keeps what it
made: types by the content that they were compiled from, unions by location.  What it
keeps was right at the time: a kept model depicts a fragment of the content that it is
kept for, and a kept union describes a fragment at its location by the documents that
could be had at some step of the session (`Session.keeps`).
-/

namespace ShapeSum

variable {past past' : List (String → Fetch)} {view : String → Fetch} {types types' : Types}
  {s : Generation}

/-! ## Sessions -/

/-- The states of a session on one namespace, with the documents that could be had at each step so
far, the present ones first. -/
inductive Session : List (String → Fetch) → Generation → Prop
  /-- Nothing was done yet. -/
  | fresh (store : Store) : Session [store.view] { store }
  /-- A generation starts over on the names and types that are there. -/
  | anew {past : List (String → Fetch)} {s : Generation} (store : Store) : Session past s →
      Session (store.view :: past) { store, names := s.names, types := s.types }
  /-- A document is added or looked up, a union generated or an object decoded. -/
  | request {past : List (String → Fetch)} {s : Generation} (mode : Mode) (q : Request) :
      Session past s → Session ((q.run mode s).2.store.view :: past) (q.run mode s).2
  /-- A fragment is compiled, or its compilation fails. -/
  | compiled {past : List (String → Fetch)} {s : Generation} (mode : Mode) (name : String)
      (f : Fragment) : Session past s →
      Session (((compileModel mode name f).run s).2.store.view :: past)
        ((compileModel mode name f).run s).2

/-- The present documents are among those of the session. -/
theorem Session.view_mem (h : Session past s) : s.store.view ∈ past := by
  cases h <;> exact List.mem_cons_self

/-! ## Descriptions -/

/-- A fragment has the content of another one, or an equal content. -/
def Fragment.Echoes (g f : Fragment) : Prop :=
  g.content = f.content ∨ g.content.sameContent f.content = true

/-- The fields of a descriptor are those of an outline. -/
structure Descriptor.Lists (d : Descriptor) (os : List FieldOutline) : Prop where
  /-- The required ones. -/
  required : d.required = sortedNames ((os.filter (·.required)).map FieldOutline.wire)
  /-- The others. -/
  optional : d.optional = sortedNames ((os.filter (!·.required)).map FieldOutline.wire)

/-- A variant describes a branch: it comes from the fragment that the branch leads to, its type is a
model for the content of that fragment, and its fields are those of the model. -/
def Variant.Describes (v : Variant) (types : Types) (view : String → Fetch) (branch : Fragment) :
    Prop :=
  ∃ target g m, LeadsTo view branch target ∧ target.isObject = true ∧
    v.source = some target.location ∧ g.Echoes target ∧ types.model? v.type = some m ∧
    m.Depicts g ∧ v.Lists m.outline

/-- A union describes a fragment: its variants describe the branches, one each and in order. -/
structure UnionType.Describes (u : UnionType) (types : Types) (view : String → Fetch)
    (f : Fragment) : Prop where
  /-- It comes from the fragment. -/
  source : u.source = some f.location
  /-- Its variants describe the branches. -/
  variants : List.Forall₂ (fun branch v => v.Describes types view branch) f.branches u.variants

theorem Variant.Describes.grow {v : Variant} {branch : Fragment}
    (h : v.Describes types view branch) (hg : types.Grow types') :
    v.Describes types' view branch := by
  obtain ⟨target, g, m, hl, ho, hs, he, hm, hd, hf⟩ := h
  obtain ⟨m', hm', houtline⟩ := hg.model hm
  exact ⟨target, g, m', hl, ho, hs, he, hm', hd.trans (congrArg Except.ok houtline.symm),
    houtline.symm ▸ hf⟩

theorem UnionType.Describes.grow {u : UnionType} {f : Fragment} (h : u.Describes types view f)
    (hg : types.Grow types') : u.Describes types' view f :=
  ⟨h.source, h.variants.imp fun _ _ hv => hv.grow hg⟩

theorem lists_of_describeOutline {os : List FieldOutline} {typeName : String}
    {source : Option String} {emptyTag : String} {d : Descriptor}
    (h : describeOutline os typeName source emptyTag = .ok d) :
    d.Lists os ∧ d.source = source ∧ d.typeName = typeName := by
  unfold describeOutline Descriptor.make at h
  split at h <;> cases h
  exact ⟨⟨rfl, rfl⟩, rfl, rfl⟩

/-- Only a model makes a variant, which has its fields and the name that it was asked for. -/
theorem exists_model_of_variant {mode : Mode} {typeName source : String} {h : Handle} {v : Variant}
    (hv : types.variant mode typeName source h = .ok v) :
    ∃ id m, h = .model id ∧ types.model? id = some m ∧ v.type = id ∧ v.source = some source ∧
      v.typeName = typeName ∧ v.Lists m.outline := by
  unfold Types.variant at hv
  split at hv
  · rename_i id
    split at hv
    · cases hv
    · rename_i m hm
      rw [Model.descriptor_eq] at hv
      cases hd : describeOutline m.outline typeName (some source) mode.config.emptyTag with
      | error e =>
        rw [hd] at hv
        cases hv
      | ok d =>
        rw [hd] at hv
        cases hv
        obtain ⟨hl, hs, hn⟩ := lists_of_describeOutline hd
        exact ⟨id, m, rfl, hm, rfl, hs, hn, ⟨hl.required, hl.optional⟩⟩
  · cases hv

/-! ## What is kept -/

/-- A type is kept for a location and a content with good reason: a model depicts a fragment with
this content, and a union describes one by the documents of some step. -/
inductive Founded (past : List (String → Fetch)) (types : Types) (location : String)
    (content : Json) : Handle → Prop
  /-- A model. -/
  | model {id : TypeId} {m : Model} {g : Fragment} : types.model? id = some m →
      g.location = location → g.content = content → m.Depicts g →
      Founded past types location content (.model id)
  /-- A union. -/
  | union {id : TypeId} {u : UnionType} {g : Fragment} {view : String → Fetch} :
      types.union? id = some u → view ∈ past → g.location = location → g.content = content →
      u.Describes types view g → Founded past types location content (.union id)

theorem Founded.grow {location : String} {content : Json} {h : Handle}
    (hf : Founded past types location content h) (hg : types.Grow types') :
    Founded past types' location content h := by
  cases hf with
  | model hm hl hc hd =>
    obtain ⟨m', hm', ho⟩ := hg.model hm
    exact .model hm' hl hc (hd.trans (congrArg Except.ok ho.symm))
  | union hu hv hl hc hd => exact .union (hg.union hu) hv hl hc (hd.grow hg)

theorem Founded.mono {location : String} {content : Json} {h : Handle}
    (hf : Founded past types location content h) (hp : past ⊆ past') :
    Founded past' types location content h := by
  cases hf with
  | model hm hl hc hd => exact .model hm hl hc hd
  | union hu hv hl hc hd => exact .union hu (hp hv) hl hc hd

/-- Everything that is kept is kept with good reason. -/
structure Keeps (past : List (String → Fetch)) (view : String → Fetch) (s : Generation) : Prop where
  /-- These documents can be had. -/
  documents : s.store.view = view
  /-- The types of compiled fragments. -/
  compiled : ∀ location content h, Entries.get? s.names.compiled location = some (content, h) →
    Founded past s.types location content h
  /-- The unions. -/
  unions : ∀ location id, Entries.get? s.unions location = some id →
    ∃ content, Founded past s.types location content (.union id)

theorem Keeps.mono (h : Keeps past view s) (hp : past ⊆ past') : Keeps past' view s :=
  ⟨h.documents, fun l c hd hg => (h.compiled l c hd hg).mono hp,
    fun l id hg => (h.unions l id hg).imp fun _ hf => hf.mono hp⟩

/-- What is kept does not depend on the documents that can be had later. -/
theorem Keeps.stored (h : Keeps past view s) (store : Store) :
    Keeps past store.view { s with store } :=
  ⟨rfl, h.compiled, h.unions⟩

/-- A model that is remembered for a fragment depicts a fragment with its content. -/
theorem Keeps.exists_depicts (h : Keeps past view s) {f : Fragment} {id : TypeId}
    (hr : s.names.Remembers f (.model id)) :
    ∃ m g, s.types.model? id = some m ∧ g.Echoes f ∧ m.Depicts g := by
  obtain ⟨content, hget, hc⟩ := hr
  cases h.compiled _ _ _ hget with
  | model hm hl he hd =>
    subst he
    exact ⟨_, _, hm, hc, hd⟩

/-- A union that is composed of the branches of a fragment describes it. -/
theorem describes_of_composed {mode : Mode} {f : Fragment} {u : UnionType}
    (h : Composed mode view (Keeps past view) types f u) : u.Describes types view f := by
  obtain ⟨name, hv, hu⟩ := h
  refine ⟨?_, hv.imp fun branch v hd => ?_⟩
  · rw [eq_of_assembleUnion hu]
  · obtain ⟨s, hs, hg, target, typeName, handle, hl, ho, hr, -, hv⟩ := hd
    obtain ⟨id, m, rfl, hm, hid, hsource, -, hlists⟩ := exists_model_of_variant hv
    obtain ⟨m', g, hm', he, hd⟩ := hs.exists_depicts hr
    rw [hm] at hm'
    cases hm'
    have hdescribes : v.Describes s.types view branch :=
      ⟨target, g, m, hl, ho, hsource, he, hid ▸ hm, hd, hlists⟩
    exact hdescribes.grow hg

/-- Generation keeps types and unions with good reason only. -/
theorem upkeep_keeps (mode : Mode) (hv : view ∈ past) : Upkeep mode view (Keeps past view) := by
  have hgrow {s : Generation} {types : Types} (h : Keeps past view s) (hg : s.types.Grow types) :
      Keeps past view { s with types } :=
    ⟨h.documents, fun l c hd hget => (h.compiled l c hd hget).grow hg,
      fun l id hget => (h.unions l id hget).imp fun _ hf => hf.grow hg⟩
  have hput {s : Generation} {name : String} {handle : Handle} {f : Fragment}
      (h : Keeps past view s) (hf : Founded past s.types f.location f.content handle) :
      Keeps past view (s.put name handle (some f)) := by
    refine ⟨h.documents, fun l c hd hget => ?_, h.unions⟩
    change Entries.get? (Entries.set s.names.compiled f.location (f.content, handle)) l = _ at hget
    rw [Entries.get?_set] at hget
    split at hget
    · rename_i hl
      cases hget
      exact hl ▸ hf
    · exact h.compiled l c hd hget
  refine
    { documents := fun h => h.documents
      frame := fun h hview hn hu ht => ?_
      model := fun h _ => hgrow h (Types.grow_append _ _)
      declare := fun h hm hd _ => hput h (.model hm rfl rfl hd)
      settle := fun h hm hs => hgrow h (Types.grow_settle hm hs)
      reserve := fun h _ => ⟨h.documents, h.compiled, h.unions⟩
      union := fun h _ => hgrow h (Types.grow_append _ _)
      keep := fun {s id u f} h hu hc _ => ?_ }
  · refine ⟨hview.trans h.documents, fun l c hd hget => ?_, fun l id hget => ?_⟩
    · rw [ht]
      exact h.compiled l c hd (hn ▸ hget)
    · rw [ht]
      exact h.unions l id (hu ▸ hget)
  · have hf : Founded past s.types f.location f.content (.union id) :=
      .union hu hv rfl rfl (describes_of_composed hc)
    obtain ⟨hdoc, hcompiled, -⟩ : Keeps past view (s.put u.name (.union id) (some f)) := hput h hf
    refine ⟨hdoc, hcompiled, fun l id' hget => ?_⟩
    change Entries.get? (Entries.set s.unions f.location id) l = _ at hget
    rw [Entries.get?_set] at hget
    split at hget
    · rename_i hl
      cases hget
      exact ⟨f.content, hl ▸ hf⟩
    · exact h.unions l id' hget

/-- What a session keeps, it keeps with good reason. -/
theorem Session.keeps (h : Session past s) : Keeps past s.store.view s := by
  induction h with
  | fresh store =>
    exact ⟨rfl, fun _ _ _ hget => (nomatch hget), fun _ _ hget => (nomatch hget)⟩
  | anew store h ih =>
    exact Keeps.mono ⟨rfl, ih.compiled, fun _ _ hget => (nomatch hget)⟩ (List.subset_cons_self _ _)
  | @request past s mode q h ih =>
    refine Keeps.mono ?_ (List.subset_cons_self _ _)
    cases q with
    | add uri content => exact ih.stored _
    | locate uri pointer => exact ih.stored _
    | generate base f =>
      have hs' := (upholds_generate (upkeep_keeps mode h.view_mem) base f s ih).1
      exact hs'.documents.symm ▸ hs'
    | decode union entries => exact ih
  | @compiled past s mode name f h ih =>
    have hs' := (upholds_compileModel (upkeep_keeps mode h.view_mem) name f s ih).1
    exact Keeps.mono (hs'.documents.symm ▸ hs') (List.subset_cons_self _ _)

end ShapeSum
