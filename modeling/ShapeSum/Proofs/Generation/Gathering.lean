import ShapeSum.Generation.Document
import ShapeSum.Proofs.Generation.Keeping
import ShapeSum.Proofs.Generation.Relating
import ShapeSum.Proofs.Schema.Coherence

/-!
# All unions of a document

A document is searched for choices through properties and definitions, and a union is
generated for each one that is found.  Compiling its branches comes upon others, which
get their unions there and then, under other names.  In what order they come up does not
matter: a union is kept for the place where it is generated, and asked for there the next
time.  So the unions that are kept in the end are all that were made, one for each place
(`allUnions_gathers`).

What is due in such a run is said by `Due`, and that every run keeps to it by a regime.
That no union is made without being kept is a matter of the runs that succeed, and
`Balanced` is the relation that these carry over.
-/

namespace ShapeSum

variable {mode : Mode} {view : String → Fetch} {root f g t : Fragment} {types types' : Types}
  {s s' s'' : Generation} {past : List (String → Fetch)}

/-! ## What is searched -/

/-- A fragment is searched from another one on: through properties and definitions. -/
def Searches : Fragment → Fragment → Prop :=
  Relation.ReflTransGen fun f g => ∃ name, (name, g) ∈ f.searched

/-- The choices of a fragment are those that are searched from it on. -/
theorem exists_mem_choices_iff {name : String} :
    (∃ n, (n, g) ∈ f.choices name) ↔ Searches f g ∧ g.hasOneOf = true := by
  induction hsize : sizeOf f.content using Nat.strong_induction_on generalizing f name with
  | _ size ih =>
    subst hsize
    have hinner {p : String × Fragment} (hp : p ∈ f.searched) :
        (∃ n, (n, g) ∈ p.2.choices p.1) ↔ Searches p.2 g ∧ g.hasOneOf = true :=
      ih _ (Fragment.sizeOf_searched_lt hp) rfl
    rw [Fragment.choices]
    simp only [List.mem_append, List.mem_flatMap, List.mem_attach, true_and, Subtype.exists,
      Prod.exists]
    constructor
    · rintro ⟨n, hn | ⟨m, h, hmem, hn⟩⟩
      · split at hn
        · rename_i hone
          cases List.mem_singleton.1 hn
          exact ⟨.refl, hone⟩
        · cases hn
      · obtain ⟨hsearch, hone⟩ := (hinner hmem).1 ⟨n, hn⟩
        exact ⟨.head ⟨m, hmem⟩ hsearch, hone⟩
    · rintro ⟨hsearch, hone⟩
      rcases Relation.ReflTransGen.cases_head hsearch with rfl | ⟨h, ⟨m, hmem⟩, hrest⟩
      · exact ⟨name, .inl (by rw [if_pos hone]; exact List.mem_singleton_self _)⟩
      · obtain ⟨n, hn⟩ := (hinner hmem).2 ⟨hrest, hone⟩
        exact ⟨n, .inr ⟨m, h, hmem, hn⟩⟩

/-! ## What is due -/

/-- What may be due for a fragment. -/
inductive Task where
  /-- A union. -/
  | union
  /-- A model. -/
  | model
  /-- The type of a property or of items. -/
  | type

/-- What comes to be due when the unions of a document are generated: a union for every choice that
is found or met, a model for every branch and for every object met, and a type for every property
and for the items of every array met. -/
inductive Due (view : String → Fetch) (root : Fragment) : Task → Fragment → Prop
  /-- A choice is found when the document is searched. -/
  | found {f t : Fragment} : Searches root f → f.hasOneOf = true → LeadsTo view f t →
      Due view root .union t
  /-- A choice is met as the type of a property or of items. -/
  | met {g t : Fragment} : Due view root .type g → LeadsTo view g t → t.hasOneOf = true →
      Due view root .union t
  /-- A branch is compiled. -/
  | branch {t b o : Fragment} : Due view root .union t → b ∈ t.branches → LeadsTo view b o →
      Due view root .model o
  /-- An object inside another one is compiled. -/
  | object {g o : Fragment} : Due view root .type g → LeadsTo view g o → o.IsTyped →
      Due view root .model o
  /-- A property of a model has a type. -/
  | property {o g : Fragment} {name : String} : Due view root .model o → o.isObject = true →
      (name, g) ∈ o.properties → Due view root .type g
  /-- The items of an array have a type. -/
  | items {g t : Fragment} {ms : List (String × Json)} : Due view root .type g → LeadsTo view g t →
      t.IsTyped → "array" ∈ t.types → t.get? "items" = some (.obj ms) →
      Due view root .type (t.part "items" (.obj ms))

/-- Where references end is found in a document if they start in one. -/
theorem LeadsTo.placed (h : LeadsTo view f t) (hf : f.Placed view) : t.Placed view := by
  have hhops := h.hops.1
  clear h
  induction hhops with
  | refl => exact hf
  | tail _ hh ih => exact hh.placed ih.hashless

section Places

variable (hview : ∀ uri j, view uri = .content j → j.hasDistinctKeys = true)

include hview

theorem Searches.placed (h : Searches f g) (hf : f.Placed view) : g.Placed view := by
  induction h with
  | refl => exact hf
  | tail _ hs ih =>
    obtain ⟨name, hs⟩ := hs
    have hkeys := ih.hasDistinctKeys hview
    simp only [Fragment.searched, Fragment.properties, List.mem_append] at hs
    rcases hs with (hs | hs) | hs <;> exact ih.extend (Fragment.child_of_mem_members hkeys hs)

/-- Everything that is due belongs to a fragment that is found in a document. -/
theorem Due.placed {task : Task} (h : Due view root task f) (hroot : root.Placed view) :
    f.Placed view := by
  have hpart {f g : Fragment} (hf : f.Placed view) (hp : f.HasPart g) : g.Placed view := by
    obtain ⟨segments, hs⟩ := hp.exists_child (hf.hasDistinctKeys hview)
    exact hf.extend hs
  induction h with
  | found hs _ hlead => exact hlead.placed (hs.placed hview hroot)
  | met _ hlead _ ih => exact hlead.placed ih
  | branch _ hb hlead ih => exact hlead.placed (hpart ih (.branch hb))
  | object _ hlead _ ih => exact hlead.placed ih
  | property _ _ hp ih => exact hpart ih (.property hp)
  | items _ hlead _ _ hget ih => exact hpart (hlead.placed ih) (.items hget)

end Places

/-! ## Unions for choices -/

/-- A type is a model for the content of a fragment. -/
def ModelFor (types : Types) (f : Fragment) (id : TypeId) : Prop :=
  ∃ m g, types.model? id = some m ∧ g.Echoes f ∧ m.Depicts g

theorem ModelFor.grow {id : TypeId} (h : ModelFor types f id) (hg : types.Grow types') :
    ModelFor types' f id := by
  obtain ⟨m, g, hm, he, hd⟩ := h
  obtain ⟨m', hm', ho⟩ := hg.model hm
  exact ⟨m', g, hm', he, hd.trans (congrArg Except.ok ho.symm)⟩

/-- A union is made for a fragment: it comes from its location, and its variants have models for what
the branches lead to, one each and in order. -/
structure UnionType.MadeFor (u : UnionType) (types : Types) (view : String → Fetch)
    (f : Fragment) : Prop where
  /-- It comes from the location of the fragment. -/
  source : u.source = some f.location
  /-- Its variants stand for the branches. -/
  variants : List.Forall₂ (fun b v => ∃ t, LeadsTo view b t ∧ t.isObject = true ∧
    ModelFor types t v.type) f.branches u.variants

theorem UnionType.MadeFor.grow {u : UnionType} (h : u.MadeFor types view f)
    (hg : types.Grow types') : u.MadeFor types' view f := by
  refine ⟨h.source, h.variants.imp fun _ _ hv => ?_⟩
  obtain ⟨t, hlead, hobject, hm⟩ := hv
  exact ⟨t, hlead, hobject, hm.grow hg⟩

/-- A union is made for a fragment at a location that has a property. -/
def MadeAt (view : String → Fetch) (types : Types) (allowed : Fragment → Prop) (location : String)
    (id : TypeId) : Prop :=
  ∃ u t, types.union? id = some u ∧ allowed t ∧ t.location = location ∧ u.MadeFor types view t

theorem MadeAt.grow {allowed : Fragment → Prop} {location : String} {id : TypeId}
    (h : MadeAt view types allowed location id) (hg : types.Grow types') :
    MadeAt view types' allowed location id := by
  obtain ⟨u, t, hu, ht, hl, hm⟩ := h
  exact ⟨u, t, hg.union hu, ht, hl, hm.grow hg⟩

/-! ## The regime -/

/-- What is remembered and kept was made for fragments at its locations: models for their contents,
and every union that is not one of the first types for a choice that was due. -/
structure Gathered (view : String → Fetch) (root : Fragment) (first : Nat) (s : Generation) :
    Prop where
  documents : s.store.view = view
  models : ∀ l content id, Entries.get? s.names.compiled l = some (content, .model id) →
    ∃ m g, s.types.model? id = some m ∧ g.content = content ∧ m.Depicts g
  compiled : ∀ l content id, Entries.get? s.names.compiled l = some (content, .union id) →
    id < first ∨ MadeAt view s.types (Due view root .union) l id
  unions : ∀ l id, Entries.get? s.unions l = some id →
    id < first ∨ MadeAt view s.types (Due view root .union) l id

variable {first : Nat}

theorem Gathered.grow (h : Gathered view root first s) (hview : s'.store.view = s.store.view)
    (hn : s'.names = s.names) (hu : s'.unions = s.unions) (hg : s.types.Grow s'.types) :
    Gathered view root first s' where
  documents := hview.trans h.documents
  models l content id hget := by
    obtain ⟨m, g, hm, hc, hd⟩ := h.models l content id (hn ▸ hget)
    obtain ⟨m', hm', ho⟩ := hg.model hm
    exact ⟨m', g, hm', hc, hd.trans (congrArg Except.ok ho.symm)⟩
  compiled l content id hget := (h.compiled l content id (hn ▸ hget)).imp_right (·.grow hg)
  unions l id hget := (h.unions l id (hu ▸ hget)).imp_right (·.grow hg)

/-- A type serves a fragment: a model among its options is one for its content, and a union that is
not one of the first types is made for the fragment or for a choice at its location that was
due. -/
structure Serves (view : String → Fetch) (root : Fragment) (first : Nat) (types : Types)
    (f : Fragment) (type : FieldType) : Prop where
  model : ∀ id, .model id ∈ type.options → ModelFor types f id
  union : ∀ id, .union id ∈ type.options →
    id < first ∨ MadeAt view types (fun t => Due view root .union t ∨ t = f) f.location id

/-- A type without options that is no model and no union serves every fragment. -/
theorem Serves.of_other {type : FieldType} (h : type.isChoice = false) (hm : ∀ id, type ≠ .model id)
    (hu : ∀ id, type ≠ .union id) : Serves view root first types f type := by
  have hoptions := FieldType.options_of_not_isChoice h
  refine ⟨fun id hid => absurd ?_ (hm id), fun id hid => absurd ?_ (hu id)⟩ <;>
    rw [hoptions, List.mem_singleton] at hid <;> exact hid.symm

theorem Serves.of_model {id : TypeId} (h : ModelFor types f id) :
    Serves view root first types f (.model id) := by
  refine ⟨fun id' he => ?_, fun id' he => ?_⟩ <;> cases List.mem_singleton.1 he
  exact h

theorem Serves.of_union {id : TypeId}
    (h : id < first ∨ MadeAt view types (fun t => Due view root .union t ∨ t = f) f.location id) :
    Serves view root first types f (.union id) := by
  refine ⟨fun id' he => ?_, fun id' he => ?_⟩ <;> cases List.mem_singleton.1 he
  exact h

theorem Serves.grow {type : FieldType} (h : Serves view root first types f type)
    (hg : types.Grow types') : Serves view root first types' f type :=
  ⟨fun id he => (h.model id he).grow hg, fun id he => (h.union id he).imp_right (·.grow hg)⟩

/-- Types that serve a fragment do so together. -/
theorem Serves.ofOptions {ts : List FieldType} (hflat : ∀ type ∈ ts, type.isChoice = false)
    (h : ∀ type ∈ ts, Serves view root first types f type) :
    Serves view root first types f (.ofOptions ts) := by
  have hself {type : FieldType} (ht : type ∈ (FieldType.ofOptions ts).options) :
      type ∈ ts ∧ type ∈ type.options := by
    have hmem := (FieldType.mem_options_ofOptions hflat).1 ht
    refine ⟨hmem, ?_⟩
    rw [FieldType.options_of_not_isChoice (hflat type hmem)]
    exact List.mem_singleton_self type
  exact ⟨fun id hid => (h _ (hself hid).1).model id (hself hid).2,
    fun id hid => (h _ (hself hid).1).union id (hself hid).2⟩

theorem MadeAt.mono {allowed allowed' : Fragment → Prop} {location : String} {id : TypeId}
    (h : MadeAt view types allowed location id) (hallowed : ∀ t, allowed t → allowed' t) :
    MadeAt view types allowed' location id := by
  obtain ⟨u, t, hu, ht, hl, hm⟩ := h
  exact ⟨u, t, hu, hallowed t ht, hl, hm⟩

/-- What is put down for a fragment was made for it, so everything remembered still is. -/
theorem Gathered.put (h : Gathered view root first s) {name : String} {handle : Handle}
    (hm : ∀ id, handle = .model id → ∃ m g, s.types.model? id = some m ∧ g.content = f.content ∧
      m.Depicts g)
    (hu : ∀ id, handle = .union id →
      id < first ∨ MadeAt view s.types (Due view root .union) f.location id) :
    Gathered view root first (s.put name handle (some f)) := by
  refine ⟨h.documents, fun l content id hget => ?_, fun l content id hget => ?_, h.unions⟩ <;>
    change Entries.get? (Entries.set s.names.compiled f.location (f.content, handle)) l = _
      at hget <;> rw [Entries.get?_set] at hget <;> split at hget
  · cases hget
    exact hm id rfl
  · exact h.models l content id hget
  · rename_i hl
    cases hget
    exact hl ▸ hu id rfl
  · exact h.compiled l content id hget

/-- What a state before goes on to: no marks are added, and the types grow. -/
structure Continues (s s' : Generation) : Prop where
  pending : MarksNoMore s s'
  types : s.types.Grow s'.types

theorem Continues.of_eq (hp : s'.pending = s.pending) (ht : s'.types = s.types) :
    Continues s s' :=
  ⟨.of_eq hp, ht ▸ Types.grow_refl _⟩

/-- Whatever is found and met in the generation of all unions of a document was due. -/
def gatheringRegime (mode : Mode) (view : String → Fetch) (root : Fragment) (first : Nat) :
    Regime mode view where
  Known _ := True
  Good := Gathered view root first
  After _ := Continues
  Err _ := True
  New _ := True
  May _ _ f := Due view root .type f
  MayCompile _ _ f := Due view root .model f
  MayBranch _ _ f := Due view root .union f
  Fit types f r := Serves view root first types f r.1
  FitAs types f _ r := r.1.isChoice = false ∧ Serves view root first types f r.1
  Made types f id := ∃ m, types.model? id = some m ∧ m.Depicts f
  known_part _ _ := trivial
  known_leads _ _ := trivial
  new _ _ _ := trivial
  failure _ := trivial
  unresolved _ _ := trivial
  tooDeep _ := trivial
  recursive _ _ _ _ _ := trivial
  view_eq h := h.documents
  after_refl _ _ := .of_eq rfl rfl
  after_trans h h' := ⟨h.pending.trans h'.pending, h.types.trans h'.types⟩
  after_of_strict h := h
  pending_after h := h.pending _
  may_after _ h _ := h
  mayCompile_after h _ := h
  mayBranch_after h _ := h
  fit_after h hfit := hfit.grow h.types
  fitAs_after h hfit := ⟨hfit.1, hfit.2.grow h.types⟩
  made_after := by
    rintro s s' f id h ⟨m, hm, hd⟩
    obtain ⟨m', hm', ho⟩ := h.types.model hm
    exact ⟨m', hm', hd.trans (congrArg Except.ok ho.symm)⟩
  may_item h _ hlead ht harray hget := .items h hlead ht harray hget
  may_object h _ hlead ht _ := .object h hlead ht
  may_property h _ hobject hp := .property h hobject hp
  may_union h _ hlead hone _ _ := .met h hlead hone
  may_branch h _ hb hlead := .branch h hb hlead
  aside hs h := ⟨hs.grow h.view h.names h.unions (h.types ▸ Types.grow_refl _),
    .of_eq h.pending h.types⟩
  refer hs _ _ := ⟨hs.grow rfl rfl rfl (Types.grow_refl _), .of_eq rfl rfl⟩
  mark _ _ hs := hs.grow rfl rfl rfl (Types.grow_refl _)
  unmark _ hs := hs.grow rfl rfl rfl (Types.grow_refl _)
  unmark_after _ _ _ h := ⟨h.pending.unmark, h.types⟩
  enter _ hs := hs.grow rfl rfl rfl (Types.grow_refl _)
  leave {_ s s' f name id} hs _ _ _ hdue hfit _ _ h := by
    have hmade : id < first ∨ MadeAt view s'.types (Due view root .union) f.location id := by
      refine (hfit.union id (List.mem_singleton_self _)).imp_right fun hu => hu.mono fun t ht => ?_
      exact ht.elim (fun ht => ht) fun he => he ▸ hdue
    have hput : Gathered view root first (s'.put name (.union id) (some f)) :=
      hs.put nofun fun id' he => by
        cases he
        exact hmade
    refine ⟨⟨hput.documents, hput.models, hput.compiled, fun l id' hget => ?_⟩, h.pending, h.types⟩
    change Entries.get? (Entries.set s'.unions f.location id) l = _ at hget
    rw [Entries.get?_set] at hget
    split at hget
    · rename_i hl
      cases hget
      exact hl ▸ hmade
    · exact hs.unions l id' hget
  reserve _ hs := ⟨⟨hs.documents, hs.models, hs.compiled, hs.unions⟩, .of_eq rfl rfl⟩
  declare {s f id} name hs _ _ hmade := by
    obtain ⟨m, hm, hd⟩ := hmade
    refine ⟨hs.put (fun id' he => ?_) nofun, .of_eq rfl rfl⟩
    cases he
    exact ⟨m, f, hm, rfl, hd⟩
  model {s f name required fields fields'} hs _ _ hrequired _ houtline hfinish := by
    intro m s'
    have hgrow : s.types.Grow s'.types := Types.grow_append s.types (.model m)
    refine ⟨hs.grow rfl rfl rfl hgrow, ⟨.of_eq rfl, hgrow⟩, m, ?_, ?_⟩
    · exact Types.model?_eq_some.2 List.getElem?_concat_length
    · unfold Model.Depicts Fragment.outline Model.outline
      rw [hrequired, outline_of_finishFields hfinish, houtline]
      rfl
  settle hs _ hm hsettle :=
    ⟨hs.grow rfl rfl rfl (Types.grow_settle hm hsettle), .of_eq rfl, Types.grow_settle hm hsettle⟩
  union {s f name u} hs _ _ hvariants hu := by
    intro s'
    have hgrow : s.types.Grow s'.types := Types.grow_append s.types (.union u)
    refine ⟨hs.grow rfl rfl rfl hgrow, ⟨.of_eq rfl, hgrow⟩, .of_union (.inr ?_)⟩
    refine ⟨u, f, Types.union?_eq_some.2 List.getElem?_concat_length, .inr rfl, rfl, ?_, ?_⟩
    · rw [eq_of_assembleUnion hu]
    · refine hvariants.imp fun b v hv => ?_
      obtain ⟨t, hlead, hobject, hfit⟩ := hv
      exact ⟨t, hlead, hobject, (hfit.model _ (List.mem_singleton_self _)).grow hgrow⟩
  fit_made := by
    rintro types f id ⟨m, hm, hd⟩
    exact .of_model ⟨m, f, hm, .inl rfl, hd⟩
  back _ _ _ _ _ := .of_other rfl nofun nofun
  cached {s t h} hs _ hh := by
    obtain ⟨content, hget, hc⟩ := Namespace.remembers_of_typeOf? hh
    cases h with
    | model id =>
      obtain ⟨m, g, hm, hg, hd⟩ := hs.models _ _ _ hget
      subst hg
      exact .of_model ⟨m, g, hm, hc, hd⟩
    | union id =>
      exact .of_union ((hs.compiled _ _ _ hget).imp_right fun hu => hu.mono fun _ => .inl)
    | _ => exact .of_other rfl nofun nofun
  kept hs _ _ hid := .of_union ((hs.unions _ _ hid).imp_right fun hu => hu.mono fun _ => .inl)
  fit_literal _ _ := .of_other rfl nofun nofun
  fit_anyBranch _ _ := .of_other rfl nofun nofun
  fit_untyped _ _ := .of_other rfl nofun nofun
  fit_options {types t rs} _ _ _ hrs := by
    have hmember {type : FieldType} (ht : type ∈ rs.map Prod.fst) :
        type.isChoice = false ∧ Serves view root first types t type := by
      obtain ⟨r, hr, rfl⟩ := List.mem_map.1 ht
      obtain ⟨_, -, hfit⟩ := exists_left_of_forall₂ hrs hr
      exact hfit
    exact .ofOptions (fun _ ht => (hmember ht).1) fun _ ht => (hmember ht).2
  fitAs_plain {types t jsonType} _ _ _ _ := by
    unfold plainType
    split <;> exact ⟨rfl, .of_other rfl nofun nofun⟩
  fitAs_array _ _ _ := by
    dsimp only
    split <;> exact ⟨rfl, .of_other rfl nofun nofun⟩
  fitAs_object _ _ _ := ⟨rfl, .of_other rfl nofun nofun⟩
  fitAs_handle {_ _ h} _ _ _ hfit := ⟨(mayStand_fieldType h).isChoice, hfit⟩

/-! ## Unions are kept once -/

/-- In between, unions were kept for new places only, and all that were made are kept. -/
structure Balanced (s s' : Generation) : Prop where
  /-- No type is lost. -/
  length : s.types.length ≤ s'.types.length
  /-- The same places are being generated. -/
  inProgress : s'.inProgress = s.inProgress
  /-- What is kept stays. -/
  kept {l : String} {id : TypeId} : Entries.get? s.unions l = some id →
    Entries.get? s'.unions l = some id
  /-- Nothing is kept for a place that is being generated around. -/
  around {l : String} : l ∈ s.inProgress → Entries.get? s'.unions l = Entries.get? s.unions l
  /-- What is kept newly is a new type. -/
  new {l : String} {id : TypeId} : Entries.get? s'.unions l = some id →
    Entries.get? s.unions l = some id ∨ s.types.length ≤ id
  /-- Every new union is kept. -/
  listed {id : TypeId} {u : UnionType} : s'.types.union? id = some u →
    s.types.union? id = some u ∨ ∃ l, Entries.get? s'.unions l = some id
  /-- There is one entry for each place. -/
  nodup : (Entries.keys s.unions).Nodup → (Entries.keys s'.unions).Nodup

theorem Balanced.trans (h : Balanced s s') (h' : Balanced s' s'') : Balanced s s'' where
  length := Nat.le_trans h.length h'.length
  inProgress := h'.inProgress.trans h.inProgress
  kept hl := h'.kept (h.kept hl)
  around hl := (h'.around (h.inProgress ▸ hl)).trans (h.around hl)
  new hl := (h'.new hl).elim h.new fun hid => .inr (Nat.le_trans h.length hid)
  listed hu := (h'.listed hu).elim
    (fun hu => (h.listed hu).imp_right fun ⟨l, hl⟩ => ⟨l, h'.kept hl⟩) .inr
  nodup hn := h'.nodup (h.nodup hn)

/-- A union that is made for a place with none, while that place is being generated, is kept. -/
theorem Balanced.leave {name : String} {u : UnionType} (hnone : Entries.get? s.unions f.location = none)
    (hfree : f.location ∉ s.inProgress) (h : Balanced (s.enter f.location) s') :
    Balanced s (Generation.leave { s' with types := s'.types ++ [.union u] } name s'.types.length f)
    where
  length := Nat.le_trans h.length (by simp [Generation.leave])
  inProgress := by
    show s'.inProgress.filter (· != f.location) = s.inProgress
    rw [h.inProgress]
    show (f.location :: s.inProgress).filter (· != f.location) = s.inProgress
    rw [List.filter_cons_of_neg (by simp), List.filter_eq_self.2]
    exact fun l hl => bne_iff_ne.2 fun he => hfree (he ▸ hl)
  kept {l id} hl := by
    refine (Entries.get?_set ..).trans ((if_neg ?_).trans (h.kept hl))
    rintro rfl
    cases hnone.symm.trans hl
  around {l} hl := by
    refine (Entries.get?_set ..).trans ((if_neg ?_).trans (h.around (List.mem_cons_of_mem _ hl)))
    rintro rfl
    exact hfree hl
  new {l id} hl := by
    change Entries.get? (Entries.set s'.unions f.location s'.types.length) l = _ at hl
    rw [Entries.get?_set] at hl
    split at hl
    · cases hl
      exact .inr h.length
    · exact h.new hl
  listed {id u'} hu := by
    by_cases hid : id < s'.types.length
    · have hu : s'.types.union? id = some u' := by
        rw [Types.union?_eq_some] at hu ⊢
        exact (List.getElem?_append_left hid).symm.trans hu
      refine (h.listed hu).imp_right fun ⟨l, hl⟩ => ⟨l, ?_⟩
      -- Nothing was kept in between for the place itself.
      refine (Entries.get?_set ..).trans ((if_neg ?_).trans hl)
      rintro rfl
      rw [h.around List.mem_cons_self] at hl
      cases hnone.symm.trans hl
    · refine .inr ⟨f.location, (Entries.get?_set ..).trans ((if_pos rfl).trans ?_)⟩
      have hlast : id < s'.types.length + 1 := by
        simpa [Generation.leave] using Types.lt_length_of_union? hu
      exact congrArg some (Nat.le_antisymm (Nat.not_lt.1 hid) (Nat.lt_succ_iff.1 hlast))
  nodup hn := Entries.nodup_keys_set (h.nodup hn) _ _

/-- The making of unions keeps the balance. -/
theorem balanced_ofUnions (mode : Mode) : OfUnions mode Balanced where
  trans := Balanced.trans
  quiet {s s'} hu hp hlen ht :=
    ⟨hlen, hp, fun hl => hu ▸ hl, fun _ => by rw [hu], fun hl => .inl (hu ▸ hl),
      fun {id u} hid => .inl (ht id ▸ hid), fun hn => hu ▸ hn⟩
  union hnone hfree h _ := h.leave hnone hfree

/-- The union that a generation gives is kept for the place where the references end. -/
theorem exists_kept_of_generate {base : String} {id : TypeId}
    (h : (generate mode base f).run s = (.ok id, s')) :
    ∃ t, LeadsTo s.store.view f t ∧ Entries.get? s'.unions t.location = some id := by
  have hrun := run_unionOf_of_generate h
  obtain ⟨t, hlead, hkept | ⟨name, variants, t', hdrafts⟩⟩ := exists_drafts_of_unionOf hrun
  · exact ⟨t, hlead, ((balanced_ofUnions mode).carriesOver_generate base f s id s' h).kept hkept⟩
  · rw [hdrafts.run_unionOf] at hrun
    split at hrun
    · split at hrun
      · cases hrun
        exact ⟨t, hlead, (Entries.get?_set ..).trans (if_pos rfl)⟩
      · cases hrun
    · cases hrun

/-! ## Documents -/

/-- When unions are generated for fragments in turn, there is one in the end for each of them. -/
theorem gathered_of_generateEach {choices : List (String × Fragment)}
    (h : (generateEach mode choices).run s = (.ok (), s'))
    (hchoices : ∀ p ∈ choices, Searches root p.2 ∧ p.2.hasOneOf = true)
    (hs : Gathered view root first s) :
    Gathered view root first s' ∧ Balanced s s' ∧
      ∀ p ∈ choices, ∃ t id, LeadsTo view p.2 t ∧ Entries.get? s'.unions t.location = some id := by
  induction choices generalizing s with
  | nil =>
    obtain ⟨-, rfl⟩ := of_run_pure h
    exact ⟨hs, (balanced_ofUnions mode).outward.refl s, fun _ hp => nomatch hp⟩
  | cons p rest ih =>
    obtain ⟨name, f⟩ := p
    obtain ⟨⟨hsearch, hone⟩, hrest⟩ := List.forall_mem_cons.1 hchoices
    obtain ⟨id, s₁, hfirst, h⟩ := exists_of_run_bind h
    have hbalanced : Balanced s s₁ :=
      (balanced_ofUnions mode).carriesOver_generate name f s id s₁ hfirst
    have hs₁ := ((gatheringRegime mode view root first).obeys_generation name (f := f) trivial
      (fun _ _ => trivial) (fun _ _ _ _ _ => trivial)
      (fun t _ hlead _ _ _ => .found hsearch hone hlead) hs).1
    rw [run_unionOf_of_generate hfirst] at hs₁
    obtain ⟨hs', hbalanced', hall⟩ := ih h hrest hs₁
    refine ⟨hs', hbalanced.trans hbalanced', List.forall_mem_cons.2 ⟨?_, hall⟩⟩
    obtain ⟨t, hlead, hkept⟩ := exists_kept_of_generate hfirst
    exact ⟨t, id, hs.documents ▸ hlead, hbalanced'.kept hkept⟩

/-- Some types are the unions of all choices that are due in a document, one for each place.  The
types from `first` on are those that were made for it. -/
structure Gathers (view : String → Fetch) (root : Fragment) (first : Nat) (ids : List TypeId)
    (types : Types) : Prop where
  /-- They come from different places. -/
  sources : (ids.map fun id => (types.union? id).bind UnionType.source).Nodup
  /-- Every choice that is found has its union among them. -/
  found : ∀ g, Searches root g → g.hasOneOf = true → ∃ t id u, LeadsTo view g t ∧ id ∈ ids ∧
    types.union? id = some u ∧ u.source = some t.location
  /-- Each of them is made for a choice that is due. -/
  due : ∀ id ∈ ids, ∃ u t, types.union? id = some u ∧ Due view root .union t ∧
    u.MadeFor types view t
  /-- They are all the unions that were made. -/
  once : ∀ id u, types.union? id = some u → (id ∈ ids ↔ first ≤ id)

/-- The unions that are kept in the end are those of all choices that are due. -/
theorem Gathered.gathers {start : Generation} (hs : Gathered view root first s)
    (hbalanced : Balanced start s) (hstart : start.unions = []) (hfirst : start.types.length = first)
    (hfound : ∀ g, Searches root g → g.hasOneOf = true → ∃ t id, LeadsTo view g t ∧
      Entries.get? s.unions t.location = some id) :
    Gathers view root first (s.unions.map Prod.snd) s.types := by
  subst hfirst
  have hnodup : (Entries.keys s.unions).Nodup := hbalanced.nodup (by rw [hstart]; exact .nil)
  have hnew {l : String} {id : TypeId} (hget : Entries.get? s.unions l = some id) :
      start.types.length ≤ id := by
    refine (hbalanced.new hget).resolve_left fun hold => ?_
    rw [hstart] at hold
    cases hold
  have hmade {l : String} {id : TypeId} (hget : Entries.get? s.unions l = some id) :
      ∃ u t, s.types.union? id = some u ∧ Due view root .union t ∧ t.location = l ∧
        u.MadeFor s.types view t :=
    (hs.unions l id hget).resolve_left (Nat.not_lt.2 (hnew hget))
  have hlisted {l : String} {id : TypeId} (hget : Entries.get? s.unions l = some id) :
      id ∈ s.unions.map Prod.snd :=
    List.mem_map.2 ⟨(l, id), Entries.mem_of_get? hget, rfl⟩
  have hplace {id : TypeId} (hid : id ∈ s.unions.map Prod.snd) :
      ∃ l, Entries.get? s.unions l = some id := by
    obtain ⟨⟨l, id'⟩, hmem, rfl⟩ := List.mem_map.1 hid
    exact ⟨l, Entries.get?_of_mem hnodup hmem⟩
  refine ⟨?_, fun g hsearch hone => ?_, fun id hid => ?_, fun id u hu => ⟨fun hid => ?_, fun hid => ?_⟩⟩
  · have hsources : (s.unions.map Prod.snd).map (fun id =>
        (s.types.union? id).bind UnionType.source) = (Entries.keys s.unions).map some := by
      rw [List.map_map, Entries.keys, List.map_map]
      refine List.map_congr_left fun p hp => ?_
      have hget : Entries.get? s.unions p.1 = some p.2 := Entries.get?_of_mem hnodup hp
      obtain ⟨u, t, hu, -, hl, hm⟩ := hmade hget
      simp only [Function.comp_apply, hu, Option.bind_some, hm.source, hl]
    rw [hsources]
    exact hnodup.map (Option.some_injective _)
  · obtain ⟨t, id, hlead, hget⟩ := hfound g hsearch hone
    obtain ⟨u, t', hu, -, hl, hm⟩ := hmade hget
    exact ⟨t, id, u, hlead, hlisted hget, hu, hl ▸ hm.source⟩
  · obtain ⟨l, hget⟩ := hplace hid
    obtain ⟨u, t, hu, hdue, -, hm⟩ := hmade hget
    exact ⟨u, t, hu, hdue, hm⟩
  · obtain ⟨l, hget⟩ := hplace hid
    exact hnew hget
  · rcases hbalanced.listed hu with hold | ⟨l, hget⟩
    · exact absurd (Types.lt_length_of_union? hold) (Nat.not_lt.2 hid)
    · exact hlisted hget

/-- A generation that starts over has nothing remembered but what is founded. -/
theorem Session.gathered (h : Session past s) (store : Store) (root : Fragment) :
    Gathered store.view root s.types.length { store, names := s.names, types := s.types } where
  documents := rfl
  models l content id hget := by
    cases h.keeps.compiled l content _ hget with
    | model hm _ hc hd => exact ⟨_, _, hm, hc, hd⟩
  compiled l content id hget := by
    cases h.keeps.compiled l content _ hget with
    | union hu _ _ _ _ => exact .inl (Types.lt_length_of_union? hu)
  unions _ _ hget := nomatch hget

/-- When the unions of a document are generated, on the names and types of any session, they come
from different places, and no union is made besides them.  Every choice that is found by searching
the document has its union among them, that of the place where its references end, and each of them
is made for a choice that is found, or met while the branches of others are compiled.  The place
tells the choice, as long as the objects in documents have no key twice and the URI of the document
has no hash. -/
theorem allUnions_gathers (h : Session past s) (store : Store) (config : Config) {uri : String}
    {ids : List TypeId} (hrun : (allUnions config uri).run
      { store, names := s.names, types := s.types } = (.ok ids, s')) :
    ∃ root, store.view uri = .content root ∧
      Gathers store.view ⟨root, uri, ""⟩ s.types.length ids s'.types ∧
      ((∀ uri j, store.view uri = .content j → j.hasDistinctKeys = true) → '#' ∉ uri.toList →
        ∀ t t', Due store.view ⟨root, uri, ""⟩ .union t → Due store.view ⟨root, uri, ""⟩ .union t' →
          t.location = t'.location → t = t') := by
  obtain ⟨root, s₁, hload, hrun⟩ := exists_of_run_bind hrun
  obtain ⟨_, s₂, heach, hrun⟩ := exists_of_run_bind hrun
  obtain ⟨_, _, hget, hrun⟩ := exists_of_run_bind hrun
  cases hget
  obtain ⟨rfl, rfl⟩ := of_run_pure hrun
  rw [Generating.run_onStore] at hload
  obtain ⟨hroot, rfl⟩ := Prod.mk.inj hload
  obtain ⟨hdocument, hview⟩ := run_document uri store
  have hcontent : store.view uri = .content root := by
    rw [hdocument] at hroot
    split at hroot
    · rename_i hj
      cases hroot
      exact hj
    · cases hroot
    · cases hroot
  refine ⟨root, hcontent, ?_, fun hkeys huri t t' ht ht' hl => ?_⟩
  · have hstart := h.gathered ((Store.document uri).run store).2 ⟨root, uri, ""⟩
    rw [hview] at hstart
    obtain ⟨hs, hbalanced, hall⟩ := gathered_of_generateEach heach
      (fun p hp => exists_mem_choices_iff.1 ⟨p.1, hp⟩) hstart
    refine hs.gathers hbalanced rfl rfl fun g hsearch hone => ?_
    obtain ⟨name, hmem⟩ := exists_mem_choices_iff.2 ⟨hsearch, hone⟩
    exact hall _ hmem
  · have hplaced : Fragment.Placed store.view ⟨root, uri, ""⟩ := ⟨huri, root, [], hcontent, rfl⟩
    exact (ht.placed hkeys hplaced).eq_of_location (ht'.placed hkeys hplaced) hl

/-! ### A choice that is found and met -/

/-- An object with a property. -/
def holderOf (property : String) (content : Json) : Json :=
  .obj [("type", .str "object"), ("properties", .obj [(property, content)])]

/-- A choice of homes.  One holds a pet, which is a choice among the definitions, and the other a
toy, which is a choice that the search does not find. -/
def homesDocument : Json :=
  .obj [("title", .str "home"),
    ("oneOf", .arr [holderOf "pet" (.obj [("$ref", .str "#/definitions/pet")]),
      holderOf "toy" (.obj [("oneOf", .arr [holderOf "ball" (.obj [("type", .str "string")])])])]),
    ("definitions", .obj [("pet", .obj [("oneOf", .arr [
      holderOf "name" (.obj [("type", .str "string")])])])])]

/-- The store with the document. -/
def homesStore : Store := (Store.empty fun _ => .unavailable "").add "memory:///s.json" homesDocument

/-- There are three unions: the pet and the toy are generated while the homes are compiled, and the
pet is not generated again when it is found. -/
theorem allUnions_gathers_homes : ∃ ids s', (allUnions {} "memory:///s.json").run
      { store := homesStore } = (.ok ids, s') ∧
    ids.map s'.types.nameOf = ["Pet", "Toy", "Home"] ∧
    ∃ root, homesStore.view "memory:///s.json" = .content root ∧
      Gathers homesStore.view ⟨root, "memory:///s.json", ""⟩ 0 ids s'.types := by
  have htest : (match (allUnions {} "memory:///s.json").run { store := homesStore } with
      | (.ok ids, s') => decide (ids.map s'.types.nameOf = ["Pet", "Toy", "Home"])
      | (.error _, _) => false) = true := by
    decide +kernel
  rcases hrun : (allUnions {} "memory:///s.json").run { store := homesStore } with ⟨e | ids, s'⟩ <;>
    rw [hrun] at htest
  · cases htest
  · obtain ⟨root, hroot, hgathers, -⟩ := allUnions_gathers (.fresh homesStore) homesStore {} hrun
    exact ⟨ids, s', rfl, of_decide_eq_true htest, root, hroot, hgathers⟩

end ShapeSum
