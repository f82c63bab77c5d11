import ShapeSum.Proofs.Generation.Closing
import ShapeSum.Proofs.Generation.Keeping
import ShapeSum.Proofs.Generation.Obeying
import ShapeSum.Proofs.Types.Resemblance

/-!
# The types that a compilation assigns

A compilation assigns a type to the fragment of each property.  `Assigned` says which one,
as a relation between fragments and types: literals get the type of the literals, a list of
JSON types the options for each of them, a fragment with branches a union, and one that
describes objects a model, or a name while it is being compiled.

A model *realizes* a fragment when it has a field for each property, with a type assigned
to it, where names may have been resolved since.  Every model of a session realizes a
fragment by the documents of some step (`TidySession.realizing`), and the model that a
compilation makes realizes the fragment that was asked for (`realizes_of_compileModel`).
-/

namespace ShapeSum

variable {mode : Mode} {view : String → Fetch} {root f t : Fragment} {types types' : Types}

/-! ## Assigned types -/

/-- A fragment in reach of a root that describes objects is at a location, so a compilation may be
inside of it. -/
def ObjectAt (view : String → Fetch) (root : Fragment) (location : String) : Prop :=
  ∃ g, Reaches view root g ∧ g.isObject = true ∧ g.location = location

mutual

/-- The types that are assigned to a fragment, after following its references. -/
inductive Assigned (view : String → Fetch) (root : Fragment) : Fragment → FieldType → Prop
  | leads {f t : Fragment} {type : FieldType} : LeadsTo view f t →
      AssignedAt view root t type → Assigned view root f type

/-- The types that are assigned to a fragment that is no reference. -/
inductive AssignedAt (view : String → Fetch) (root : Fragment) : Fragment → FieldType → Prop
  /-- The name of what is being compiled at the location. -/
  | back {t : Fragment} {name : String} : ObjectAt view root t.location →
      AssignedAt view root t (.named name)
  /-- A model, if objects are described. -/
  | model {t : Fragment} {id : TypeId} : t.isObject = true → AssignedAt view root t (.model id)
  /-- A union, if there are branches. -/
  | union {t : Fragment} {id : TypeId} : t.hasOneOf = true → AssignedAt view root t (.union id)
  /-- Everything, where unions are not generated for properties. -/
  | anyBranch {t : Fragment} : t.hasOneOf = true → AssignedAt view root t .any
  /-- The literals, if there are any. -/
  | literal {t : Fragment} {values : List Literal} : t.hasOneOf = false →
      literals? t = some values → AssignedAt view root t (.literal values)
  /-- Everything, where nothing is declared. -/
  | untyped {t : Fragment} : t.IsTyped → t.declared = [] → AssignedAt view root t .any
  /-- The types for the JSON types that are declared. -/
  | options {t : Fragment} {ts : List FieldType} : t.IsTyped → t.declared ≠ [] →
      AssignedAll view root t t.declared ts → AssignedAt view root t (.ofOptions ts)

/-- The types that are assigned to a fragment by some JSON types in turn. -/
inductive AssignedAll (view : String → Fetch) (root : Fragment) :
    Fragment → List String → List FieldType → Prop
  | nil {t : Fragment} : AssignedAll view root t [] []
  | cons {t : Fragment} {jsonType : String} {jsonTypes : List String} {type : FieldType}
      {ts : List FieldType} : AssignedAs view root t jsonType type →
      AssignedAll view root t jsonTypes ts →
      AssignedAll view root t (jsonType :: jsonTypes) (type :: ts)

/-- The types that are assigned to a fragment by one of its JSON types. -/
inductive AssignedAs (view : String → Fetch) (root : Fragment) :
    Fragment → String → FieldType → Prop
  /-- A type of scalars, or that of everything if the JSON type is not known. -/
  | plain {t : Fragment} {jsonType : String} : jsonType ≠ "object" → jsonType ≠ "array" →
      AssignedAs view root t jsonType (plainType jsonType)
  /-- Lists of what is assigned to the items. -/
  | items {t : Fragment} {ms : List (String × Json)} {item type : FieldType} :
      t.get? "items" = some (.obj ms) → Assigned view root (t.part "items" (.obj ms)) item →
      type.ListOf item → AssignedAs view root t "array" type
  /-- Lists of anything, if no object says what the items are. -/
  | anyItems {t : Fragment} {type : FieldType} : (∀ ms, t.get? "items" ≠ some (.obj ms)) →
      type.ListOf .any → AssignedAs view root t "array" type
  /-- Plain objects, if there are no properties. -/
  | object {t : Fragment} : t.properties = [] → AssignedAs view root t "object" .object
  /-- What was generated for the fragment. -/
  | generated {t : Fragment} {h : Handle} : h ≠ .reserved → AssignedAt view root t h.fieldType →
      AssignedAs view root t "object" h.fieldType

end

theorem assignedAll_of_forall₂ {jsonTypes : List String} {ts : List FieldType}
    (h : List.Forall₂ (AssignedAs view root t) jsonTypes ts) :
    AssignedAll view root t jsonTypes ts := by
  induction h with
  | nil => exact .nil
  | cons hu _ ih => exact .cons hu ih

theorem AssignedAll.exists_assignedAs {jsonTypes : List String} {ts : List FieldType}
    (h : AssignedAll view root t jsonTypes ts) {type : FieldType} (ht : type ∈ ts) :
    ∃ jsonType ∈ jsonTypes, AssignedAs view root t jsonType type := by
  induction ts generalizing jsonTypes with
  | nil => cases ht
  | cons u us ih =>
    cases h with
    | cons hu hus =>
      rcases List.mem_cons.1 ht with rfl | ht
      · exact ⟨_, List.mem_cons_self, hu⟩
      · obtain ⟨j, hj, h⟩ := ih hus ht
        exact ⟨j, List.mem_cons_of_mem _ hj, h⟩

/-! ## Models -/

/-- A field with the names in its type resolved. -/
def Field.resolve (lookup : String → Option FieldType) (field : Field) : Field :=
  { field with type := field.type.resolve lookup }

/-- Names in the types of fields were resolved, perhaps several times, and stand for no arrays. -/
inductive FieldsResolved (fields : List Field) : List Field → Prop
  /-- Nothing was resolved. -/
  | refl : FieldsResolved fields fields
  /-- Names were resolved once more. -/
  | resolve {fields' : List Field} {lookup : String → Option FieldType} :
      FieldsResolved fields fields' → FieldType.Scalar lookup →
      FieldsResolved fields (fields'.map (Field.resolve lookup))

theorem FieldsResolved.trans {fields fields' fields'' : List Field}
    (h : FieldsResolved fields fields') (h' : FieldsResolved fields' fields'') :
    FieldsResolved fields fields'' := by
  induction h' with
  | refl => exact h
  | resolve _ hscalar ih => exact ih.resolve hscalar

/-- A model realizes a fragment in reach of a root: it has a field for each property, with a type
that is assigned to the property's fragment, and names in the types may have been resolved. -/
structure Model.Realizes (m : Model) (view : String → Fetch) (root f : Fragment) : Prop where
  /-- The fragment is in reach. -/
  reaches : Reaches view root f
  /-- There are fields with assigned types. -/
  fields : ∃ required fields, requiredNames f = .ok required ∧
    List.Forall₂ (FieldFor (fun g r => Assigned view root g r.1) required) f.properties fields ∧
    FieldsResolved fields m.fields

/-- Models are kept, and at most names in them are resolved. -/
def Types.Resolves (types types' : Types) : Prop :=
  ∀ id m, types.model? id = some m →
    ∃ m', types'.model? id = some m' ∧ FieldsResolved m.fields m'.fields

theorem Model.Realizes.resolved {m m' : Model} (h : m.Realizes view root f)
    (hm : FieldsResolved m.fields m'.fields) : m'.Realizes view root f := by
  obtain ⟨hreach, required, fields, hrequired, hfields, hresolved⟩ := h
  exact ⟨hreach, required, fields, hrequired, hfields, hresolved.trans hm⟩

theorem Types.resolves_refl (types : Types) : types.Resolves types :=
  fun _ m hm => ⟨m, hm, .refl⟩

theorem Types.Resolves.trans {types'' : Types} (h : types.Resolves types')
    (h' : types'.Resolves types'') : types.Resolves types'' := by
  intro id m hm
  obtain ⟨m', hm', hresolved⟩ := h id m hm
  obtain ⟨m'', hm'', hresolved'⟩ := h' id m' hm'
  exact ⟨m'', hm'', hresolved.trans hresolved'⟩

theorem Types.resolves_append (types : Types) (d : TypeDef) : types.Resolves (types ++ [d]) := by
  intro id m hm
  refine ⟨m, ?_, .refl⟩
  rw [Types.model?_eq_some] at hm ⊢
  exact (List.getElem?_append_left (List.getElem?_eq_some_iff.1 hm).1).trans hm

theorem fieldsResolved_of_settle {names : Namespace} {m m' : Model}
    (h : m.settle names = .ok m') : FieldsResolved m.fields m'.fields := by
  rw [Model.eq_of_settle h]
  exact .resolve .refl (scalar_typeNamed names)

theorem Types.resolves_settle {names : Namespace} {id : TypeId} {m m' : Model}
    (hm : types.model? id = some m) (h : m.settle names = .ok m') :
    types.Resolves (types.set id (.model m')) := by
  intro id' n hn
  rw [Types.model?_set hm]
  split
  · rename_i he
    subst he
    cases hm.symm.trans hn
    exact ⟨m', rfl, fieldsResolved_of_settle h⟩
  · exact ⟨n, hn, .refl⟩

/-- The model that is made of assigned types realizes the fragment. -/
theorem realizes_of_finishFields {name : String} {id : TypeId} {required : List String}
    {fields fields' : List Field} {frozen : Bool} (hreach : Reaches view root f)
    (hrequired : requiredNames f = .ok required)
    (hfields : List.Forall₂ (FieldFor (Suited view fun t r => AssignedAt view root t r.1) required)
      f.properties fields) (hfinish : finishFields name id fields = .ok fields') :
    Model.Realizes ⟨name, fields', frozen⟩ view root f := by
  have hassigned (g : Fragment) (r : FieldType × Bool)
      (hr : Suited view (fun t r => AssignedAt view root t r.1) g r) :
      Assigned view root g r.1 := by
    obtain ⟨t, hlead, hassigned⟩ := hr
    exact .leads hlead hassigned
  have hresolved : FieldsResolved fields fields' := by
    rw [eq_of_finishFields hfinish]
    exact .resolve .refl (scalar_ownType name id)
  exact ⟨hreach, required, fields, hrequired, hfields.imp fun _ _ h => h.imp hassigned, hresolved⟩

/-! ## The regime -/

/-- In every content in reach no key comes twice. -/
def TidySchema (view : String → Fetch) (f : Fragment) : Prop :=
  ∀ g, Reaches view f g → g.content.hasDistinctKeys = true

/-- A type is remembered for a location and a content with good reason: a model realizes a fragment
there of this content, by the documents of some step, and a union comes of branches. -/
inductive Rooted (past : List (String → Fetch)) (types : Types) (location : String)
    (content : Json) : Handle → Prop
  /-- A model. -/
  | model {id : TypeId} {m : Model} {g root : Fragment} {view : String → Fetch} :
      types.model? id = some m → view ∈ past → g.location = location → g.content = content →
      g.isObject = true → m.Realizes view root g → Rooted past types location content (.model id)
  /-- A union. -/
  | union {id : TypeId} : (content.get? "oneOf").isSome = true →
      Rooted past types location content (.union id)

/-- Every model realizes a fragment by the documents of some step. -/
def Types.Realized (past : List (String → Fetch)) (types : Types) : Prop :=
  ∀ m, .model m ∈ types → ∃ view ∈ past, ∃ root f, m.Realizes view root f

/-- All models realize fragments, and what is remembered has good reason.  The models that there
were at some time are kept. -/
structure Realizing (past : List (String → Fetch)) (view : String → Fetch) (before : Types)
    (s : Generation) : Prop where
  /-- These documents can be had. -/
  view : s.store.view = view
  /-- The models from before are kept. -/
  kept : before.Resolves s.types
  /-- All models realize fragments. -/
  models : s.types.Realized past
  /-- The types of compiled fragments. -/
  compiled : ∀ location content h, Entries.get? s.names.compiled location = some (content, h) →
    content.hasDistinctKeys = true ∧ Rooted past s.types location content h

/-- Only fragments in reach that describe objects are being compiled. -/
def MarksObjects (view : String → Fetch) (root : Fragment) (s : Generation) : Prop :=
  ∀ l, Entries.has s.pending l = true → ObjectAt view root l

/-- No marks are added, and models are kept. -/
structure Develops (s s' : Generation) : Prop where
  marks : MarksNoMore s s'
  types : s.types.Resolves s'.types

section Steps

variable {past past' : List (String → Fetch)} {before : Types} {s s' : Generation}

theorem MarksObjects.develops (h : MarksObjects view root s) (hafter : Develops s s') :
    MarksObjects view root s' := by
  intro l hl
  refine h l ?_
  cases hfree : Entries.has s.pending l with
  | true => rfl
  | false => rw [hafter.marks l hfree] at hl; cases hl

theorem MarksObjects.mark (h : MarksObjects view root s) (hf : Reaches view root f)
    (hobject : f.isObject = true) (name : String) :
    MarksObjects view root (s.mark f.location name) := by
  intro l hl
  rcases (has_mark s f.location name l).1 hl with rfl | hl
  · exact ⟨f, hf, hobject, rfl⟩
  · exact h l hl

theorem Rooted.resolves {location : String} {content : Json} {h : Handle}
    (hr : Rooted past types location content h) (htypes : types.Resolves types') :
    Rooted past types' location content h := by
  cases hr with
  | model hm hv hl hc ho hrealizes =>
    obtain ⟨m', hm', hresolved⟩ := htypes _ _ hm
    exact .model hm' hv hl hc ho (hrealizes.resolved hresolved)
  | union honeOf => exact .union honeOf

theorem Rooted.mono {location : String} {content : Json} {h : Handle}
    (hr : Rooted past types location content h) (hp : past ⊆ past') :
    Rooted past' types location content h := by
  cases hr with
  | model hm hv hl hc ho hrealizes => exact .model hm (hp hv) hl hc ho hrealizes
  | union honeOf => exact .union honeOf

namespace Realizing

theorem mono (h : Realizing past view before s) (hp : past ⊆ past') :
    Realizing past' view before s := by
  refine ⟨h.view, h.kept, fun m hm => ?_, fun l c hd hg => ?_⟩
  · obtain ⟨v, hv, hrealizes⟩ := h.models m hm
    exact ⟨v, hp hv, hrealizes⟩
  · obtain ⟨hkeys, hrooted⟩ := h.compiled l c hd hg
    exact ⟨hkeys, hrooted.mono hp⟩

/-- What is neither documents, names nor types does not matter. -/
theorem of_eq (h : Realizing past view before s) (hview : s'.store.view = s.store.view)
    (hnames : s'.names = s.names) (htypes : s'.types = s.types) : Realizing past view before s' :=
  ⟨hview.trans h.view, htypes ▸ h.kept, htypes ▸ h.models, by
    rw [hnames, htypes]
    exact h.compiled⟩

/-- Types may develop, as long as all models realize fragments. -/
theorem develop (h : Realizing past view before s) (htypes : s.types.Resolves types)
    (hmodels : types.Realized past) : Realizing past view before { s with types } :=
  ⟨h.view, h.kept.trans htypes, hmodels, fun l c hd hg =>
    ⟨(h.compiled l c hd hg).1, (h.compiled l c hd hg).2.resolves htypes⟩⟩

/-- A type is put down for a fragment. -/
theorem put (h : Realizing past view before s) {name : String} {handle : Handle} {f : Fragment}
    (hkeys : f.content.hasDistinctKeys = true)
    (hrooted : Rooted past s.types f.location f.content handle) :
    Realizing past view before (s.put name handle (some f)) := by
  refine ⟨h.view, h.kept, h.models, fun l c hd hg => ?_⟩
  change Entries.get? (Entries.set s.names.compiled f.location (f.content, handle)) l = _ at hg
  rw [Entries.get?_set] at hg
  split at hg
  · rename_i hl
    cases hg
    exact ⟨hkeys, hl ▸ hrooted⟩
  · exact h.compiled l c hd hg

/-- A type that is remembered for a fragment is so with good reason, for equal content. -/
theorem exists_rooted (hs : Realizing past view before s) {h : Handle}
    (hh : s.names.typeOf? t = some h) :
    ∃ content, content.sameContent t.content = true ∧ content.hasDistinctKeys = true ∧
      Rooted past s.types t.location content h := by
  unfold Namespace.typeOf? at hh
  split at hh
  · cases hh
  · rename_i content handle _ hget
    split at hh
    · rename_i hsame
      cases hh
      exact ⟨content, hsame, hs.compiled _ _ _ hget⟩
    · cases hh
  · cases hh

/-- A type that is remembered for a fragment is assigned to it. -/
theorem assignedAt (hs : Realizing past view before s) {h : Handle}
    (hh : s.names.typeOf? t = some h) : AssignedAt view root t h.fieldType := by
  obtain ⟨content, hsame, hkeys, hrooted⟩ := hs.exists_rooted hh
  cases hrooted with
  | model _ _ _ hc ho _ =>
    subst hc
    exact .model ((isObject_of_sameContent hsame hkeys).symm.trans ho)
  | union honeOf =>
    have hsome := isSome_get?_of_sameContent (g := ⟨content, "", ""⟩) hsame hkeys "oneOf"
    exact .union (hsome.symm.trans honeOf)

end Realizing

/-- All that is assigned is what `Assigned` says, and what is made of a fragment realizes it. -/
def realizingRegime (mode : Mode) (before : Types) (hview : view ∈ past)
    (htidy : TidySchema view root) : Regime mode view where
  Known g := Reaches view root g
  Good := Realizing past view before
  After _ := Develops
  Err _ := True
  New _ := True
  May _ s _ := MarksObjects view root s
  MayCompile _ s _ := MarksObjects view root s
  MayBranch _ s _ := MarksObjects view root s
  Fit _ t r := AssignedAt view root t r.1
  FitAs _ t jsonType r := AssignedAs view root t jsonType r.1
  Made types g id := g.isObject = true ∧ ∃ m, types.model? id = some m ∧ m.Realizes view root g
  known_part := Reaches.part
  known_leads := Reaches.leads
  new _ _ _ := trivial
  failure _ := trivial
  unresolved _ _ := trivial
  tooDeep _ := trivial
  recursive _ _ _ _ _ := trivial
  view_eq h := h.view
  after_refl _ s := ⟨.refl s, Types.resolves_refl _⟩
  after_trans h h' := ⟨h.marks.trans h'.marks, h.types.trans h'.types⟩
  after_of_strict h := h
  pending_after h := h.marks _
  may_after _ := MarksObjects.develops
  mayCompile_after := MarksObjects.develops
  mayBranch_after := MarksObjects.develops
  fit_after _ h := h
  fitAs_after _ h := h
  made_after := by
    rintro s s' g id hafter ⟨ho, m, hm, hrealizes⟩
    obtain ⟨m', hm', hresolved⟩ := hafter.types id m hm
    exact ⟨ho, m', hm', hrealizes.resolved hresolved⟩
  may_item h _ _ _ _ _ := h
  may_object h _ _ _ _ := h
  may_property h ht ho _ := MarksObjects.mark h ht ho _
  may_union h _ _ _ _ _ := h
  may_branch h _ _ _ := h
  aside hs h := ⟨hs.of_eq h.view h.names h.types, .of_eq h.pending, h.types ▸ Types.resolves_refl _⟩
  refer hs _ _ := ⟨hs.of_eq rfl rfl rfl, .of_eq rfl, Types.resolves_refl _⟩
  mark _ _ hs := hs.of_eq rfl rfl rfl
  unmark _ hs := hs.of_eq rfl rfl rfl
  unmark_after _ _ _ h := ⟨h.marks.unmark, h.types⟩
  enter _ hs := hs.of_eq rfl rfl rfl
  leave := by
    intro _ s s' g name id hs hg _ honeOf _ _ _ _ h
    have hput : Realizing past view before (s'.put name (.union id) (some g)) :=
      hs.put (htidy g hg) (.union honeOf)
    exact ⟨hput.of_eq rfl rfl rfl, h.marks, h.types⟩
  reserve _ hs := ⟨⟨hs.view, hs.kept, hs.models, hs.compiled⟩, .of_eq rfl, Types.resolves_refl _⟩
  declare := by
    rintro s g id name hs hg - ⟨ho, m, hm, hrealizes⟩
    exact ⟨hs.put (htidy g hg) (.model hm hview rfl rfl ho hrealizes), .of_eq rfl,
      Types.resolves_refl _⟩
  model := by
    intro s g name required fields fields' hs hg ho hrequired hfields _ hfinish
    have htypes := Types.resolves_append s.types
      (.model ⟨name, fields', mode.config.frozenPayloads⟩)
    have hrealizes : Model.Realizes ⟨name, fields', mode.config.frozenPayloads⟩ view root g :=
      realizes_of_finishFields hg hrequired hfields hfinish
    have hlast : Types.model? (s.types ++ [.model ⟨name, fields', mode.config.frozenPayloads⟩])
        s.types.length = some ⟨name, fields', mode.config.frozenPayloads⟩ := by
      rw [Types.model?, List.getElem?_concat_length]
    refine ⟨hs.develop htypes fun m hm => ?_, ⟨.of_eq rfl, htypes⟩, ho, _, hlast, hrealizes⟩
    rcases List.mem_append.1 hm with hm | hm
    · exact hs.models m hm
    · cases List.mem_singleton.1 hm
      exact ⟨view, hview, root, g, hrealizes⟩
  settle := by
    intro s id m m' hs _ hm hsettle
    have htypes := Types.resolves_settle hm hsettle
    refine ⟨hs.develop htypes fun n hn => ?_, .of_eq rfl, htypes⟩
    rcases List.mem_or_eq_of_mem_set hn with hn | hn
    · exact hs.models n hn
    · cases hn
      obtain ⟨v, hv, r, g, hrealizes⟩ := hs.models m (Types.mem_of_model? hm)
      exact ⟨v, hv, r, g, hrealizes.resolved (fieldsResolved_of_settle hsettle)⟩
  union := by
    intro s g name u hs _ honeOf _ _
    have htypes := Types.resolves_append s.types (.union u)
    refine ⟨hs.develop htypes fun m hm => ?_, ⟨.of_eq rfl, htypes⟩, .union honeOf⟩
    rcases List.mem_append.1 hm with hm | hm
    · exact hs.models m hm
    · cases List.mem_singleton.1 hm
  fit_made h := .model h.1
  back hs hmay hg hlead hpending := by
    refine .back (hmay _ ?_)
    rw [Entries.has, hpending]
    rfl
  cached hs _ hh := hs.assignedAt hh
  kept _ _ honeOf _ := .union honeOf
  fit_literal := .literal
  fit_anyBranch honeOf _ := .anyBranch honeOf
  fit_untyped := .untyped
  fit_options _ ht hd hrs :=
    .options ht hd (assignedAll_of_forall₂ (List.forall₂_map_right_iff.2 hrs))
  fitAs_plain _ _ hobject harray := .plain hobject harray
  fitAs_array := by
    intro types t item isBack _ _ hitem
    have hlist : (if mode.config.frozenPayloads then FieldType.tuple item else .list item).ListOf
        item := by
      split
      · exact .tuple
      · exact .list
    unfold ItemFor at hitem
    split at hitem
    · rename_i ms hget
      obtain ⟨u, hlead, hassigned⟩ := hitem
      exact .items hget (.leads hlead hassigned) hlist
    · rename_i hno
      cases hitem
      exact .anyItems hno hlist
  fitAs_object _ _ h := .object (List.isEmpty_iff.1 h)
  fitAs_handle _ _ hh hassigned := .generated hh hassigned

/-! ## Sessions -/

/-- The states of a session on one namespace by tidy schemas, with the documents that could be had
at each step so far. -/
inductive TidySession : List (String → Fetch) → Generation → Prop
  /-- Nothing was done yet. -/
  | fresh (store : Store) : TidySession [store.view] { store }
  /-- A generation starts over on the names and types that are there. -/
  | anew {past : List (String → Fetch)} {s : Generation} (store : Store) : TidySession past s →
      TidySession (store.view :: past) { store, names := s.names, types := s.types }
  /-- Documents are added or loaded. -/
  | stored {past : List (String → Fetch)} {s : Generation} (store : Store) : TidySession past s →
      TidySession (store.view :: past) { s with store }
  /-- Names are declared by hand or forgotten, but none for a fragment. -/
  | renamed {past : List (String → Fetch)} {s : Generation} (names : Namespace) :
      (∀ l e, Entries.get? names.compiled l = some e → Entries.get? s.names.compiled l = some e) →
      TidySession past s → TidySession past { s with names }
  /-- A union is generated, or its generation fails. -/
  | generated {past : List (String → Fetch)} {s : Generation} (mode : Mode) (base : String)
      (f : Fragment) : TidySchema s.store.view f → TidySession past s →
      TidySession past ((generate mode base f).run s).2
  /-- A fragment is compiled, or its compilation fails. -/
  | compiled {past : List (String → Fetch)} {s : Generation} (mode : Mode) (name : String)
      (f : Fragment) : TidySchema s.store.view f → TidySession past s →
      TidySession past ((compileModel mode name f).run s).2

theorem TidySession.reachable (h : TidySession past s) : Reachable s := by
  induction h with
  | fresh store => exact .fresh store
  | anew store _ ih => exact .anew store _ ih
  | stored store _ ih => exact .stored store ih
  | renamed names _ _ ih => exact .renamed names ih
  | generated mode base f _ _ ih => exact .generated mode base f ih
  | compiled mode name f _ _ ih => exact .compiled mode name f ih

theorem TidySession.marksObjects (h : TidySession past s) : MarksObjects view root s := by
  intro l hl
  rw [h.reachable.pending] at hl
  cases hl

/-- A generation leaves all models ones of fragments, also if it fails. -/
theorem Realizing.generate (mode : Mode) (hs : Realizing past view before s)
    (hview : view ∈ past) (hmarks : MarksObjects view f s) (htidy : TidySchema view f)
    (base : String) : Realizing past view before ((ShapeSum.generate mode base f).run s).2 := by
  have hbranch (s' : Generation) (hafter : Develops s s') : MarksObjects view f s' :=
    hmarks.develops hafter
  have hobeys := (realizingRegime mode before hview htidy).obeys_generation (s := s) base .refl
    (fun _ _ => trivial) (fun _ _ _ _ _ => trivial) fun _ s' _ hafter _ _ => hbranch s' hafter
  have hgood : Realizing past view before ((unionOf mode (annotate mode) base f).run s).2 :=
    (hobeys hs).1
  rw [(generate_run mode base f s).2]
  split
  · exact hs.of_eq (hgood.view.trans hs.view.symm) rfl rfl
  · exact hgood

/-- So does a compilation. -/
theorem Realizing.compileModel (mode : Mode) (hs : Realizing past view before s)
    (hview : view ∈ past) (hmarks : MarksObjects view f s) (htidy : TidySchema view f)
    (name : String) : Realizing past view before ((ShapeSum.compileModel mode name f).run s).2 :=
  ((realizingRegime mode before hview htidy).obeys_compileModel name .refl hmarks hs).1

/-- Every model of a session realizes a fragment by the documents of some step. -/
theorem TidySession.realizing (h : TidySession past s) :
    s.store.view ∈ past ∧ Realizing past s.store.view [] s := by
  have hnone (types : Types) : Types.Resolves [] types := fun _ _ hm => (nomatch hm)
  induction h with
  | fresh store =>
    exact ⟨List.mem_singleton_self _, rfl, hnone _, fun _ hm => (nomatch hm),
      fun _ _ _ hg => (nomatch hg)⟩
  | anew store _ ih =>
    have hmono := ih.2.mono (List.subset_cons_self store.view _)
    exact ⟨List.mem_cons_self, rfl, hnone _, hmono.models, hmono.compiled⟩
  | stored store _ ih =>
    have hmono := ih.2.mono (List.subset_cons_self store.view _)
    exact ⟨List.mem_cons_self, rfl, hnone _, hmono.models, hmono.compiled⟩
  | renamed names hnames _ ih =>
    exact ⟨ih.1, rfl, hnone _, ih.2.models, fun l c hd hg => ih.2.compiled l c hd (hnames l _ hg)⟩
  | generated mode base f htidy hsession ih =>
    have hafter := ih.2.generate mode ih.1 hsession.marksObjects htidy base
    rw [hafter.view]
    exact ⟨ih.1, hafter⟩
  | compiled mode name f htidy hsession ih =>
    have hafter := ih.2.compileModel mode ih.1 hsession.marksObjects htidy name
    rw [hafter.view]
    exact ⟨ih.1, hafter⟩

/-- From here on, the models that there are now are kept. -/
theorem TidySession.realizing_self (h : TidySession past s) :
    Realizing past s.store.view s.types s :=
  { h.realizing.2 with kept := Types.resolves_refl _ }

/-- A compilation of a fragment that has no type yet gives a model that realizes it. -/
theorem realizes_of_compileModel (h : TidySession past s) {name : String} {handle : Handle}
    (htidy : TidySchema s.store.view f) (hfree : s.names.typeOf? f = none)
    (hrun : (compileModel mode name f).run s = (.ok handle, s')) :
    ∃ id m, handle = .model id ∧ s'.types.model? id = some m ∧ m.Realizes s.store.view f f := by
  obtain ⟨hview, hs⟩ := h.realizing
  have hobeys := (realizingRegime mode [] hview htidy).obeys_compileModel_new (s := s) name .refl
    h.marksObjects hfree
  obtain ⟨-, hok, -⟩ := hobeys hs
  rw [hrun] at hok
  obtain ⟨-, id, rfl, -, m, hm, hrealizes⟩ := hok handle rfl
  exact ⟨id, m, rfl, hm, hrealizes⟩

end Steps

end ShapeSum
