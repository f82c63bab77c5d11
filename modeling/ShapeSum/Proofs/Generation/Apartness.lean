import ShapeSum.Proofs.Decode.Taking
import ShapeSum.Proofs.Generation.Obeying
import ShapeSum.Proofs.Types.Apart

/-!
# Types from proper schemas

A fragment is *proper* when its properties are distinct and its list of JSON types names
neither objects nor lists twice.  Whatever is generated from schemas that reach only proper
fragments, all models are clear (`ProperlyReachable.clear`).
-/

namespace ShapeSum

variable {mode : Mode} {view : String → Fetch} {f g : Fragment} {types : Types}

/-! ## Proper schemas -/

/-- The kind of containers that a JSON type is, if it is one. -/
def containerOf : String → Option FieldType.Container
  | "object" => some .object
  | "array" => some .list
  | _ => none

/-- Whether a JSON type is one of containers. -/
def isContainer (name : String) : Bool := (containerOf name).isSome

/-- Whether a fragment has no property twice and declares no kind of containers twice. -/
def Fragment.isProper (f : Fragment) : Bool :=
  decide (f.properties.map Prod.fst).Nodup && decide (f.declared.filter isContainer).Nodup

theorem Fragment.nodup_properties (h : f.isProper = true) : (f.properties.map Prod.fst).Nodup :=
  of_decide_eq_true (Bool.and_eq_true_iff.1 h).1

theorem Fragment.nodup_declared (h : f.isProper = true) : (f.declared.filter isContainer).Nodup :=
  of_decide_eq_true (Bool.and_eq_true_iff.1 h).2

/-- Only proper fragments are in reach. -/
def ProperSchema (view : String → Fetch) (f : Fragment) : Prop :=
  ∀ g, Reaches view f g → g.isProper = true

theorem ProperSchema.of_reaches (h : ProperSchema view f) (hg : Reaches view f g) :
    ProperSchema view g :=
  fun x hx => h x (hg.trans hx)

theorem properSchema_of_levels (hview : ∀ uri j, view uri ≠ .content j) {n : Nat}
    (hlast : (f.level n).isEmpty = true)
    (h : ((List.range n).flatMap fun i => f.level i).all Fragment.isProper = true) :
    ProperSchema view f :=
  fun g hg => List.all_eq_true.1 h g (hg.mem_levels hview hlast)

/-! ## Types for fragments -/

/-- A type for one JSON type is apart, no choice and none of literals, and for the containers that
the JSON type is. -/
structure ApartAs (jsonType : String) (type : FieldType) : Prop where
  apart : type.Apart
  isChoice : type.isChoice = false
  isLiteral : type.isLiteral = false
  container : type.container? = containerOf jsonType

theorem apartAs_plain {jsonType : String} (hobject : jsonType ≠ "object")
    (harray : jsonType ≠ "array") : ApartAs jsonType (plainType jsonType) := by
  have hcontainer : containerOf jsonType = none := by
    unfold containerOf
    split <;> first | contradiction | rfl
  unfold plainType
  split
  · exact ⟨.text, rfl, rfl, rfl⟩
  · exact ⟨.integer, rfl, rfl, rfl⟩
  · exact ⟨.number, rfl, rfl, rfl⟩
  · exact ⟨.boolean, rfl, rfl, rfl⟩
  · exact ⟨.null, rfl, rfl, rfl⟩
  · exact ⟨.any, rfl, rfl, hcontainer.symm⟩

theorem apartAs_handle {h : Handle} (hh : h ≠ .reserved) : ApartAs "object" h.fieldType := by
  have hstand := mayStand_fieldType h
  refine ⟨hstand.apart, hstand.isChoice, hstand.isLiteral, ?_⟩
  cases h with
  | reserved => exact absurd rfl hh
  | _ => rfl

/-- JSON types that are the same containers are the same. -/
theorem eq_of_containerOf {name name' : String} {c : FieldType.Container}
    (h : containerOf name = some c) (h' : containerOf name' = some c) : name = name' := by
  unfold containerOf at h h'
  split at h <;> split at h' <;> cases h <;> cases h' <;> rfl

/-- Types for JSON types of which no two are the same containers are apart as options. -/
theorem optionsApart_of_forall₂ {names : List String} {ts : List FieldType}
    (h : List.Forall₂ ApartAs names ts) (hnodup : (names.filter isContainer).Nodup) :
    FieldType.OptionsApart ts := by
  induction h with
  | nil => exact ⟨fun _ ht => (nomatch ht), fun _ ht => (nomatch ht), fun _ ht => (nomatch ht)⟩
  | @cons name u names us hu hus ih =>
    have hrest := ih (hnodup.sublist ((List.sublist_cons_self name names).filter _))
    -- No later type is for the containers of the first one.
    have hfirst {t : FieldType} (ht : t ∈ us) {c : FieldType.Container}
        (hc : u.container? = some c) (hc' : t.container? = some c) : False := by
      obtain ⟨name', hname', ht'⟩ := exists_left_of_forall₂ hus ht
      have hname := hu.container.symm.trans hc
      have hsame := eq_of_containerOf (ht'.container.symm.trans hc') hname
      have hsome : isContainer name = true := by
        rw [isContainer, hname]
        rfl
      rw [List.filter_cons_of_pos hsome, List.nodup_cons] at hnodup
      exact hnodup.1 (List.mem_filter.2 ⟨hsame ▸ hname', hsome⟩)
    refine ⟨List.forall_mem_cons.2 ⟨hu.isChoice, hrest.flat⟩, fun t ht t' ht' c hc hc' => ?_,
      fun t ht hl => ?_⟩
    · rcases List.mem_cons.1 ht with he | hlater
      · rcases List.mem_cons.1 ht' with he' | hlater'
        · rw [he, he']
        · exact (hfirst hlater' (he ▸ hc) hc').elim
      · rcases List.mem_cons.1 ht' with he' | hlater'
        · exact (hfirst hlater (he' ▸ hc') hc).elim
        · exact hrest.container t hlater t' hlater' c hc hc'
    · obtain ⟨_, -, hat⟩ := exists_left_of_forall₂ (.cons hu hus) ht
      rw [hat.isLiteral] at hl
      cases hl

/-- They make a type that is apart. -/
theorem apart_ofOptions {names : List String} {ts : List FieldType}
    (h : List.Forall₂ ApartAs names ts) (hnodup : (names.filter isContainer).Nodup) :
    (FieldType.ofOptions ts).Apart := by
  have hoptions := optionsApart_of_forall₂ h hnodup
  have hapart : ∀ t ∈ ts, t.Apart := by
    intro t ht
    obtain ⟨_, -, hat⟩ := exists_left_of_forall₂ h ht
    exact hat.apart
  unfold FieldType.ofOptions
  split
  · rename_i t
    exact hapart t (List.mem_singleton_self t)
  · refine .alternatives hapart hoptions fun t ht o ho => .inl ?_
    rw [FieldType.options_of_not_isChoice (hoptions.flat t ht)] at ho
    exact List.mem_singleton.1 ho ▸ ht

/-! ## The regime -/

/-- The model of a proper fragment is clear when the types for its properties are apart. -/
theorem clear_model (hf : f.isProper = true) {name : String} {id : TypeId} {required : List String}
    {fields fields' : List Field} {frozen : Bool} (hrequired : requiredNames f = .ok required)
    (hfields : List.Forall₂ (FieldFor (Suited view fun _ r => r.1.Apart) required) f.properties
      fields)
    (houtline : fields.map Field.outline = outlinesOf required [] f.properties)
    (hfinish : finishFields name id fields = .ok fields') :
    Model.Clear ⟨name, fields', frozen⟩ := by
  have hdepicts : (⟨name, fields, frozen⟩ : Model).Depicts f := by
    unfold Model.Depicts Fragment.outline
    rw [hrequired]
    exact congrArg Except.ok houtline.symm
  have hproperties : fields.map Field.property = f.properties.map Prod.fst := by
    clear houtline hfinish hdepicts
    generalize f.properties = properties at hfields ⊢
    induction hfields with
    | nil => rfl
    | cons hfor _ ih => rw [List.map_cons, List.map_cons, hfor.property, ih]
  have hclear : Model.Clear ⟨name, fields, frozen⟩ := by
    refine ⟨hdepicts.nodup_names, hproperties ▸ f.nodup_properties hf, fun g hg => ?_⟩
    obtain ⟨p, -, hfor⟩ := exists_left_of_forall₂ hfields hg
    obtain ⟨type, back, ⟨t, -, hapart⟩, htype⟩ := hfor.type
    rw [htype]
    split
    · exact hapart
    · exact hapart.optional
  exact hclear.finish hfinish

/-- The documents are as they were, and all models are clear. -/
structure ClearState (view : String → Fetch) (s : Generation) : Prop where
  view : s.store.view = view
  types : s.types.Clear

/-- From proper schemas come clear models. -/
def clearRegime (mode : Mode) (view : String → Fetch) : Regime mode view where
  Known g := ProperSchema view g
  Good := ClearState view
  After _ := MarksNoMore
  Err _ := True
  New _ := True
  May _ _ _ := True
  MayCompile _ _ _ := True
  MayBranch _ _ _ := True
  Fit _ _ r := r.1.Apart
  FitAs _ _ jsonType r := ApartAs jsonType r.1
  Made _ _ _ := True
  known_part hf hp := hf.of_reaches (.part .refl hp)
  known_leads hf hlead := hf.of_reaches hlead.reaches
  new _ _ _ := trivial
  failure _ := trivial
  unresolved _ _ := trivial
  tooDeep _ := trivial
  recursive _ _ _ _ _ := trivial
  view_eq h := h.view
  after_refl _ := MarksNoMore.refl
  after_trans := MarksNoMore.trans
  after_of_strict h := h
  pending_after h := h _
  may_after _ _ _ := trivial
  mayCompile_after _ _ := trivial
  mayBranch_after _ _ := trivial
  fit_after _ h := h
  fitAs_after _ h := h
  made_after _ h := h
  may_item _ _ _ _ _ _ := trivial
  may_object _ _ _ _ _ := trivial
  may_property _ _ _ _ := trivial
  may_union _ _ _ _ _ _ := trivial
  may_branch _ _ _ _ := trivial
  aside hs h := ⟨⟨h.view.trans hs.view, h.types ▸ hs.types⟩, .of_eq h.pending⟩
  refer hs _ _ := ⟨⟨hs.view, hs.types⟩, .of_eq rfl⟩
  mark _ _ hs := ⟨hs.view, hs.types⟩
  unmark _ hs := ⟨hs.view, hs.types⟩
  unmark_after _ _ _ h := h.unmark
  enter _ hs := ⟨hs.view, hs.types⟩
  leave hs _ _ _ _ _ _ _ h := ⟨⟨hs.view, hs.types⟩, h⟩
  reserve _ hs := ⟨⟨hs.view, hs.types⟩, .of_eq rfl⟩
  declare _ hs _ _ _ := ⟨⟨hs.view, hs.types⟩, .of_eq rfl⟩
  model hs hf _ hrequired hfields houtline hfinish :=
    ⟨⟨hs.view, hs.types.add_model (clear_model (hf _ .refl) hrequired hfields houtline hfinish)⟩,
      .of_eq rfl, trivial⟩
  settle hs _ hm hsettle := ⟨⟨hs.view, hs.types.set ((hs.types _ _ hm).settle hsettle)⟩, .of_eq rfl⟩
  union hs _ _ _ _ := ⟨⟨hs.view, hs.types.add_union _⟩, .of_eq rfl, .union _⟩
  fit_made _ := .model _
  back _ _ _ _ _ := .named _
  cached _ _ _ := (mayStand_fieldType _).apart
  kept _ _ _ _ := .union _
  fit_literal _ _ := .literal _
  fit_anyBranch _ _ := .any
  fit_untyped _ _ := .any
  fit_options hf _ _ hrs := apart_ofOptions (List.forall₂_map_right_iff.2 hrs)
    (Fragment.nodup_declared (hf _ .refl))
  fitAs_plain _ _ hobject harray := apartAs_plain hobject harray
  fitAs_array := by
    intro types t item isBack _ _ hitem
    have hapart : item.Apart := by
      unfold ItemFor at hitem
      split at hitem
      · obtain ⟨_, -, h⟩ := hitem
        exact h
      · cases hitem
        exact .any
    dsimp only
    split
    · exact ⟨.tuple hapart, rfl, rfl, rfl⟩
    · exact ⟨.list hapart, rfl, rfl, rfl⟩
  fitAs_object _ _ _ := ⟨.object, rfl, rfl, rfl⟩
  fitAs_handle _ _ hh _ := apartAs_handle hh

/-! ## States -/

/-- The states that generations and compilations reach by proper schemas, whatever happens to
documents and names in between. -/
inductive ProperlyReachable : Generation → Prop
  /-- The state before anything was generated. -/
  | fresh (store : Store) : ProperlyReachable { store }
  /-- A generation starts over on the types that are there, under any names. -/
  | anew {s : Generation} (store : Store) (names : Namespace) : ProperlyReachable s →
      ProperlyReachable { store, names, types := s.types }
  /-- Documents are added or loaded. -/
  | stored {s : Generation} (store : Store) : ProperlyReachable s →
      ProperlyReachable { s with store }
  /-- Names are declared by hand, or the names of another time are put back. -/
  | renamed {s : Generation} (names : Namespace) : ProperlyReachable s →
      ProperlyReachable { s with names }
  /-- A union is generated from proper schemas, or its generation fails. -/
  | generated {s : Generation} (mode : Mode) (base : String) (f : Fragment) :
      ProperSchema s.store.view f → ProperlyReachable s →
      ProperlyReachable ((generate mode base f).run s).2
  /-- A fragment is compiled from proper schemas, or its compilation fails. -/
  | compiled {s : Generation} (mode : Mode) (name : String) (f : Fragment) :
      ProperSchema s.store.view f → ProperlyReachable s →
      ProperlyReachable ((compileModel mode name f).run s).2

/-- The models of a state that is reached by proper schemas are clear. -/
theorem ProperlyReachable.clear {s : Generation} (h : ProperlyReachable s) : s.types.Clear := by
  induction h with
  | fresh store => exact fun _ _ hm => nomatch hm
  | anew store names _ ih => exact ih
  | stored store _ ih => exact ih
  | renamed names _ ih => exact ih
  | @generated s mode base f hf _ ih =>
    have hobeys := (clearRegime mode s.store.view).obeys_generation (s := s) base hf
      (fun _ _ => trivial) (fun _ _ _ _ _ => trivial) fun _ _ _ _ _ _ => trivial
    have hgood := (hobeys ⟨rfl, ih⟩).1
    rw [(generate_run mode base f s).2]
    split
    · exact ih
    · exact hgood.types
  | @compiled s mode name f hf _ ih =>
    exact ((clearRegime mode s.store.view).obeys_compileModel name hf trivial ⟨rfl, ih⟩).1.types

end ShapeSum
