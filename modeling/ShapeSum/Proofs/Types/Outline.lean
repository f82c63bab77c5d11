import ShapeSum.Generation.Generate
import ShapeSum.Proofs.Naming.Attributes

/-!
# Outlines of models

The outline of a model is what its fields are apart from their types: attribute,
property and whether the field is required.  A fragment has an outline as well, read
off its properties and markers; it depends on the content of the fragment only.  The
descriptor of a model depends on its outline only, and resolving back references
does not change the outline.
-/

namespace ShapeSum

/-- What a field is apart from its type. -/
structure FieldOutline where
  /-- The name of the attribute. -/
  name : String
  /-- The name of the property. -/
  property : String
  /-- Whether objects must have the field. -/
  required : Bool
  deriving DecidableEq

/-- The name of the field in JSON. -/
def FieldOutline.wire (o : FieldOutline) : String :=
  if o.property.isEmpty then o.name else o.property

/-- The outline of a field. -/
def Field.outline (f : Field) : FieldOutline := ⟨f.name, f.property, f.required⟩

/-- The outline of a model. -/
def Model.outline (m : Model) : List FieldOutline := m.fields.map Field.outline

/-- The outlines of the fields for some properties in turn, whose attributes differ from those that
are taken. -/
def outlinesOf (required taken : List String) : List (String × Fragment) → List FieldOutline
  | [] => []
  | (property, f) :: rest =>
    let name := attributeName property taken
    ⟨name, property, required.contains property || marksRequired f⟩ ::
      outlinesOf required (taken ++ [name]) rest

/-- The outline of the model that a fragment describes, or why it describes none. -/
def Fragment.outline (f : Fragment) : Except Failure (List FieldOutline) :=
  (requiredNames f).map fun required => outlinesOf required [] f.properties

/-! ## Names -/

theorem map_name_outlinesOf (required taken : List String) (properties : List (String × Fragment)) :
    (outlinesOf required taken properties).map FieldOutline.name =
      attributeNames taken (properties.map Prod.fst) := by
  induction properties generalizing taken with
  | nil => rfl
  | cons p rest ih =>
    obtain ⟨property, f⟩ := p
    exact congrArg (attributeName property taken :: ·) (ih _)

/-- Whether a property is required is said by the list of its fragment or by its own marker. -/
theorem map_property_outlinesOf (required taken : List String)
    (properties : List (String × Fragment)) :
    (outlinesOf required taken properties).map (fun o => (o.property, o.required)) =
      properties.map fun p => (p.1, required.contains p.1 || marksRequired p.2) := by
  induction properties generalizing taken with
  | nil => rfl
  | cons p rest ih =>
    obtain ⟨property, f⟩ := p
    exact congrArg ((property, required.contains property || marksRequired f) :: ·) (ih _)

/-- A model whose outline is that of a fragment. -/
def Model.Depicts (m : Model) (f : Fragment) : Prop := f.outline = .ok m.outline

/-- The attributes of a model that depicts a fragment are distinct. -/
theorem Model.Depicts.nodup_names {m : Model} {f : Fragment} (h : m.Depicts f) :
    (m.fields.map Field.name).Nodup := by
  have hnames : m.fields.map Field.name = m.outline.map FieldOutline.name := by
    rw [Model.outline, List.map_map]
    rfl
  unfold Depicts Fragment.outline at h
  cases hr : requiredNames f with
  | error e =>
    rw [hr] at h
    cases h
  | ok required =>
    rw [hr] at h
    rw [hnames, ← Except.ok.inj h, map_name_outlinesOf]
    exact (nodup_attributeNames [] _).1

/-- No attribute of a model that depicts a fragment is empty. -/
theorem Model.Depicts.name_ne_empty {m : Model} {f : Fragment} (h : m.Depicts f) {field : Field}
    (hf : field ∈ m.fields) : field.name ≠ "" := by
  have hmem : field.name ∈ m.outline.map FieldOutline.name :=
    List.mem_map_of_mem (List.mem_map_of_mem hf)
  unfold Depicts Fragment.outline at h
  cases hr : requiredNames f with
  | error e =>
    rw [hr] at h
    cases h
  | ok required =>
    rw [hr] at h
    rw [← Except.ok.inj h, map_name_outlinesOf] at hmem
    exact ne_empty_of_mem_attributeNames hmem

/-! ## Outlines and content -/

/-- The outlines of fields depend on the content of the properties' fragments only. -/
theorem outlinesOf_congr (required taken : List String) {ps qs : List (String × Fragment)}
    (h : ps.map (fun p => (p.1, p.2.content)) = qs.map fun q => (q.1, q.2.content)) :
    outlinesOf required taken ps = outlinesOf required taken qs := by
  induction ps generalizing taken qs with
  | nil =>
    cases qs with
    | nil => rfl
    | cons q qs => cases h
  | cons p ps ih =>
    cases qs with
    | nil => cases h
    | cons q qs =>
      obtain ⟨property, f⟩ := p
      obtain ⟨property', g⟩ := q
      obtain ⟨hpq, hrest⟩ := List.cons.inj h
      obtain ⟨rfl, hc⟩ := Prod.mk.inj hpq
      have hm : marksRequired f = marksRequired g := by
        unfold marksRequired Fragment.get?
        rw [show f.content = g.content from hc]
      show _ :: outlinesOf required _ ps = _ :: outlinesOf required _ qs
      rw [hm, ih _ hrest]

/-- The outline of a fragment depends on its content only. -/
theorem Fragment.outline_congr {f g : Fragment} (h : f.content = g.content) :
    f.outline = g.outline := by
  have hr : requiredNames f = requiredNames g := by
    unfold requiredNames Fragment.get?
    rw [h]
  have hp : f.properties.map (fun p => (p.1, p.2.content)) =
      g.properties.map fun p => (p.1, p.2.content) := by
    unfold Fragment.properties Fragment.members Fragment.get?
    rw [h]
    split
    · simp [Function.comp_def, Fragment.part]
    · rfl
  unfold Fragment.outline
  rw [hr]
  exact congrArg (Except.map · _) (funext fun required => outlinesOf_congr required [] hp)

/-! ## Outlines and types -/

/-- The descriptor of an outline under a type name. -/
def describeOutline (os : List FieldOutline) (typeName : String) (source : Option String)
    (emptyTag : String) : Except Failure Descriptor :=
  Descriptor.make (tagFor typeName emptyTag) typeName
    ((os.filter (·.required)).map FieldOutline.wire)
    ((os.filter (!·.required)).map FieldOutline.wire) source

/-- The descriptor of a model is that of its outline. -/
theorem Model.descriptor_eq (m : Model) (typeName : String) (source : Option String)
    (emptyTag : String) :
    m.descriptor typeName source emptyTag = describeOutline m.outline typeName source emptyTag := by
  unfold Model.descriptor describeOutline Model.outline
  rw [List.filter_map, List.filter_map, List.map_map, List.map_map]
  rfl

/-- The creation of a model leaves the outlines of its fields. -/
theorem outline_of_finishFields {model : String} {id : TypeId} {fields fields' : List Field}
    (h : finishFields model id fields = .ok fields') :
    fields'.map Field.outline = fields.map Field.outline := by
  unfold finishFields at h
  split at h
  · cases h
  · unfold resolveOwn at h
    dsimp only at h
    split at h
    · cases h
    · cases h
      rw [List.map_map]
      rfl

/-- Resolving back references leaves the outline. -/
theorem Model.outline_of_settle {names : Namespace} {m m' : Model} (h : m.settle names = .ok m') :
    m'.outline = m.outline := by
  unfold Model.settle at h
  dsimp only at h
  split at h
  · cases h
  · cases h
    unfold Model.outline
    rw [List.map_map]
    rfl

/-- Resolving back references leaves the name. -/
theorem Model.name_of_settle {names : Namespace} {m m' : Model} (h : m.settle names = .ok m') :
    m'.name = m.name := by
  unfold Model.settle at h
  dsimp only at h
  split at h <;> cases h
  rfl

/-! ## Types over time -/

namespace Types

variable {types types' types'' : Types}

theorem model?_eq_some {id : TypeId} {m : Model} :
    types.model? id = some m ↔ types[id]? = some (.model m) := by
  unfold model?
  split <;> simp_all

theorem union?_eq_some {id : TypeId} {u : UnionType} :
    types.union? id = some u ↔ types[id]? = some (.union u) := by
  unfold union?
  split <;> simp_all

/-- Types grow into others: models keep their outlines, unions stay as they are, and all keep their
names. -/
structure Grow (types types' : Types) : Prop where
  /-- A model keeps its outline. -/
  model : ∀ {id m}, types.model? id = some m →
    ∃ m', types'.model? id = some m' ∧ m'.outline = m.outline
  /-- A union stays as it is. -/
  union : ∀ {id u}, types.union? id = some u → types'.union? id = some u
  /-- A type keeps its name. -/
  name : ∀ {id}, id < types.length → types'.nameOf id = types.nameOf id
  /-- No type is lost. -/
  length : types.length ≤ types'.length

theorem grow_refl (types : Types) : Grow types types :=
  ⟨fun h => ⟨_, h, rfl⟩, fun h => h, fun _ => rfl, Nat.le_refl _⟩

theorem Grow.trans (h : Grow types types') (h' : Grow types' types'') : Grow types types'' := by
  refine ⟨fun hm => ?_, fun hu => h'.union (h.union hu), fun hid => ?_,
    Nat.le_trans h.length h'.length⟩
  · obtain ⟨m', hm', ho⟩ := h.model hm
    obtain ⟨m'', hm'', ho'⟩ := h'.model hm'
    exact ⟨m'', hm'', ho'.trans ho⟩
  · exact (h'.name (Nat.lt_of_lt_of_le hid h.length)).trans (h.name hid)

theorem lt_length_of_model? {id : TypeId} {m : Model} (h : types.model? id = some m) :
    id < types.length :=
  (List.getElem?_eq_some_iff.1 (model?_eq_some.1 h)).1

/-- The models after one was put in the place of another one. -/
theorem model?_set {id : TypeId} {m : Model} (hm : types.model? id = some m) (m' : Model)
    (id' : TypeId) :
    model? (types.set id (.model m')) id' = if id = id' then some m' else types.model? id' := by
  have hlt := lt_length_of_model? hm
  unfold model?
  by_cases he : id = id'
  · subst he
    rw [List.getElem?_set_self hlt, if_pos rfl]
  · rw [List.getElem?_set_ne he, if_neg he]

theorem lt_length_of_union? {id : TypeId} {u : UnionType} (h : types.union? id = some u) :
    id < types.length :=
  (List.getElem?_eq_some_iff.1 (union?_eq_some.1 h)).1

/-- The name of a model. -/
theorem nameOf_of_model? {id : TypeId} {m : Model} (h : types.model? id = some m) :
    types.nameOf id = m.name := by
  rw [nameOf, model?_eq_some.1 h]

/-- The name of a union. -/
theorem nameOf_of_union? {id : TypeId} {u : UnionType} (h : types.union? id = some u) :
    types.nameOf id = u.name := by
  rw [nameOf, union?_eq_some.1 h]

theorem grow_append (types : Types) (d : TypeDef) : Grow types (types ++ [d]) := by
  have hold {id : TypeId} {x : TypeDef} (h : types[id]? = some x) :
      (types ++ [d])[id]? = some x := by
    rw [List.getElem?_append_left (List.getElem?_eq_some_iff.1 h).1, h]
  refine ⟨fun hm => ⟨_, model?_eq_some.2 (hold (model?_eq_some.1 hm)), rfl⟩,
    fun hu => union?_eq_some.2 (hold (union?_eq_some.1 hu)), fun hid => ?_, ?_⟩
  · rw [nameOf, nameOf, List.getElem?_append_left hid]
  · rw [List.length_append]
    exact Nat.le_add_right _ _

theorem grow_settle {names : Namespace} {id : TypeId} {m m' : Model}
    (hm : types.model? id = some m) (hs : m.settle names = .ok m') :
    Grow types (types.set id (.model m')) := by
  have hid := model?_eq_some.1 hm
  have hlt := (List.getElem?_eq_some_iff.1 hid).1
  refine ⟨fun {id' m''} hm'' => ?_, fun {id' u} hu => ?_, fun {id'} _ => ?_,
    Nat.le_of_eq List.length_set.symm⟩
  · rw [model?_set hm]
    split
    · rename_i he
      subst he
      cases hm.symm.trans hm''
      exact ⟨m', rfl, Model.outline_of_settle hs⟩
    · exact ⟨m'', hm'', rfl⟩
  · have hu := union?_eq_some.1 hu
    refine union?_eq_some.2 ?_
    rw [List.getElem?_set_ne, hu]
    rintro rfl
    rw [hid] at hu
    cases hu
  · by_cases he : id = id'
    · subst he
      rw [nameOf, nameOf, List.getElem?_set_self hlt, hid]
      exact Model.name_of_settle hs
    · rw [nameOf, nameOf, List.getElem?_set_ne he]

end Types

end ShapeSum
