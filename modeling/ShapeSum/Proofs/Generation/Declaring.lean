import ShapeSum.Proofs.Decode.Selection
import ShapeSum.Proofs.Generation.Reuse
import ShapeSum.Proofs.Naming.Tags

/-!
# The fields that a compiled fragment declares

A property is required when its name is among the required names of the fragment, or when
its own fragment marks it.  The descriptor of a compiled model lists the required properties
and the others, each under the name that it has in JSON.

That is the name of the property, but for the property without a name, which goes by its
attribute.  So the descriptor is right exactly when every property has a name
(`descriptor_of_compileModel`).
-/

namespace ShapeSum

variable {f : Fragment} {m : Model} {d : Descriptor} {os : List FieldOutline}

/-! ## What a fragment declares -/

/-- A property that objects must have: it is among the required names of the fragment, or marked by
its own fragment. -/
def Fragment.Requires (f : Fragment) (property : String) : Prop :=
  ∃ g, (property, g) ∈ f.properties ∧
    ((∃ items, f.get? "required" = some (.arr items) ∧ .str property ∈ items) ∨
      g.get? "required" = some (.bool true))

/-- The properties of a fragment with their attributes. -/
def Fragment.attributes (f : Fragment) : List (String × String) :=
  (f.properties.map Prod.fst).zip (attributeNames [] (f.properties.map Prod.fst))

/-- The name of a property in JSON; one without a name goes by its attribute. -/
def wireName (property attr : String) : String := if property.isEmpty then attr else property

/-- A descriptor lists the properties of a fragment: the required ones and the others, both in
order, and no property is in both lists or in none. -/
structure Descriptor.Declares (d : Descriptor) (f : Fragment) : Prop where
  /-- The required fields are the required properties. -/
  required : ShapeSum.Lists d.required f.Requires
  /-- The optional fields are the others. -/
  optional : ShapeSum.Lists d.optional fun n => n ∈ f.properties.map Prod.fst ∧ ¬f.Requires n
  /-- No field is both. -/
  disjoint : ∀ n ∈ d.required, n ∉ d.optional
  /-- Every property is one of them. -/
  all : ∀ n, n ∈ d.required ∨ n ∈ d.optional ↔ n ∈ f.properties.map Prod.fst

/-- A descriptor lists the properties of a fragment under their names in JSON. -/
structure Descriptor.DeclaresWires (d : Descriptor) (f : Fragment) : Prop where
  /-- The required ones. -/
  required : ShapeSum.Lists d.required fun n =>
    ∃ p a, (p, a) ∈ f.attributes ∧ f.Requires p ∧ wireName p a = n
  /-- The others. -/
  optional : ShapeSum.Lists d.optional fun n =>
    ∃ p a, (p, a) ∈ f.attributes ∧ ¬f.Requires p ∧ wireName p a = n

/-! ## Outlines -/

/-- The outlines for properties have their attributes. -/
theorem map_attribute_outlinesOf (required taken : List String)
    (properties : List (String × Fragment)) :
    (outlinesOf required taken properties).map (fun o => (o.property, o.name)) =
      (properties.map Prod.fst).zip (attributeNames taken (properties.map Prod.fst)) := by
  induction properties generalizing taken with
  | nil => rfl
  | cons p rest ih => simpa [outlinesOf, attributeNames] using ih _

/-- The names in the list of required ones. -/
theorem mem_requiredNames {names : List String} (h : requiredNames f = .ok names) {n : String} :
    n ∈ names ↔ ∃ items, f.get? "required" = some (.arr items) ∧ .str n ∈ items := by
  have htext (j : Json) : j.text? = some n ↔ j = .str n := by
    cases j <;> simp [Json.text?]
  unfold requiredNames at h
  split at h
  · rename_i items hitems
    split at h
    · cases h
    · cases h
      simp [hitems, htext]
  · rename_i hnone
    cases h
    simpa using fun items hitems => absurd hitems (hnone items)

theorem marksRequired_iff : marksRequired f = true ↔ f.get? "required" = some (.bool true) := by
  unfold marksRequired
  split
  · rename_i b hb
    simp [hb]
  · rename_i hnone
    simpa using hnone true

/-- What the outline of a model says about the properties that it depicts. -/
theorem Model.Depicts.outline (h : m.Depicts f) (hn : (f.properties.map Prod.fst).Nodup) :
    m.outline.map (fun o => (o.property, o.name)) = f.attributes ∧
      ∀ o ∈ m.outline, o.required = true ↔ f.Requires o.property := by
  unfold Model.Depicts Fragment.outline at h
  cases hr : requiredNames f with
  | error e =>
    rw [hr] at h
    cases h
  | ok names =>
    rw [hr] at h
    have ho : outlinesOf names [] f.properties = m.outline := Except.ok.inj h
    rw [← ho]
    refine ⟨map_attribute_outlinesOf names [] f.properties, fun o hmem => ?_⟩
    have hpair : (o.property, o.required) ∈ (outlinesOf names [] f.properties).map
        fun o => (o.property, o.required) := List.mem_map_of_mem hmem
    rw [map_property_outlinesOf] at hpair
    obtain ⟨⟨p, g⟩, hg, heq⟩ := List.mem_map.1 hpair
    obtain ⟨rfl, hrequired⟩ := Prod.mk.inj heq
    rw [← hrequired, Bool.or_eq_true, List.contains_iff_mem, mem_requiredNames hr,
      marksRequired_iff]
    constructor
    · exact fun h => ⟨g, hg, h⟩
    · rintro ⟨g', hg', h⟩
      have hsame : g' = g := by
        have := List.inj_on_of_nodup_map hn hg' hg rfl
        exact (Prod.mk.inj this).2
      exact hsame ▸ h

/-- A part of the outline of a model gives the names of some properties, in order. -/
theorem lists_wires (hattributes : os.map (fun o => (o.property, o.name)) = f.attributes)
    {keep : FieldOutline → Bool} {p : String → Prop}
    (hkeep : ∀ o ∈ os, keep o = true ↔ p o.property) :
    Lists (sortedNames ((os.filter keep).map FieldOutline.wire)) fun n =>
      ∃ q a, (q, a) ∈ f.attributes ∧ p q ∧ wireName q a = n := by
  refine ⟨pairwise_sortedNames _, fun n => ?_⟩
  rw [mem_sortedNames, ← hattributes]
  simp only [List.mem_map, List.mem_filter]
  constructor
  · rintro ⟨o, ⟨ho, hk⟩, rfl⟩
    exact ⟨o.property, o.name, ⟨o, ho, rfl⟩, (hkeep o ho).1 hk, rfl⟩
  · rintro ⟨q, a, ⟨o, ho, heq⟩, hp, rfl⟩
    obtain ⟨rfl, rfl⟩ := Prod.mk.inj heq
    exact ⟨o, ⟨ho, (hkeep o ho).2 hp⟩, rfl⟩

/-! ## Descriptors -/

theorem mem_properties_of_mem_attributes {p a : String} (h : (p, a) ∈ f.attributes) :
    p ∈ f.properties.map Prod.fst := (List.of_mem_zip h).1

/-- The attribute of a property is not empty, so no name in JSON is. -/
theorem wireName_ne_empty {p a : String} (h : (p, a) ∈ f.attributes) : wireName p a ≠ "" := by
  have ha : a ≠ "" := ne_empty_of_mem_attributeNames (List.of_mem_zip h).2
  unfold wireName
  split
  · exact ha
  · rename_i hp
    simpa using hp

theorem wireName_of_ne_empty {p a : String} (h : p ≠ "") : wireName p a = p := by
  simp [wireName, h]

theorem exists_mem_attributes {p : String} (h : p ∈ f.properties.map Prod.fst) :
    ∃ a, (p, a) ∈ f.attributes := by
  have hfst : f.attributes.map Prod.fst = f.properties.map Prod.fst :=
    List.map_fst_zip (Nat.le_of_eq (length_attributeNames [] _).symm)
  rw [← hfst] at h
  obtain ⟨⟨q, a⟩, hmem, rfl⟩ := List.mem_map.1 h
  exact ⟨a, hmem⟩

theorem Fragment.Requires.mem {p : String} (h : f.Requires p) : p ∈ f.properties.map Prod.fst := by
  obtain ⟨g, hg, -⟩ := h
  exact List.mem_map.2 ⟨(p, g), hg, rfl⟩

/-- The names in JSON are the properties' own exactly when every property has a name. -/
theorem Descriptor.DeclaresWires.declares_iff (h : d.DeclaresWires f) :
    d.Declares f ↔ "" ∉ f.properties.map Prod.fst := by
  constructor
  · intro hd hempty
    obtain hr | ho := (hd.all "").2 hempty
    · obtain ⟨p, a, hmem, -, hwire⟩ := (h.required.mem "").1 hr
      exact wireName_ne_empty hmem hwire
    · obtain ⟨p, a, hmem, -, hwire⟩ := (h.optional.mem "").1 ho
      exact wireName_ne_empty hmem hwire
  · intro hempty
    have hwires {q : String → Prop} (n : String) :
        (∃ p a, (p, a) ∈ f.attributes ∧ q p ∧ wireName p a = n) ↔
          n ∈ f.properties.map Prod.fst ∧ q n := by
      constructor
      · rintro ⟨p, a, hmem, hq, rfl⟩
        have hp := mem_properties_of_mem_attributes hmem
        rw [wireName_of_ne_empty (ne_of_mem_of_not_mem hp hempty)]
        exact ⟨hp, hq⟩
      · rintro ⟨hn, hq⟩
        obtain ⟨a, ha⟩ := exists_mem_attributes hn
        exact ⟨n, a, ha, hq, wireName_of_ne_empty (ne_of_mem_of_not_mem hn hempty)⟩
    have hrequired (n : String) : n ∈ d.required ↔ f.Requires n := by
      rw [h.required.mem, hwires]
      exact ⟨And.right, fun hr => ⟨hr.mem, hr⟩⟩
    have hoptional (n : String) :
        n ∈ d.optional ↔ n ∈ f.properties.map Prod.fst ∧ ¬f.Requires n := by
      rw [h.optional.mem, hwires]
    refine ⟨⟨h.required.ascending, hrequired⟩, ⟨h.optional.ascending, hoptional⟩,
      fun n hr ho => ?_, fun n => ?_⟩
    · exact ((hoptional n).1 ho).2 ((hrequired n).1 hr)
    · rw [hrequired, hoptional]
      constructor
      · rintro (hr | ⟨hn, -⟩)
        · exact hr.mem
        · exact hn
      · intro hn
        by_cases hr : f.Requires n
        · exact .inl hr
        · exact .inr ⟨hn, hr⟩

/-- The descriptor of a model that depicts a fragment. -/
theorem Model.Depicts.exists_descriptor (h : m.Depicts f) (hn : (f.properties.map Prod.fst).Nodup)
    (typeName : String) (source : Option String) {emptyTag : String}
    (he : Text.isIdentifier emptyTag.toList = true) :
    ∃ d, m.descriptor typeName source emptyTag = .ok d ∧ d.typeName = typeName ∧
      d.source = source ∧ d.DeclaresWires f := by
  obtain ⟨hattributes, hrequires⟩ := h.outline hn
  rw [Model.descriptor_eq]
  unfold describeOutline Descriptor.make
  rw [if_pos (isIdentifier_tagFor typeName he)]
  refine ⟨_, rfl, rfl, rfl, ?_, ?_⟩
  · exact lists_wires hattributes hrequires
  · refine lists_wires hattributes fun o ho => ?_
    rw [← hrequires o ho]
    simp

/-- For every fragment that compiles from scratch, the descriptor of its model lists the required
properties and the others under their names in JSON.  These are the properties themselves exactly
when every property has a name; the property without one goes by its attribute. -/
theorem descriptor_of_compileModel {store : Store} {mode : Mode} {name : String} {f : Fragment}
    {h : Handle} (hr : ((compileModel mode name f).run { store }).1 = .ok h)
    (hn : (f.properties.map Prod.fst).Nodup) (typeName : String) (source : Option String)
    {emptyTag : String} (he : Text.isIdentifier emptyTag.toList = true) :
    ∃ id m d, h = .model id ∧
      ((compileModel mode name f).run { store }).2.types.model? id = some m ∧
      m.descriptor typeName source emptyTag = .ok d ∧ d.typeName = typeName ∧
      d.source = source ∧ d.DeclaresWires f ∧
      (d.Declares f ↔ "" ∉ f.properties.map Prod.fst) := by
  obtain ⟨id, m, hid, hm, hdepicts⟩ := exists_depicts_of_compileModel hr
  obtain ⟨d, hd, htype, hsource, hwires⟩ := hdepicts.exists_descriptor hn typeName source he
  exact ⟨id, m, d, hid, hm, hd, htype, hsource, hwires, hwires.declares_iff⟩

/-! ## A property without a name -/

/-- A compilation of some content from scratch. -/
def recordRun (content : Json) : Except Failure Handle × Generation :=
  (compileModel { config := {} } "Record" ⟨content, "memory:///schema.json", ""⟩).run
    { store := (Store.empty fun _ => .unavailable "").add "memory:///schema.json" content }

/-- Whether a type is the model at a place. -/
def Handle.isModel (id : TypeId) : Handle → Bool
  | .model id' => id' == id
  | _ => false

/-- A result that is the model at a place. -/
theorem eq_ok_model {r : Except Failure Handle} {id : TypeId}
    (h : r.toOption.any (Handle.isModel id) = true) : r = .ok (.model id) := by
  obtain ⟨handle, hr, hmodel⟩ := (Option.any_eq_true _ _).1 h
  cases handle with
  | model id' =>
    obtain rfl : id' = id := by simpa [Handle.isModel] using hmodel
    exact eq_ok_of_toOption hr
  | _ => cases hmodel

/-- Objects with a property that is required by the list, one that is marked, and one that is
neither. -/
def markedContent : Json :=
  .obj [("type", .str "object"), ("properties", .obj [
    ("class", .obj [("type", .str "string")]),
    ("a-b", .obj [("type", .str "string"), ("required", .bool true)]),
    ("a_b", .obj [("type", .str "string")])]), ("required", .arr [.str "class"])]

/-- The descriptor of its model lists the properties. -/
theorem descriptor_of_compileModel_marked : ∃ m d, (recordRun markedContent).1 = .ok (.model 0) ∧
    (recordRun markedContent).2.types.model? 0 = some m ∧
    m.descriptor "Record" none "EMPTY_TAG" = .ok d ∧
    d.Declares ⟨markedContent, "memory:///schema.json", ""⟩ := by
  have hr : (recordRun markedContent).1 = .ok (.model 0) := eq_ok_model (by decide +kernel)
  have hidentifier : Text.isIdentifier "EMPTY_TAG".toList = true := by decide +kernel
  unfold recordRun at hr ⊢
  obtain ⟨id, m, d, hid, hm, hd, -, -, -, hiff⟩ :=
    descriptor_of_compileModel hr (by decide +kernel) "Record" none hidentifier
  cases hid
  exact ⟨m, d, hr, hm, hd, hiff.2 (by decide +kernel)⟩

/-- Objects with a property without a name, and one that has the name of its attribute. -/
def namelessContent : Json :=
  .obj [("type", .str "object"), ("properties", .obj [
    ("", .obj [("type", .str "string")]), ("field_", .obj [("type", .str "string")])]),
    ("required", .arr [.str "field_"])]

/-- The descriptor of its model has one name twice, as a required field and as an optional one, and
the property without a name not at all. -/
theorem exists_not_declares : ∃ m d, (recordRun namelessContent).1 = .ok (.model 0) ∧
    (recordRun namelessContent).2.types.model? 0 = some m ∧
    m.descriptor "Record" none "EMPTY_TAG" = .ok d ∧
    d.required = ["field_"] ∧ d.optional = ["field_"] ∧
    ¬d.Declares ⟨namelessContent, "memory:///schema.json", ""⟩ := by
  have hr : (recordRun namelessContent).1 = .ok (.model 0) := eq_ok_model (by decide +kernel)
  have h : ((recordRun namelessContent).2.types.model? 0).any (fun m =>
      (m.descriptor "Record" none "EMPTY_TAG").toOption.any fun d =>
        decide (d.required = ["field_"] ∧ d.optional = ["field_"])) = true := by
    decide +kernel
  obtain ⟨m, hm, hany⟩ := (Option.any_eq_true _ _).1 h
  obtain ⟨d, hd, hfields⟩ := (Option.any_eq_true _ _).1 hany
  obtain ⟨hrequired, hoptional⟩ := of_decide_eq_true hfields
  refine ⟨m, d, hr, hm, eq_ok_of_toOption hd, hrequired, hoptional, ?_⟩
  intro hdeclares
  exact hdeclares.disjoint "field_" (by simp [hrequired]) (by simp [hoptional])

end ShapeSum
