import ShapeSum.Proofs.Decode.Layers
import ShapeSum.Proofs.Generation.Homes
import ShapeSum.Proofs.Generation.Makings

/-!
# Types linked to fragments

When a generation is over, the reports tell under which name each location was compiled,
and the table tells which model has the name.  So a type can be *linked* to a fragment: a
model is the one that was compiled at the fragment's location, a union was made there, and
a name that is left in a type is one that the location was compiled under.  The types of
scalars and lists are linked as the fragment declares them (`Linked`).

Links are about the state at the end, and the types are found on the way there.  Putting a
type together keeps links (`Linked.ofOptions`, `Linked.optional`), and so does resolving
the names in it, if each name is given the type of its location (`Linked.resolve`).
-/

namespace ShapeSum

variable {e s s' : Generation} {f t : Fragment} {type : FieldType} {id : TypeId}

/-! ## Places in the table -/

namespace Generation

/-- A location was compiled under a name. -/
def HasCompiled (e : Generation) (name location : String) : Prop := .compiled name location ∈ e.log

/-- At a place in the table is the model that was compiled at a location. -/
def IsModelAt (e : Generation) (id : TypeId) (location : String) : Prop :=
  ∃ m, e.types.model? id = some m ∧ e.HasCompiled m.name location

/-- At a place in the table is the union that was made at a location. -/
def IsUnionAt (e : Generation) (id : TypeId) (location : String) : Prop :=
  ∃ u, e.types.union? id = some u ∧ u.source = some location

/-- What a handle stands for was made at a location. -/
def IsAt (e : Generation) (location : String) : Handle → Prop
  | .model id => e.IsModelAt id location
  | .union id => e.IsUnionAt id location
  | _ => False

end Generation

/-! ## Links -/

/-- A type is linked to the fragment where the references from a fragment end, by what there is in
the end. -/
inductive Linked (e : Generation) : Fragment → FieldType → Prop
  /-- Null is linked to everything: it only ever stands beside another option. -/
  | null {f : Fragment} : Linked e f .null
  /-- The name of what was compiled there. -/
  | named {f t : Fragment} {name : String} : LeadsTo e.store.view f t →
      e.HasCompiled name t.location → Linked e f (.named name)
  /-- The model there. -/
  | model {f t : Fragment} {id : TypeId} : LeadsTo e.store.view f t →
      e.IsModelAt id t.location → Linked e f (.model id)
  /-- The union there. -/
  | union {f t : Fragment} {id : TypeId} : LeadsTo e.store.view f t →
      e.IsUnionAt id t.location → Linked e f (.union id)
  /-- The literals, if there are any. -/
  | literal {f t : Fragment} {values : List Literal} : LeadsTo e.store.view f t →
      t.hasOneOf = false → literals? t = some values → Linked e f (.literal values)
  /-- Everything, where nothing is declared. -/
  | untyped {f t : Fragment} : LeadsTo e.store.view f t → t.IsTyped → t.declared = [] →
      Linked e f .any
  /-- The type for a declared JSON type of scalars, or that of everything if it is not known. -/
  | plain {f t : Fragment} {jsonType : String} : LeadsTo e.store.view f t → t.IsTyped →
      jsonType ∈ t.declared → jsonType ≠ "object" → jsonType ≠ "array" →
      Linked e f (plainType jsonType)
  /-- Lists of what is linked to the items. -/
  | items {f t : Fragment} {ms : List (String × Json)} {item type : FieldType} :
      LeadsTo e.store.view f t → t.IsTyped → "array" ∈ t.declared →
      t.get? "items" = some (.obj ms) → Linked e (t.part "items" (.obj ms)) item →
      type.ListOf item → Linked e f type
  /-- Lists of anything, if no object says what the items are. -/
  | anyItems {f t : Fragment} {type : FieldType} : LeadsTo e.store.view f t → t.IsTyped →
      "array" ∈ t.declared → (∀ ms, t.get? "items" ≠ some (.obj ms)) → type.ListOf .any →
      Linked e f type
  /-- Plain objects, if there are no properties. -/
  | object {f t : Fragment} : LeadsTo e.store.view f t → t.IsTyped → "object" ∈ t.declared →
      t.properties = [] → Linked e f .object
  /-- A choice of types that are linked. -/
  | choice {f : Fragment} {os : List FieldType} : (∀ o ∈ os, Linked e f o) →
      Linked e f (.choice os)

/-- The type of a handle is linked to the fragment at the location of what it stands for. -/
theorem Linked.of_isAt {h : Handle} (hlead : LeadsTo e.store.view f t)
    (hat : e.IsAt t.location h) : Linked e f h.fieldType := by
  cases h with
  | model id => exact .model hlead hat
  | union id => exact .union hlead hat
  | reserved => cases hat
  | label text => cases hat

theorem isChoice_plainType (jsonType : String) : (plainType jsonType).isChoice = false := by
  unfold plainType
  split <;> rfl

/-- A model that is linked to a fragment is the one where the references from it end. -/
theorem Linked.isModelAt (h : Linked e f (.model id)) (hlead : LeadsTo e.store.view f t) :
    e.IsModelAt id t.location := by
  generalize hm : FieldType.model id = type at h
  cases h with
  | model hlead' hat =>
    cases hm
    cases hlead.unique hlead'
    exact hat
  | plain =>
    unfold plainType at hm
    split at hm <;> cases hm
  | items _ _ _ _ _ hlist | anyItems _ _ _ _ hlist =>
    subst hm
    cases hlist
  | _ => cases hm

theorem Linked.option {o : FieldType} (h : Linked e f type) (ho : o ∈ type.options) :
    Linked e f o := by
  have hself (hplain : type.isChoice = false) : Linked e f o := by
    rw [FieldType.options_of_not_isChoice hplain, List.mem_singleton] at ho
    exact ho ▸ h
  cases h with
  | choice hos => exact hos o ho
  | plain => exact hself (isChoice_plainType _)
  | items _ _ _ _ _ hlist | anyItems _ _ _ _ hlist => exact hself hlist.isChoice
  | _ => exact hself rfl

theorem Linked.alternatives {ts : List FieldType} (h : ∀ t ∈ ts, Linked e f t) :
    Linked e f (.alternatives ts) := by
  have hoptions : ∀ o ∈ FieldType.distinct [] (ts.flatMap FieldType.options), Linked e f o := by
    intro o ho
    obtain ⟨t, ht, ho⟩ := List.mem_flatMap.1 (FieldType.mem_distinct.1 ho).1
    exact (h t ht).option ho
  unfold FieldType.alternatives
  split
  · rename_i t ht
    exact hoptions t (ht ▸ List.mem_singleton_self t)
  · exact .choice hoptions

theorem Linked.optional (h : Linked e f type) : Linked e f type.optional := by
  refine .alternatives fun o ho => ?_
  rcases List.mem_cons.1 ho with rfl | ho
  · exact h
  · cases List.mem_singleton.1 ho
    exact .null

theorem Linked.ofOptions {ts : List FieldType} (h : ∀ t ∈ ts, Linked e f t) :
    Linked e f (.ofOptions ts) := by
  unfold FieldType.ofOptions
  split
  · exact h _ (List.mem_singleton_self _)
  · exact .alternatives h

/-! ## Names -/

/-- Names are given the types of the locations that were compiled under them, or null. -/
def Generation.Faithful (e : Generation) (lookup : String → Option FieldType) : Prop :=
  ∀ n type l, lookup n = some type → e.HasCompiled n l →
    type = .null ∨ ∃ id, type = .model id ∧ e.IsModelAt id l

theorem Linked.resolve {lookup : String → Option FieldType} (hlookup : e.Faithful lookup)
    (h : Linked e f type) : Linked e f (type.resolve lookup) := by
  induction h with
  | null => exact .null
  | @named f t n hlead hcompiled =>
    rw [FieldType.resolve]
    cases hn : lookup n with
    | none => exact .named hlead hcompiled
    | some type =>
      rcases hlookup n type _ hn hcompiled with rfl | ⟨id, rfl, hat⟩
      · exact .null
      · exact .model hlead hat
  | model hlead hat => exact .model hlead hat
  | union hlead hat => exact .union hlead hat
  | literal hlead honeOf hvalues => exact .literal hlead honeOf hvalues
  | untyped hlead ht hnone => exact .untyped hlead ht hnone
  | @plain f t jsonType hlead ht hj hobject harray =>
    have hplain : (plainType jsonType).resolve lookup = plainType jsonType := by
      unfold plainType
      split <;> rfl
    rw [hplain]
    exact .plain hlead ht hj hobject harray
  | items hlead ht harray hitems _ hlist ih =>
    exact .items hlead ht harray hitems ih hlist.resolve
  | anyItems hlead ht harray hno hlist => exact .anyItems hlead ht harray hno hlist.resolve
  | object hlead ht hobject hnone => exact .object hlead ht hobject hnone
  | choice _ ih =>
    rw [FieldType.resolve, FieldType.resolveAll_eq_map]
    refine .alternatives fun o' ho' => ?_
    obtain ⟨o, ho, rfl⟩ := List.mem_map.1 ho'
    exact ih o ho

/-! ## Fields and variants -/

/-- A field stands for a property, and its type is linked to the property's fragment. -/
structure Field.IsLinked (e : Generation) (p : String × Fragment) (field : Field) : Prop where
  /-- It has the name of the property. -/
  property : field.property = p.1
  /-- Its type is linked. -/
  type : Linked e p.2 field.type

theorem Field.IsLinked.resolve {p : String × Fragment} {field : Field}
    {lookup : String → Option FieldType} (hlookup : e.Faithful lookup) (h : field.IsLinked e p) :
    Field.IsLinked e p { field with type := field.type.resolve lookup } :=
  ⟨h.property, h.type.resolve hlookup⟩

/-- The fields of a model with their names resolved stay linked. -/
theorem isLinked_resolve {ps : List (String × Fragment)} {fields : List Field}
    {lookup : String → Option FieldType} (hlookup : e.Faithful lookup)
    (h : List.Forall₂ (fun p field => field.IsLinked e p) ps fields) :
    List.Forall₂ (fun p field => field.IsLinked e p) ps
      (fields.map fun field => { field with type := field.type.resolve lookup }) :=
  List.forall₂_map_right_iff.2 (h.imp fun _ _ hfield => hfield.resolve hlookup)

/-- A variant has the model for a branch. -/
def Variant.IsLinked (e : Generation) (branch : Fragment) (v : Variant) : Prop :=
  Linked e branch (.model v.type)

end ShapeSum
