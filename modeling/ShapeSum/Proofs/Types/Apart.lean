import ShapeSum.Proofs.Types.Outline
import ShapeSum.Proofs.Types.Settled

/-!
# Options that stay apart

Where several JSON types are declared, a choice has one option for each.  So at most one
option is for lists and at most one for objects, and literals have no other option beside
them than null.  A type is *apart* when this holds for all choices in it.  The operations
that make types out of types keep them apart, and so does resolving names that stand for
null or for types of objects (`Apart.resolve`).

A model is *clear* when its attributes and its properties are distinct and the types of its
fields are apart.
-/

namespace ShapeSum

namespace FieldType

variable {t o : FieldType} {ts os : List FieldType}

/-! ## Options -/

/-- A kind of containers. -/
inductive Container where
  /-- Lists. -/
  | list
  /-- Objects. -/
  | object
  deriving DecidableEq

/-- The kind of containers that a type is for, if it is for one. -/
def container? : FieldType → Option Container
  | .list _ => some .list
  | .tuple _ => some .list
  | .object => some .object
  | .model _ => some .object
  | .union _ => some .object
  | .named _ => some .object
  | _ => none

/-- Whether a type is one of literals. -/
def isLiteral : FieldType → Bool
  | .literal _ => true
  | _ => false

/-- Options are apart when none is a choice, no two are for one kind of containers, and literals
have only null beside them. -/
structure OptionsApart (os : List FieldType) : Prop where
  flat : ∀ o ∈ os, o.isChoice = false
  container : ∀ o ∈ os, ∀ o' ∈ os, ∀ c, o.container? = some c → o'.container? = some c → o = o'
  literal : ∀ o ∈ os, o.isLiteral = true → ∀ o' ∈ os, o' = o ∨ o' = .null

theorem optionsApart_singleton (h : t.isChoice = false) : OptionsApart [t] := by
  refine ⟨fun o ho => ?_, fun o ho o' ho' _ _ _ => ?_, fun o ho _ o' ho' => .inl ?_⟩
  · rw [List.mem_singleton.1 ho, h]
  · rw [List.mem_singleton.1 ho, List.mem_singleton.1 ho']
  · rw [List.mem_singleton.1 ho, List.mem_singleton.1 ho']

/-- Null may always be added to options, and any of them left out. -/
theorem OptionsApart.of_subset {os' : List FieldType} (h : OptionsApart os)
    (hsub : ∀ o ∈ os', o ∈ os ∨ o = .null) : OptionsApart os' := by
  refine ⟨fun o ho => ?_, fun o ho o' ho' c hc hc' => ?_, fun o ho hl o' ho' => ?_⟩
  · rcases hsub o ho with ho | rfl
    · exact h.flat o ho
    · rfl
  · rcases hsub o ho with ho | rfl
    · rcases hsub o' ho' with ho' | rfl
      · exact h.container o ho o' ho' c hc hc'
      · cases hc'
    · cases hc
  · rcases hsub o ho with ho | rfl
    · rcases hsub o' ho' with ho' | rfl
      · exact h.literal o ho hl o' ho'
      · exact .inr rfl
    · cases hl

/-! ## Types -/

/-- The options of every choice in a type are apart. -/
inductive Apart : FieldType → Prop
  | text : Apart .text
  | integer : Apart .integer
  | number : Apart .number
  | boolean : Apart .boolean
  | null : Apart .null
  | any : Apart .any
  | object : Apart .object
  | literal (values : List Literal) : Apart (.literal values)
  | model (id : TypeId) : Apart (.model id)
  | union (id : TypeId) : Apart (.union id)
  | named (name : String) : Apart (.named name)
  | list {t : FieldType} : Apart t → Apart (.list t)
  | tuple {t : FieldType} : Apart t → Apart (.tuple t)
  | choice {os : List FieldType} : OptionsApart os → (∀ o ∈ os, Apart o) → Apart (.choice os)

theorem Apart.options (h : t.Apart) : OptionsApart t.options := by
  cases h with
  | choice hos _ => exact hos
  | _ => exact optionsApart_singleton rfl

theorem Apart.option (h : t.Apart) (ho : o ∈ t.options) : o.Apart := by
  cases h with
  | choice _ hos => exact hos o ho
  | _ =>
    cases List.mem_singleton.1 ho
    constructor <;> assumption

theorem Apart.isFlat (h : t.Apart) : t.IsFlat := h.options.flat

theorem apart_of_options (hos : OptionsApart t.options) (h : ∀ o ∈ t.options, o.Apart) :
    t.Apart := by
  cases t with
  | choice os => exact .choice hos h
  | _ => exact h _ (List.mem_singleton_self _)

/-- A choice of types whose options are apart is apart. -/
theorem Apart.alternatives (h : ∀ t ∈ ts, t.Apart) (hos : OptionsApart os)
    (hsub : ∀ t ∈ ts, ∀ o ∈ t.options, o ∈ os ∨ o = .null) : (alternatives ts).Apart := by
  have hflat : ∀ t ∈ ts, t.IsFlat := fun t ht => (h t ht).isFlat
  refine apart_of_options (hos.of_subset fun o ho => ?_) fun o ho => ?_
  · obtain ⟨t, ht, ho⟩ := (mem_options_alternatives hflat).1 ho
    exact hsub t ht o ho
  · obtain ⟨t, ht, ho⟩ := (mem_options_alternatives hflat).1 ho
    exact (h t ht).option ho

theorem Apart.optional (h : t.Apart) : t.optional.Apart := by
  refine .alternatives (fun u hu => ?_) h.options fun u hu o ho => ?_
  · rcases List.mem_cons.1 hu with rfl | hu
    · exact h
    · cases List.mem_singleton.1 hu
      exact .null
  · rcases List.mem_cons.1 hu with rfl | hu
    · exact .inl ho
    · cases List.mem_singleton.1 hu
      exact .inr (List.mem_singleton.1 ho)

/-! ## Resolving names -/

/-- A type that a name may stand for: null, or a type of objects. -/
def MayStand (t : FieldType) : Prop := t = .null ∨ t.container? = some .object

theorem MayStand.apart (h : t.MayStand) : t.Apart := by
  rcases h with rfl | h
  · exact .null
  · cases t with
    | object => exact .object
    | model id => exact .model id
    | union id => exact .union id
    | named name => exact .named name
    | _ => cases h

theorem MayStand.isChoice (h : t.MayStand) : t.isChoice = false := by
  rcases h with rfl | h
  · rfl
  · cases t with
    | choice os => cases h
    | _ => rfl

theorem MayStand.isLiteral (h : t.MayStand) : t.isLiteral = false := by
  rcases h with rfl | h
  · rfl
  · cases t with
    | literal values => cases h
    | _ => rfl

variable {lookup : String → Option FieldType}

/-- A type whose names are resolved is null or for the same containers as before, and no type of
literals comes about. -/
theorem container?_resolve (hlookup : ∀ n t, lookup n = some t → t.MayStand)
    (h : o.isChoice = false) :
    (o.resolve lookup).isChoice = false ∧
      (o.resolve lookup = .null ∨ (o.resolve lookup).container? = o.container?) ∧
      ((o.resolve lookup).isLiteral = true → o.resolve lookup = o) := by
  cases o with
  | named n =>
    unfold resolve
    cases hn : lookup n with
    | none => exact ⟨rfl, .inr rfl, fun hl => absurd hl Bool.false_ne_true⟩
    | some t =>
      have ht := hlookup n t hn
      refine ⟨ht.isChoice, ht, fun hl => ?_⟩
      rw [Option.getD_some, ht.isLiteral] at hl
      cases hl
  | choice os => cases h
  | literal values => exact ⟨rfl, .inr rfl, fun _ => rfl⟩
  | _ => exact ⟨rfl, .inr rfl, fun hl => absurd hl Bool.false_ne_true⟩

theorem OptionsApart.resolve (hlookup : ∀ n t, lookup n = some t → t.MayStand)
    (h : OptionsApart os) : OptionsApart (os.map (resolve lookup)) := by
  have hresolve {o : FieldType} (ho : o ∈ os) := container?_resolve hlookup (h.flat o ho)
  have hcontainer {o : FieldType} (ho : o ∈ os) {c : Container}
      (hc : (o.resolve lookup).container? = some c) : o.container? = some c := by
    rcases (hresolve ho).2.1 with hnull | hsame
    · rw [hnull] at hc
      cases hc
    · exact hsame.symm.trans hc
  refine ⟨List.forall_mem_map.2 fun o ho => (hresolve ho).1, List.forall_mem_map.2 fun o ho =>
    List.forall_mem_map.2 fun o' ho' c hc hc' => ?_, List.forall_mem_map.2 fun o ho hl =>
    List.forall_mem_map.2 fun o' ho' => ?_⟩
  · rw [h.container o ho o' ho' c (hcontainer ho hc) (hcontainer ho' hc')]
  · have hsame := (hresolve ho).2.2 hl
    rw [hsame] at hl
    rcases h.literal o ho hl o' ho' with rfl | rfl
    · exact .inl rfl
    · exact .inr rfl

/-- Resolving names keeps a type apart when they stand for null or for types of objects. -/
theorem Apart.resolve (hlookup : ∀ n t, lookup n = some t → t.MayStand) (h : t.Apart) :
    (t.resolve lookup).Apart := by
  induction h with
  | named n =>
    unfold FieldType.resolve
    cases hn : lookup n with
    | none => exact .named n
    | some t => exact (hlookup n t hn).apart
  | list _ ih => exact .list ih
  | tuple _ ih => exact .tuple ih
  | @choice os hos _ ih =>
    unfold FieldType.resolve
    rw [resolveAll_eq_map]
    refine .alternatives (List.forall_mem_map.2 ih) (hos.resolve hlookup) ?_
    intro t ht o ho
    obtain ⟨u, hu, rfl⟩ := List.mem_map.1 ht
    rw [options_of_not_isChoice (container?_resolve hlookup (hos.flat u hu)).1] at ho
    exact .inl (List.mem_singleton.1 ho ▸ ht)
  | _ => constructor

end FieldType

variable {types : Types}

/-! ## Clear models -/

/-- The attributes and the properties of a model are distinct, and the types of its fields are
apart. -/
structure Model.Clear (m : Model) : Prop where
  names : (m.fields.map Field.name).Nodup
  properties : (m.fields.map Field.property).Nodup
  types : ∀ f ∈ m.fields, f.type.Apart

/-- All models are clear. -/
def Types.Clear (types : Types) : Prop := ∀ id m, types.model? id = some m → m.Clear

theorem Types.Clear.nodup_names (h : types.Clear) (id : TypeId) :
    ((types.fieldsOf id).map Field.name).Nodup := by
  unfold Types.fieldsOf
  cases hm : types.model? id with
  | none => exact .nil
  | some m => exact (h id m hm).names

theorem Types.Clear.add_model (h : types.Clear) {m : Model} (hm : m.Clear) :
    Types.Clear (types ++ [.model m]) := by
  intro id m' hm'
  rw [Types.model?_eq_some, List.getElem?_append] at hm'
  split at hm'
  · exact h id m' (Types.model?_eq_some.2 hm')
  · cases List.mem_singleton.1 (List.mem_of_getElem? hm')
    exact hm

theorem Types.Clear.add_union (h : types.Clear) (u : UnionType) :
    Types.Clear (types ++ [.union u]) := by
  intro id m hm
  rw [Types.model?_eq_some, List.getElem?_append] at hm
  split at hm
  · exact h id m (Types.model?_eq_some.2 hm)
  · cases List.mem_singleton.1 (List.mem_of_getElem? hm)

theorem Types.Clear.set (h : types.Clear) {id : TypeId} {m : Model} (hm : m.Clear) :
    Types.Clear (types.set id (.model m)) := by
  intro id' m' hm'
  rw [Types.model?_eq_some, List.getElem?_set] at hm'
  split at hm'
  · split at hm'
    · cases hm'
      exact hm
    · cases hm'
  · exact h id' m' (Types.model?_eq_some.2 hm')

/-- Resolving the names in its types keeps a model clear. -/
theorem Model.Clear.resolve {m : Model} (h : m.Clear) {lookup : String → Option FieldType}
    (hlookup : ∀ n t, lookup n = some t → t.MayStand) :
    Model.Clear { m with fields := m.fields.map fun f =>
      { f with type := f.type.resolve lookup } } := by
  refine ⟨?_, ?_, List.forall_mem_map.2 fun f hf => (h.types f hf).resolve hlookup⟩
  · rw [List.map_map]
    exact h.names
  · rw [List.map_map]
    exact h.properties

theorem mayStand_of_ownType? {model name : String} {id : TypeId} {t : FieldType}
    (h : ownType? model id name = some t) : t.MayStand := by
  unfold ownType? at h
  split at h
  · cases h
    exact .inl rfl
  · split at h
    · cases h
    · split at h <;> cases h
      exact .inr rfl

theorem mayStand_fieldType (h : Handle) : h.fieldType.MayStand := by
  cases h with
  | reserved => exact .inl rfl
  | _ => exact .inr rfl

theorem Model.Clear.finish {m : Model} (h : m.Clear) {name : String} {id : TypeId}
    {fields' : List Field} (hfinish : finishFields name id m.fields = .ok fields') :
    Model.Clear { m with fields := fields' } := by
  unfold finishFields at hfinish
  split at hfinish
  · cases hfinish
  · unfold resolveOwn at hfinish
    dsimp only at hfinish
    split at hfinish <;> cases hfinish
    exact h.resolve fun _ _ => mayStand_of_ownType?

theorem Model.Clear.settle {m m' : Model} {names : Namespace} (h : m.Clear)
    (hsettle : m.settle names = .ok m') : m'.Clear := by
  unfold Model.settle at hsettle
  dsimp only at hsettle
  split at hsettle <;> cases hsettle
  refine h.resolve fun n t ht => ?_
  obtain ⟨handle, -, rfl⟩ := Option.map_eq_some_iff.1 ht
  exact mayStand_fieldType handle

end ShapeSum
