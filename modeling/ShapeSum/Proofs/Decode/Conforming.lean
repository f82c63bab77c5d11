import ShapeSum.Proofs.Decode.Judging
import ShapeSum.Proofs.Decode.Taking
import ShapeSum.Proofs.Generation.Regime

/-!
# JSON that conforms to a schema

A JSON value conforms to a fragment when at each depth it is what the fragment there
says: a scalar of a declared type, a list of conforming items, an object of the declared
properties that has the required ones, one of the literals, or an object for one of the
branches.  Where nothing is declared, or a type that is not known, everything conforms.

What a type takes is dumped as JSON again.  The lemmas here say what the dumps of each
type are like, given what those of its parts are like.
-/

namespace ShapeSum

/-! ## Conformance -/

/-- The names of the JSON types. -/
def jsonTypes : List String :=
  ["object", "array", "string", "integer", "number", "boolean", "null"]

/-- Whether a value is a scalar of the JSON type of a name. -/
def Json.isScalarOf (name : String) : Json → Bool
  | .str _ => name == "string"
  | .int _ => name == "integer" || name == "number"
  | .float x => name == "number" && x.isFinite
  | .bool _ => name == "boolean"
  | .null => name == "null"
  | _ => false

/-- Whether a fragment requires a property, by its list or by the mark of the property itself. -/
def Fragment.requires (f : Fragment) (p : String × Fragment) : Bool :=
  ((requiredNames f).toOption.getD []).contains p.1 || marksRequired p.2

mutual

/-- A value conforms to a fragment, which is taken as it is. -/
inductive Conforms (view : String → Fetch) : Fragment → Json → Prop
  /-- Nothing is declared. -/
  | untyped {t : Fragment} {j : Json} : t.IsTyped → t.declared = [] → Conforms view t j
  /-- A type is declared that is not known. -/
  | unknown {t : Fragment} {j : Json} {name : String} : t.IsTyped → name ∈ t.declared →
      name ∉ jsonTypes → Conforms view t j
  /-- A scalar of a declared type. -/
  | scalar {t : Fragment} {j : Json} {name : String} : t.IsTyped → name ∈ t.declared →
      j.isScalarOf name = true → Conforms view t j
  /-- A list of conforming items, if something is said about the items. -/
  | array {t : Fragment} {items : List Json} : t.IsTyped → "array" ∈ t.declared →
      (∀ ms, t.get? "items" = some (.obj ms) → ∀ x ∈ items,
        PartConforms view (t.part "items" (.obj ms)) x) → Conforms view t (.arr items)
  /-- An object, if no properties are declared. -/
  | object {t : Fragment} {members : List (String × Json)} : t.IsTyped → "object" ∈ t.declared →
      t.properties = [] → Conforms view t (.obj members)
  /-- An object of declared properties, with those that are required. -/
  | record {t : Fragment} {members : List (String × Json)} : t.isObject = true →
      (∀ m ∈ members, EntryConforms view t m) →
      (∀ p ∈ t.properties, t.requires p = true → Entries.has members p.1 = true) →
      Conforms view t (.obj members)
  /-- One of the literals. -/
  | literal {t : Fragment} {values : List Literal} {l : Literal} : t.hasOneOf = false →
      literals? t = some values → l ∈ values → Conforms view t l.toJson
  /-- An object that conforms to a branch. -/
  | branch {t b : Fragment} {members : List (String × Json)} : b ∈ t.branches →
      PartConforms view b (.obj members) → Conforms view t (.obj members)

/-- A value conforms to the fragment where the references from another one end. -/
inductive PartConforms (view : String → Fetch) : Fragment → Json → Prop
  | leads {f t : Fragment} {j : Json} : LeadsTo view f t → Conforms view t j →
      PartConforms view f j

/-- A member of an object conforms to a property of that name, or is null where the property is not
required. -/
inductive EntryConforms (view : String → Fetch) : Fragment → String × Json → Prop
  | value {t g : Fragment} {name : String} {j : Json} : (name, g) ∈ t.properties →
      PartConforms view g j → EntryConforms view t (name, j)
  | null {t g : Fragment} {name : String} : (name, g) ∈ t.properties →
      t.requires (name, g) = false → EntryConforms view t (name, .null)

end

/-! ## Dumps of what types take -/

variable {types : Types} {P : Json → Prop}

theorem Value.toJson_ofLiteral (l : Literal) (dump : DumpMode) :
    (ofLiteral l).toJson types dump = l.toJson := by
  cases l <;> rfl

/-- Whatever a type takes, its dump has a property. -/
def FieldType.DumpsTo (type : FieldType) (types : Types) (P : Json → Prop) : Prop :=
  ∀ j t, judgement types (.ofJson j) type = .ok t → P (t.value.toJson types .set)

namespace FieldType

theorem dumpsTo_of_options {type : FieldType} (h : ∀ o ∈ type.options, o.DumpsTo types P) :
    type.DumpsTo types P := by
  intro j t ht
  obtain ⟨o, ho, hot⟩ := exists_option_of_judgement ht
  exact h o ho j t hot

theorem dumpsTo_text (h : ∀ s, P (.str s)) : text.DumpsTo types P := by
  intro j t ht
  rw [judgement_eq, judge] at ht
  obtain ⟨s, e, -, rfl⟩ := of_judgeScalar ht
  exact h s

theorem dumpsTo_integer (h : ∀ n, P (.int n)) : integer.DumpsTo types P := by
  intro j t ht
  rw [judgement_eq, judge] at ht
  obtain ⟨n, e, -, rfl⟩ := of_judgeScalar ht
  exact h n

theorem dumpsTo_number (h : ∀ x, x.isFinite = true → P (.float x)) :
    number.DumpsTo types P := by
  intro j t ht
  rw [judgement_eq, judge] at ht
  obtain ⟨x, e, hx, rfl⟩ := of_judgeScalar ht
  have hfinite := isFinite_of_number hx
  rw [Value.toJson, if_pos hfinite]
  exact h x hfinite

theorem dumpsTo_boolean (h : ∀ b, P (.bool b)) : boolean.DumpsTo types P := by
  intro j t ht
  rw [judgement_eq, judge] at ht
  obtain ⟨b, e, -, rfl⟩ := of_judgeScalar ht
  exact h b

theorem dumpsTo_null (h : P .null) : null.DumpsTo types P := by
  intro j t ht
  rw [judgement_eq] at ht
  unfold judge at ht
  split at ht <;> cases ht
  exact h

theorem dumpsTo_any (h : ∀ j, P j) : any.DumpsTo types P := fun _ _ _ => h _

theorem dumpsTo_literal {values : List Literal} (h : ∀ l ∈ values, P l.toJson) :
    (literal values).DumpsTo types P := by
  intro j t ht
  rw [judgement_eq, judge] at ht
  obtain ⟨l, e, hl, rfl⟩ := of_judgeScalar ht
  rw [Value.toJson_ofLiteral]
  exact h l (mem_of_literal hl)

theorem dumpsTo_object (h : ∀ members, P (.obj members)) : object.DumpsTo types P := by
  intro j t ht
  rw [judgement_eq] at ht
  unfold judge at ht
  split at ht <;> cases ht <;> exact h _

/-- Items are dumped one by one. -/
theorem dumps_of_items {item : FieldType} {wrap : List Value → Value} {least : Exactness}
    {items : List Json} {Q : Json → Prop} {t : Taken} (hitem : item.DumpsTo types Q)
    (hwrap : ∀ vs, (wrap vs).toJson types .set = .arr (vs.map (Value.toJson types .set)))
    (h : ∀ xs, (∀ x ∈ xs, Q x) → P (.arr xs))
    (ht : judgeItems wrap least item (itemJudgements types (Value.ofItems items)) = .ok t) :
    P (t.value.toJson types .set) := by
  obtain ⟨ts, hts, rfl⟩ := judgeItems_ofItems_eq_ok_iff.1 ht
  show P ((wrap _).toJson types .set)
  rw [hwrap, List.map_map]
  refine h _ fun x hx => ?_
  obtain ⟨t', ht', rfl⟩ := List.mem_map.1 hx
  obtain ⟨j, -, hj⟩ := exists_left_of_forall₂ hts ht'
  exact hitem j t' hj

theorem dumpsTo_list {item : FieldType} {Q : Json → Prop} (hitem : item.DumpsTo types Q)
    (h : ∀ xs, (∀ x ∈ xs, Q x) → P (.arr xs)) : (list item).DumpsTo types P := by
  intro j t ht
  rw [judgement_eq] at ht
  unfold judge at ht
  cases j with
  | arr items =>
    refine dumps_of_items hitem (fun vs => ?_) h ht
    rw [Value.toJson, Value.itemsToJson_eq_map]
  | _ => cases ht

theorem dumpsTo_tuple {item : FieldType} {Q : Json → Prop} (hitem : item.DumpsTo types Q)
    (h : ∀ xs, (∀ x ∈ xs, Q x) → P (.arr xs)) : (tuple item).DumpsTo types P := by
  intro j t ht
  rw [judgement_eq] at ht
  unfold judge at ht
  cases j with
  | arr items =>
    refine dumps_of_items hitem (fun vs => ?_) h ht
    rw [Value.toJson, Value.itemsToJson_eq_map]
  | _ => cases ht

/-- The dump of a record comes field by field. -/
theorem exists_taken_of_mem_dumpFields {fields : List Field} {members : Entries Json}
    {values : List (String × Value)} {m : String × Json}
    (h : FieldsTaken (entryJudgements types (Value.ofMembers members)) fields values)
    (hm : m ∈ Value.dumpFields fields .set (Value.entriesToJson types .set values)) :
    ∃ f ∈ fields, ∃ key j t, f.find? members = some (key, j) ∧
      judgement types (.ofJson j) f.type = .ok t ∧ m = (f.property, t.value.toJson types .set) := by
  obtain ⟨f, hf, hd⟩ := List.mem_filterMap.1 hm
  rw [Value.get?_entriesToJson] at hd
  have hfind := Field.find?_entryJudgements f types members
  cases hmem : f.find? members with
  | none =>
    rw [hmem] at hfind
    rw [h.absent f hf hfind] at hd
    cases hd
  | some found =>
    obtain ⟨key, j⟩ := found
    rw [hmem] at hfind
    obtain ⟨t, ht, hv⟩ := h.found f hf _ _ hfind
    rw [hv] at hd
    cases hd
    exact ⟨f, hf, key, j, t, hmem, ht, rfl⟩

/-- A model dumps objects whose members come from its fields, with those that are required. -/
theorem dumpsTo_model {id : TypeId} {m : Model} {Q : String × Json → Prop}
    (hm : types.model? id = some m) (hn : (m.fields.map Field.name).Nodup)
    (hfields : ∀ f ∈ m.fields, f.type.DumpsTo types fun j => Q (f.property, j))
    (h : ∀ members : Entries Json, (∀ p ∈ members, Q p) →
      (∀ f ∈ m.fields, f.required = true → Entries.has members f.property = true) →
      P (.obj members)) : (model id).DumpsTo types P := by
  have hfieldsOf : types.fieldsOf id = m.fields := by rw [Types.fieldsOf, hm]
  intro j t ht
  obtain ⟨members, rfl⟩ := exists_members_of_takes_model ⟨t, ht⟩
  rw [← hfieldsOf] at hn
  obtain ⟨values, hv, htaken, -⟩ := record_of_judgement hn ht
  rw [hfieldsOf] at htaken
  rw [hv, Value.toJson, hfieldsOf]
  refine h _ (fun p hp => ?_) fun f hf hrequired => ?_
  · obtain ⟨f, hf, key, x, t', -, ht', rfl⟩ := exists_taken_of_mem_dumpFields htaken hp
    exact hfields f hf x t' ht'
  · -- What is required was found, so it is set.
    have hsuits := ((takes_model_iff hm).1 ⟨t, ht⟩).1 f hf
    refine has_dumpFields hf ?_
    cases hfind : f.find? members with
    | none =>
      rw [hsuits.absent hfind] at hrequired
      cases hrequired
    | some found =>
      have hfound := Field.find?_entryJudgements f types members
      rw [hfind] at hfound
      obtain ⟨t', -, hget⟩ := htaken.found f hf _ _ hfound
      rw [Entries.has, Value.get?_entriesToJson, hget]
      rfl

/-- A union dumps what the models of its variants dump. -/
theorem dumpsTo_union {id : TypeId} {u : UnionType} (hu : types.union? id = some u)
    (h : ∀ w ∈ u.variants, (model w.type).DumpsTo types P) : (union id).DumpsTo types P := by
  intro j t ht
  obtain ⟨u', members, w, payload, hu', rfl, hd, rfl⟩ := exists_matched_of_judgement ht
  cases hu.symm.trans hu'
  obtain ⟨-, t', ht', rfl⟩ := materialize_eq_ok_iff.1 (materialize_of_matched hd)
  have hw : w ∈ u.variants := by
    rw [dispatch_eq] at hd
    exact (List.mem_filter.1 (mem_of_select (dispatchOver_eq_matched_iff.1 hd).1)).1
  exact h w hw (.obj members) t' ht'

end FieldType

end ShapeSum
