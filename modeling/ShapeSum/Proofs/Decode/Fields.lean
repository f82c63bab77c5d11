import ShapeSum.Decode.Judge
import ShapeSum.Value.Dump

/-!
# Objects and the fields of a model

An object is taken by a model field by field.  A field looks for its property among
the keys of the object, and for its attribute where the property is missing.  When the
object is taken, every field that found an entry has what its type made of that entry,
the others have nothing, and every key was found by some field.
-/

namespace ShapeSum

variable {types : Types}

/-! ## Entries part by part -/

theorem Value.ofMembers_eq_map (members : List (String × Json)) :
    Value.ofMembers members = members.map fun p => (p.1, Value.ofJson p.2) := by
  induction members with
  | nil => rfl
  | cons p rest ih =>
    obtain ⟨k, v⟩ := p
    exact congrArg ((k, Value.ofJson v) :: ·) ih

@[simp] theorem Value.keys_ofMembers (members : List (String × Json)) :
    Entries.keys (Value.ofMembers members) = Entries.keys members := by
  rw [Value.ofMembers_eq_map, Entries.keys, List.map_map]
  rfl

theorem entryJudgements_eq_map (types : Types) (entries : List (String × Value)) :
    entryJudgements types entries = entries.map fun p => (p.1, judgement types p.2) := by
  induction entries with
  | nil => rfl
  | cons p rest ih =>
    obtain ⟨k, v⟩ := p
    exact congrArg ((k, judgement types v) :: ·) ih

theorem Value.entriesToJson_eq_map (types : Types) (mode : DumpMode)
    (entries : List (String × Value)) :
    Value.entriesToJson types mode entries =
      entries.map fun p => (p.1, Value.toJson types mode p.2) := by
  induction entries with
  | nil => rfl
  | cons p rest ih =>
    obtain ⟨k, v⟩ := p
    exact congrArg ((k, Value.toJson types mode v) :: ·) ih

theorem itemJudgements_eq_map (types : Types) (items : List Value) :
    itemJudgements types items = items.map (judgement types) := by
  induction items with
  | nil => rfl
  | cons x xs ih => exact congrArg (judgement types x :: ·) ih

theorem Value.ofItems_eq_map (items : List Json) :
    Value.ofItems items = items.map Value.ofJson := by
  induction items with
  | nil => rfl
  | cons x xs ih => exact congrArg (Value.ofJson x :: ·) ih

theorem Value.itemsToJson_eq_map (mode : DumpMode) (items : List Value) :
    itemsToJson types mode items = items.map (toJson types mode) := by
  induction items with
  | nil => rfl
  | cons x xs ih => exact congrArg (toJson types mode x :: ·) ih

theorem Value.get?_entriesToJson (mode : DumpMode) (entries : List (String × Value)) (k : String) :
    Entries.get? (entriesToJson types mode entries) k =
      (Entries.get? entries k).map (toJson types mode) := by
  rw [entriesToJson_eq_map]
  exact Entries.get?_map _ entries k

/-- The judgements of the entries of JSON data, by key. -/
theorem get?_entryJudgements_ofMembers (types : Types) (members : Entries Json) (k : String) :
    Entries.get? (entryJudgements types (Value.ofMembers members)) k =
      (Entries.get? members k).map fun j => judgement types (.ofJson j) := by
  rw [entryJudgements_eq_map, Value.ofMembers_eq_map, List.map_map]
  exact Entries.get?_map (fun j => judgement types (.ofJson j)) members k

/-- The keys of JSON data and of the judgements of its entries are the same. -/
theorem has_entryJudgements (types : Types) (members : Entries Json) (k : String) :
    Entries.has (entryJudgements types (Value.ofMembers members)) k =
      Entries.has members k := by
  rw [Entries.has, get?_entryJudgements_ofMembers, Option.isSome_map, Entries.has]

/-! ## What a field finds -/

/-- A field that finds an entry finds it under its property or under its attribute. -/
theorem Field.find?_eq_some {α : Type} {f : Field} {entries : Entries α} {key : String} {a : α}
    (h : f.find? entries = some (key, a)) :
    Entries.get? entries key = some a ∧
      (key = f.property ∨ key = f.name ∧ Entries.has entries f.property = false) := by
  unfold Field.find? at h
  split at h
  · rename_i b hb
    cases h
    exact ⟨hb, .inl rfl⟩
  · rename_i hnone
    obtain ⟨b, hb, he⟩ := Option.map_eq_some_iff.1 h
    cases he
    exact ⟨hb, .inr ⟨rfl, by rw [Entries.has, hnone]; rfl⟩⟩

/-- A field finds an entry exactly when its property or its attribute is a key. -/
theorem Field.isSome_find? {α : Type} (f : Field) (entries : Entries α) :
    (f.find? entries).isSome =
      (Entries.has entries f.property || Entries.has entries f.name) := by
  unfold Field.find? Entries.has
  cases entries.get? f.property with
  | some a => rfl
  | none =>
    rw [Option.isSome_map, Option.isSome_none, Bool.false_or]

theorem judgeParts_cons_eq_ok_iff {step key : String} {j : Judgement}
    {rest : List (String × String × Judgement)} {p : TakenParts} :
    judgeParts ((step, key, j) :: rest) = .ok p ↔
      ∃ t p', j = .ok t ∧ judgeParts rest = .ok p' ∧ p = ⟨(key, t.value) :: p'.values,
        t.exactness.min p'.exactness, Taken.addCounts t.fieldCount p'.fieldCount⟩ := by
  cases hr : judgeParts rest <;> cases j <;> simp [judgeParts, hr, eq_comm]

/-- Parts that are taken together are each taken. -/
theorem judgeParts_cons {step key : String} {j : Judgement}
    {rest : List (String × String × Judgement)} {p : TakenParts}
    (h : judgeParts ((step, key, j) :: rest) = .ok p) :
    ∃ t p', j = .ok t ∧ judgeParts rest = .ok p' ∧ p.values = (key, t.value) :: p'.values := by
  obtain ⟨t, p', hj, hrest, rfl⟩ := judgeParts_cons_eq_ok_iff.1 h
  exact ⟨t, p', hj, hrest, rfl⟩

/-- What the fields of a model have after an object was taken. -/
structure FieldsTaken (entries : List (String × Judge)) (fields : List Field)
    (values : List (String × Value)) : Prop where
  /-- A field has what its type made of the entry that it found. -/
  found : ∀ f ∈ fields, ∀ key j, f.find? entries = some (key, j) →
    ∃ t, j f.type = .ok t ∧ Entries.get? values f.name = some t.value
  /-- A field that found nothing has nothing. -/
  absent : ∀ f ∈ fields, f.find? entries = none → Entries.get? values f.name = none
  /-- Nothing else has a value. -/
  names : ∀ n, Entries.has values n = true → n ∈ fields.map Field.name

/-- One more field has what its type made of the entry that it found. -/
theorem FieldsTaken.cons {entries : List (String × Judge)} {fields : List Field}
    {values : List (String × Value)} {f : Field} {key : String} {j : Judge} {t : Taken}
    (h : FieldsTaken entries fields values) (hn : f.name ∉ fields.map Field.name)
    (hf : f.find? entries = some (key, j)) (ht : j f.type = .ok t) :
    FieldsTaken entries (f :: fields) ((f.name, t.value) :: values) := by
  have hother {g : Field} (hg : g ∈ fields) :
      Entries.get? ((f.name, t.value) :: values) g.name = Entries.get? values g.name :=
    if_neg fun e : f.name = g.name => hn (e ▸ List.mem_map_of_mem hg)
  refine ⟨fun g hg key' j' hg' => ?_, fun g hg hg' => ?_, fun n hm => ?_⟩
  · rcases List.mem_cons.1 hg with rfl | hg
    · rw [hf] at hg'
      cases hg'
      exact ⟨t, ht, if_pos rfl⟩
    · rw [hother hg]
      exact h.found g hg key' j' hg'
  · rcases List.mem_cons.1 hg with rfl | hg
    · rw [hf] at hg'
      cases hg'
    · rw [hother hg]
      exact h.absent g hg hg'
  · rw [List.map_cons, List.mem_cons]
    rw [Entries.has_iff_mem_keys, Entries.keys, List.map_cons, List.mem_cons] at hm
    exact hm.imp id fun hm => h.names n ((Entries.has_iff_mem_keys values n).2 hm)

/-- One more field that found nothing has nothing. -/
theorem FieldsTaken.skip {entries : List (String × Judge)} {fields : List Field}
    {values : List (String × Value)} {f : Field} (h : FieldsTaken entries fields values)
    (hn : f.name ∉ fields.map Field.name) (hf : f.find? entries = none) :
    FieldsTaken entries (f :: fields) values := by
  refine ⟨fun g hg key j hg' => ?_, fun g hg hg' => ?_, fun n hm => ?_⟩
  · rcases List.mem_cons.1 hg with rfl | hg
    · rw [hf] at hg'
      cases hg'
    · exact h.found g hg key j hg'
  · rcases List.mem_cons.1 hg with rfl | hg
    · cases hv : Entries.get? values g.name with
      | none => rfl
      | some v =>
        refine absurd (h.names g.name ?_) hn
        rw [Entries.has, hv]
        rfl
    · exact h.absent g hg hg'
  · exact List.mem_cons_of_mem _ (h.names n hm)

/-- The parts of the fields, taken together, are what the fields have. -/
theorem fieldsTaken_of_judgeParts {entries : List (String × Judge)} {fields : List Field}
    {p : TakenParts} (hn : (fields.map Field.name).Nodup)
    (h : judgeParts (fieldParts entries fields) = .ok p) :
    FieldsTaken entries fields p.values := by
  induction fields generalizing p with
  | nil =>
    cases h
    exact ⟨fun _ hf => (nomatch hf), fun _ hf => (nomatch hf), fun _ hn => by cases hn⟩
  | cons f fields ih =>
    obtain ⟨hf, hn⟩ := List.nodup_cons.1 hn
    unfold fieldParts at h
    cases hfind : f.find? entries with
    | some found =>
      obtain ⟨key, j⟩ := found
      rw [hfind] at h
      obtain ⟨t, p', ht, hp', hv⟩ := judgeParts_cons h
      rw [hv]
      exact (ih hn hp').cons hf hfind ht
    | none =>
      rw [hfind] at h
      dsimp only at h
      split at h
      · obtain ⟨t, p', ht, -, -⟩ := judgeParts_cons h
        cases ht
      · exact (ih hn h).skip hf hfind

/-- Every key is found by a field when no key is left over. -/
theorem found_of_extraIssues {entries : List (String × Judge)} {fields : List Field}
    (h : extraIssues fields entries = []) {k : String} (hk : Entries.has entries k = true) :
    ∃ f ∈ fields, ∃ j, f.find? entries = some (k, j) := by
  unfold extraIssues at h
  dsimp only at h
  rw [List.map_eq_nil_iff, List.filter_eq_nil_iff] at h
  obtain ⟨j, hj⟩ := Option.isSome_iff_exists.1 hk
  have hused := h (k, j) (Entries.mem_of_get? hj)
  rw [Bool.not_eq_true', Bool.not_eq_false, List.contains_iff_mem] at hused
  obtain ⟨⟨k', j'⟩, hm, he⟩ := List.mem_map.1 hused
  obtain ⟨f, hf, hfind⟩ := List.mem_filterMap.1 hm
  cases he
  exact ⟨f, hf, j', hfind⟩

/-! ## Objects that a model takes -/

theorem judgement_model (types : Types) (id : TypeId) (v : Value) :
    judgement types v (.model id) = judgeModel types id v (partJudges types v) := by
  rw [judgement_eq, judge]

/-- A model takes an object when it takes its parts and no key is left over. -/
theorem judgement_model_eq_ok_iff {id : TypeId} {members : Entries Json} {t : Taken} :
    judgement types (.ofJson (.obj members)) (.model id) = .ok t ↔
      ∃ m p, types.model? id = some m ∧
        judgeParts (fieldParts (entryJudgements types (Value.ofMembers members)) m.fields) =
          .ok p ∧
        extraIssues m.fields (entryJudgements types (Value.ofMembers members)) = [] ∧
        t = ⟨.record id p.values, .lax,
          Taken.addCounts (some p.values.length) p.fieldCount⟩ := by
  rw [judgement_model]
  unfold judgeModel
  constructor
  · intro h
    split at h
    · cases h
    · rename_i m hm
      dsimp only [judgeFields, partJudges, Value.ofJson] at h
      split at h <;> cases h
      rename_i p hp hx
      exact ⟨m, p, hm, hp, hx, rfl⟩
  · rintro ⟨m, p, hm, hp, hx, rfl⟩
    rw [hm]
    dsimp only [judgeFields, partJudges, Value.ofJson]
    rw [hp, hx]

/-- The value of a model is made by the judgement of the model, when no type in its reach is
unresolved. -/
theorem materialize_eq_ok_iff {id : TypeId} {v payload : Value} :
    materialize types id v = .ok payload ↔ types.isComplete id = true ∧
      ∃ t, judgement types v (.model id) = .ok t ∧ t.value = payload := by
  unfold materialize materializeWith
  rw [judgement_model]
  by_cases hc : types.isComplete id = true
  · rw [if_pos hc]
    cases judgeModel types id v (partJudges types v) with
    | ok t => simp [hc]
    | error is => cases hu : undefinedIn? is <;> simp [hu]
  · simp [hc]

/-- The value is rejected for the issues of the judgement, when they are a verdict. -/
theorem materialize_eq_rejected_iff {id : TypeId} {v : Value} {name : String}
    {issues : List Issue} :
    materialize types id v = .error (.rejected name issues) ↔ types.isComplete id = true ∧
      name = types.nameOf id ∧ judgement types v (.model id) = .error issues ∧
      undefinedIn? issues = none := by
  unfold materialize materializeWith
  rw [judgement_model]
  by_cases hc : types.isComplete id = true
  · rw [if_pos hc]
    cases judgeModel types id v (partJudges types v) with
    | ok t => simp
    | error is => grind
  · simp [hc]

/-- There is no verdict when the model is not complete, or a union inside comes upon one that is
not. -/
theorem materialize_eq_incomplete_iff {id : TypeId} {v : Value} {name : String} :
    materialize types id v = .error (.incomplete name) ↔
      (types.isComplete id = false ∧ name = types.nameOf id) ∨
      (types.isComplete id = true ∧ ∃ issues, judgement types v (.model id) = .error issues ∧
        undefinedIn? issues = some name) := by
  unfold materialize materializeWith
  rw [judgement_model]
  by_cases hc : types.isComplete id = true
  · rw [if_pos hc]
    cases judgeModel types id v (partJudges types v) with
    | ok t => simp [hc]
    | error is => cases hu : undefinedIn? is <;> simp [hc, hu]
  · simp [hc, eq_comm]

/-- The value that a model makes of an object has the values of its fields, and every key of the
object was found by one of them. -/
theorem record_of_judgement {id : TypeId} {members : Entries Json} {t : Taken}
    (hn : ((types.fieldsOf id).map Field.name).Nodup)
    (h : judgement types (.ofJson (.obj members)) (.model id) = .ok t) :
    ∃ values, t.value = .record id values ∧
      FieldsTaken (entryJudgements types (Value.ofMembers members)) (types.fieldsOf id) values ∧
      ∀ k, Entries.has members k = true →
        ∃ f ∈ types.fieldsOf id, ∃ j,
          f.find? (entryJudgements types (Value.ofMembers members)) = some (k, j) := by
  obtain ⟨m, p, hm, hp, hx, rfl⟩ := judgement_model_eq_ok_iff.1 h
  have hfields : types.fieldsOf id = m.fields := by rw [Types.fieldsOf, hm]
  rw [hfields] at hn ⊢
  exact ⟨p.values, rfl, fieldsTaken_of_judgeParts hn hp, fun k hk =>
    found_of_extraIssues hx ((has_entryJudgements types members k).trans hk)⟩

theorem record_of_materialize {id : TypeId} {members : Entries Json} {v : Value}
    (hn : ((types.fieldsOf id).map Field.name).Nodup)
    (h : materialize types id (.dict (Value.ofMembers members)) = .ok v) :
    ∃ values, v = .record id values ∧
      FieldsTaken (entryJudgements types (Value.ofMembers members)) (types.fieldsOf id) values ∧
      ∀ k, Entries.has members k = true →
        ∃ f ∈ types.fieldsOf id, ∃ j,
          f.find? (entryJudgements types (Value.ofMembers members)) = some (k, j) := by
  obtain ⟨-, t, ht, rfl⟩ := materialize_eq_ok_iff.1 h
  exact record_of_judgement hn ht

/-! ## Dumps of records -/

/-- The dump of a record under a key is that of a field with this property. -/
theorem exists_field_of_dumpFields {fields : List Field} {dumped : List (String × Json)}
    {k : String} {x : Json}
    (h : Entries.get? (Value.dumpFields fields .set dumped) k = some x) :
    ∃ f ∈ fields, f.property = k ∧ Entries.get? dumped f.name = some x := by
  obtain ⟨f, hf, hx⟩ := List.mem_filterMap.1 (Entries.mem_of_get? h)
  split at hx
  · rename_i j _ hj
    cases hx
    exact ⟨f, hf, rfl, hj⟩
  · rename_i hmode
    cases hmode
  · cases hx

/-- Every field that was set is dumped under its property. -/
theorem has_dumpFields {fields : List Field} {dumped : List (String × Json)} {f : Field}
    (hf : f ∈ fields) (hset : Entries.has dumped f.name = true) :
    Entries.has (Value.dumpFields fields .set dumped) f.property = true := by
  obtain ⟨x, hx⟩ := Option.isSome_iff_exists.1 hset
  rw [Entries.has_iff_mem_keys]
  refine List.mem_map.2 ⟨(f.property, x), List.mem_filterMap.2 ⟨f, hf, ?_⟩, rfl⟩
  rw [hx]

/-! ## Dispatches that match -/

/-- The variant and the payload of a dispatch that matched. -/
def Outcome.taken? : Outcome → Option (Variant × Value)
  | .matched v payload => some (v, payload)
  | _ => none

theorem Outcome.eq_matched {o : Outcome} {v : Variant} {payload : Value}
    (h : o.taken? = some (v, payload)) : o = .matched v payload := by
  unfold taken? at h
  split at h <;> cases h
  rfl

/-- A union that takes an object, and a property of what it makes of it. -/
theorem exists_matched {id : TypeId} {members : Entries Json}
    {p : UnionType → Variant × Value → Bool}
    (h : (types.union? id).any (fun u =>
      ((dispatch types u (Value.ofMembers members)).outcome.taken?).any (p u)) = true) :
    ∃ u v payload, types.union? id = some u ∧
      (dispatch types u (Value.ofMembers members)).outcome = .matched v payload ∧
      p u (v, payload) = true := by
  obtain ⟨u, hu, hd⟩ := (Option.any_eq_true _ _).1 h
  obtain ⟨⟨v, payload⟩, hv, hp⟩ := (Option.any_eq_true _ _).1 hd
  exact ⟨u, v, payload, hu, Outcome.eq_matched hv, hp⟩

end ShapeSum
