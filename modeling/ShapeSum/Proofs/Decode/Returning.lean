import ShapeSum.Proofs.Decode.Judging
import ShapeSum.Proofs.Generation.Depiction

/-!
# What a decoded object gives back

The JSON of a decoded object should have the keys of the object and no others, and
under each key what the type of that property makes of the entry.  A field that finds
no entry under its property also looks under its attribute, and an attribute may be
the property of another field: then one entry is given back under two keys.
`returns_iff` says that nothing else can go wrong.
-/

namespace ShapeSum

variable {s : Generation} {types : Types} {fields : List Field} {members : Entries Json}

/-! ## What should be given back -/

/-- The JSON of an object gives the object back: it has the same keys, and under each of them what
the type of a field with this property makes of the entry. -/
def Returns (types : Types) (fields : List Field) (members : Entries Json) (j : Json) : Prop :=
  ∃ returned, j = .obj returned ∧
    (∀ k, Entries.has returned k = Entries.has members k) ∧
    ∀ k x, Entries.get? returned k = some x → ∃ y f t, Entries.get? members k = some y ∧
      f ∈ fields ∧ f.property = k ∧ judgement types (.ofJson y) f.type = .ok t ∧
      x = t.value.toJson types .set

/-- A field takes the entry of another key: its property is missing, but its attribute is a key. -/
def Field.Borrows (f : Field) (members : Entries Json) : Prop :=
  Entries.has members f.property = false ∧ Entries.has members f.name = true

/-! ## What a field finds in an object -/

/-- A field that does not borrow finds the entry of its own property. -/
theorem find?_of_not_borrows {f : Field} {key : String} {j : Judge}
    (hb : ¬f.Borrows members)
    (h : f.find? (entryJudgements types (Value.ofMembers members)) = some (key, j)) :
    key = f.property ∧ ∃ y, Entries.get? members f.property = some y ∧
      j = judgement types (.ofJson y) := by
  obtain ⟨hget, hkey⟩ := Field.find?_eq_some h
  have hown : key = f.property := by
    rcases hkey with hkey | ⟨hkey, hmissing⟩
    · exact hkey
    · refine absurd ⟨?_, ?_⟩ hb
      · rw [← has_entryJudgements types, hmissing]
      · rw [← has_entryJudgements types, ← hkey, Entries.has, hget]
        rfl
  subst hown
  rw [get?_entryJudgements_ofMembers] at hget
  obtain ⟨y, hy, hj⟩ := Option.map_eq_some_iff.1 hget
  exact ⟨rfl, y, hy, hj.symm⟩

/-- A field that borrows finds the entry of its attribute. -/
theorem isSome_find?_of_borrows {f : Field} (hb : f.Borrows members) :
    (f.find? (entryJudgements types (Value.ofMembers members))).isSome = true := by
  rw [Field.isSome_find?, has_entryJudgements, has_entryJudgements, hb.1, hb.2]
  rfl

/-! ## What is given back -/

variable {values : List (String × Value)}

/-- A field is set exactly when it found an entry. -/
theorem FieldsTaken.has_name {entries : List (String × Judge)}
    (h : FieldsTaken entries fields values) {f : Field} (hf : f ∈ fields) :
    Entries.has values f.name = (f.find? entries).isSome := by
  cases hfind : f.find? entries with
  | some found =>
    obtain ⟨key, j⟩ := found
    obtain ⟨t, -, ht⟩ := h.found f hf key j hfind
    rw [Entries.has, ht]
    rfl
  | none =>
    rw [Entries.has, h.absent f hf hfind]
    rfl

/-- A record that was taken from an object gives the object back exactly when no field of it borrows
an entry. -/
theorem returns_record_iff
    (htaken : FieldsTaken (entryJudgements types (Value.ofMembers members)) fields values)
    (hused : ∀ k, Entries.has members k = true → ∃ f ∈ fields, ∃ j,
      f.find? (entryJudgements types (Value.ofMembers members)) = some (k, j)) :
    Returns types fields members
        (.obj (Value.dumpFields fields .set (Value.entriesToJson types .set values))) ↔
      ∀ f ∈ fields, ¬f.Borrows members := by
  have hget (n : String) : Entries.get? (Value.entriesToJson types .set values) n =
      (Entries.get? values n).map (Value.toJson types .set) := by
    rw [Value.entriesToJson_eq_map]
    exact Entries.get?_map _ values n
  have hset {f : Field} (hf : f ∈ fields) : Entries.has (Value.entriesToJson types .set values)
      f.name = (f.find? (entryJudgements types (Value.ofMembers members))).isSome := by
    rw [Entries.has, hget, Option.isSome_map]
    exact htaken.has_name hf
  constructor
  · rintro ⟨returned, he, hkeys, -⟩ f hf hb
    cases he
    -- The property of a field that borrows is given back, though it is no key of the object.
    have hgiven := has_dumpFields hf ((hset hf).trans (isSome_find?_of_borrows hb))
    rw [hkeys, hb.1] at hgiven
    cases hgiven
  · intro hb
    -- What is given back under a key comes from a field that found the key's own entry.
    have hsource (k : String) (x : Json) (hx : Entries.get?
        (Value.dumpFields fields .set (Value.entriesToJson types .set values)) k = some x) :
        ∃ y f t, Entries.get? members k = some y ∧ f ∈ fields ∧ f.property = k ∧
          judgement types (.ofJson y) f.type = .ok t ∧ x = t.value.toJson types .set := by
      obtain ⟨f, hf, hk, hx⟩ := exists_field_of_dumpFields hx
      have hfound := (hset hf).symm.trans (congrArg Option.isSome hx)
      obtain ⟨⟨key, j⟩, hfind⟩ := Option.isSome_iff_exists.1 hfound
      obtain ⟨-, y, hy, rfl⟩ := find?_of_not_borrows (hb f hf) hfind
      obtain ⟨t, ht, hv⟩ := htaken.found f hf key _ hfind
      rw [hget, hv] at hx
      exact ⟨y, f, t, hk ▸ hy, hf, hk, ht, (Option.some.inj hx).symm⟩
    refine ⟨_, rfl, fun k => Bool.eq_iff_iff.2 ⟨fun hk => ?_, fun hk => ?_⟩, hsource⟩
    · obtain ⟨x, hx⟩ := Option.isSome_iff_exists.1 hk
      obtain ⟨y, -, -, hy, -⟩ := hsource k x hx
      rw [Entries.has, hy]
      rfl
    · obtain ⟨f, hf, j, hfind⟩ := hused k hk
      obtain ⟨hkey, -⟩ := find?_of_not_borrows (hb f hf) hfind
      rw [hkey]
      refine has_dumpFields hf ((hset hf).trans ?_)
      rw [hfind]
      rfl

/-- For every union over the types of a reachable state and every object that it takes, the JSON of
the value gives the object back exactly when no field of the selected variant borrows an entry. -/
theorem returns_iff (hs : Reachable s) (id : TypeId) (u : UnionType) (members : Entries Json)
    {v : Variant} {payload : Value}
    (h : (dispatch s.types u (Value.ofMembers members)).outcome = .matched v payload) :
    Returns s.types (s.types.fieldsOf v.type) members
        ((Value.choice id v.tag payload).toJson s.types .set) ↔
      ∀ f ∈ s.types.fieldsOf v.type, ¬f.Borrows members := by
  obtain ⟨values, rfl, htaken, hused⟩ :=
    record_of_materialize (hs.nodup_names v.type) (materialize_of_matched h)
  exact returns_record_iff htaken hused

/-! ## A property that is the attribute of another one -/

/-- A document with a property whose attribute is another property. -/
def aliasDocument : Json :=
  .obj [("oneOf", .arr [.obj [("type", .str "object"), ("properties", .obj [
    ("_id", .obj [("type", .str "string")]), ("id", .obj [("type", .str "string")])])]])]

/-- The state after the union of the document was generated. -/
def aliasState : Generation :=
  ((generate { config := {} } "record" ⟨aliasDocument, "memory:///schema.json", ""⟩).run
    { store := (Store.empty fun _ => .unavailable "").add "memory:///schema.json"
        aliasDocument }).2

theorem reachable_aliasState : Reachable aliasState := .generated _ _ _ (.fresh _)

instance (f : Field) (members : Entries Json) : Decidable (f.Borrows members) :=
  inferInstanceAs (Decidable (Entries.has members f.property = false ∧
    Entries.has members f.name = true))

/-- An object with both properties of the document. -/
def bothMembers : Entries Json := [("id", .str "x"), ("_id", .str "y")]

/-- An object with both properties is given back. -/
theorem returns_aliasState : ∃ u v payload, aliasState.types.union? 1 = some u ∧
    (dispatch aliasState.types u (Value.ofMembers bothMembers)).outcome = .matched v payload ∧
    Returns aliasState.types (aliasState.types.fieldsOf v.type) bothMembers
      ((Value.choice 1 v.tag payload).toJson aliasState.types .set) := by
  have h : (aliasState.types.union? 1).any (fun u =>
      ((dispatch aliasState.types u (Value.ofMembers bothMembers)).outcome.taken?).any
        fun r : Variant × Value =>
          decide (∀ f ∈ aliasState.types.fieldsOf r.1.type, ¬f.Borrows bothMembers)) = true := by
    decide +kernel
  obtain ⟨u, v, payload, hu, hv, hb⟩ := exists_matched h
  exact ⟨u, v, payload, hu, hv,
    (returns_iff reachable_aliasState 1 u bothMembers hv).2 (of_decide_eq_true hb)⟩

/-- Whether JSON is an object with a key. -/
def Json.hasKey (j : Json) (key : String) : Bool := (j.get? key).isSome

/-- An object with only the property that is an attribute is not given back: it comes with both. -/
theorem exists_not_returns : ∃ u v payload, Reachable aliasState ∧
    aliasState.types.union? 1 = some u ∧
    (dispatch aliasState.types u (Value.ofMembers [("id", .str "x")])).outcome =
      .matched v payload ∧
    ¬Returns aliasState.types (aliasState.types.fieldsOf v.type) [("id", .str "x")]
      ((Value.choice 1 v.tag payload).toJson aliasState.types .set) := by
  have h : (aliasState.types.union? 1).any (fun u =>
      ((dispatch aliasState.types u (Value.ofMembers [("id", .str "x")])).outcome.taken?).any
        fun r => ((Value.choice 1 r.1.tag r.2).toJson aliasState.types .set).hasKey "_id") =
      true := by
    decide +kernel
  obtain ⟨u, v, payload, hu, hv, hj⟩ := exists_matched h
  refine ⟨u, v, payload, reachable_aliasState, hu, hv, ?_⟩
  rintro ⟨returned, he, hkeys, -⟩
  rw [he] at hj
  exact absurd ((hkeys "_id").symm.trans hj) (by decide)

end ShapeSum
