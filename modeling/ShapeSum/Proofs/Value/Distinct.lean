import ShapeSum.Proofs.Value.Parts

/-!
# Values without repeated keys

An object of JSON data has no key twice.  `Value.hasDistinctKeys` says so of the plain
objects at every depth of a value, and decoding keeps it: what a type makes of a value
without repeated keys has none (`hasDistinctKeys_of_judgement`), and so has the payload
of a union (`hasDistinctKeys_of_matched`).
-/

namespace ShapeSum

variable {types : Types}

namespace Value

mutual

/-- Whether no plain object in a value has a key twice. -/
def hasDistinctKeys : Value → Bool
  | .list items => itemsHaveDistinctKeys items
  | .tuple items => itemsHaveDistinctKeys items
  | .dict entries => decide (Entries.keys entries).Nodup && entriesHaveDistinctKeys entries
  | .record _ fields => entriesHaveDistinctKeys fields
  | .choice _ _ payload => hasDistinctKeys payload
  | _ => true

/-- `hasDistinctKeys` on all items. -/
def itemsHaveDistinctKeys : List Value → Bool
  | [] => true
  | x :: xs => hasDistinctKeys x && itemsHaveDistinctKeys xs

/-- `hasDistinctKeys` on the values of all entries. -/
def entriesHaveDistinctKeys : List (String × Value) → Bool
  | [] => true
  | (_, v) :: es => hasDistinctKeys v && entriesHaveDistinctKeys es

end

theorem itemsHaveDistinctKeys_iff {items : List Value} :
    itemsHaveDistinctKeys items = true ↔ ∀ v ∈ items, v.hasDistinctKeys = true := by
  induction items with
  | nil => simp [itemsHaveDistinctKeys]
  | cons x xs ih => rw [itemsHaveDistinctKeys, Bool.and_eq_true, ih, List.forall_mem_cons]

theorem entriesHaveDistinctKeys_iff {entries : List (String × Value)} :
    entriesHaveDistinctKeys entries = true ↔ ∀ p ∈ entries, p.2.hasDistinctKeys = true := by
  induction entries with
  | nil => simp [entriesHaveDistinctKeys]
  | cons p rest ih => rw [entriesHaveDistinctKeys, Bool.and_eq_true, ih, List.forall_mem_cons]

theorem hasDistinctKeys_dict {entries : List (String × Value)} :
    (Value.dict entries).hasDistinctKeys = true ↔
      (Entries.keys entries).Nodup ∧ ∀ p ∈ entries, p.2.hasDistinctKeys = true := by
  rw [hasDistinctKeys, Bool.and_eq_true, decide_eq_true_eq, entriesHaveDistinctKeys_iff]

end Value

/-- Whether no object in a JSON value has a key twice. -/
def Json.hasDistinctKeys (j : Json) : Bool := (Value.ofJson j).hasDistinctKeys

theorem Json.hasDistinctKeys_arr {items : List Json} :
    (Json.arr items).hasDistinctKeys = true ↔ ∀ x ∈ items, x.hasDistinctKeys = true := by
  rw [hasDistinctKeys, Value.ofJson, Value.hasDistinctKeys, Value.itemsHaveDistinctKeys_iff,
    Value.ofItems_eq_map, List.forall_mem_map]
  rfl

theorem Json.hasDistinctKeys_obj {members : Entries Json} :
    (Json.obj members).hasDistinctKeys = true ↔
      (Entries.keys members).Nodup ∧ ∀ p ∈ members, p.2.hasDistinctKeys = true := by
  rw [hasDistinctKeys, Value.ofJson, Value.hasDistinctKeys_dict, Value.keys_ofMembers,
    Value.ofMembers_eq_map, List.forall_mem_map]
  rfl

/-! ## Decoding keeps keys distinct -/

theorem preserved_hasDistinctKeys (types : Types) :
    Value.Preserved types fun v => v.hasDistinctKeys = true where
  literal l := by cases l <;> rfl
  float _ := rfl
  list _ := Value.itemsHaveDistinctKeys_iff
  tuple _ := Value.itemsHaveDistinctKeys_iff
  entry _ hv := (Value.hasDistinctKeys_dict.1 hv).2
  record _ _ _ := Value.entriesHaveDistinctKeys_iff.2
  choice _ _ _ _ _ _ hpayload := hpayload

/-- What a type makes of a value with distinct keys has distinct keys. -/
theorem hasDistinctKeys_of_judgement (v : Value) (hv : v.hasDistinctKeys = true) {type : FieldType}
    {t : Taken} (h : judgement types v type = .ok t) : t.value.hasDistinctKeys = true :=
  preserved_of_judgement (preserved_hasDistinctKeys types) v hv type t h

/-- What a dispatch makes of an object with distinct keys has distinct keys. -/
theorem hasDistinctKeys_of_matched {u : UnionType} {entries : List (String × Value)}
    (hv : (Value.dict entries).hasDistinctKeys = true) {w : Variant} {payload : Value}
    (h : (dispatch types u entries).outcome = .matched w payload) :
    payload.hasDistinctKeys = true :=
  preserved_of_matched (preserved_hasDistinctKeys types) hv h

end ShapeSum
