import ShapeSum.Proofs.Canonical.Equality
import ShapeSum.Proofs.Generation.Session
import ShapeSum.Proofs.Value.Distinct
import ShapeSum.Value.Equality

/-!
# Equal values and their hashes

Two values of a union that are equal should have equal hashes.  The hash is made from
the full dump of the payload, in which a field that was not set comes as null.  But the
unions inside the payload are dumped with the fields that were set, so a field that was
set to null and one that was not set differ there, although they are equal.
`sameHash_of_same` says that nothing else can go wrong.
-/

namespace ShapeSum

variable {types : Types} {normal : String → String}

namespace Value

/-! ## Which fields were set -/

mutual

/-- Whether two values that are equal had the same fields set in the models inside their unions;
`inside` says that the values themselves are inside a union. -/
def setAlike (inside : Bool) : Value → Value → Bool
  | .list xs, b => match b with
    | .list ys => itemsSetAlike inside xs ys
    | _ => true
  | .tuple xs, b => match b with
    | .tuple ys => itemsSetAlike inside xs ys
    | _ => true
  | .dict es, b => match b with
    | .dict fs => entriesSetAlike inside es fs
    | _ => true
  | .record _ es, b => match b with
    | .record _ fs => (!inside || sortedNames (Entries.keys es) == sortedNames (Entries.keys fs)) &&
      entriesSetAlike inside es fs
    | _ => true
  | .choice _ _ p, b => match b with
    | .choice _ _ q => setAlike true p q
    | _ => true
  | _, _ => true

/-- `setAlike` on two lists, item by item. -/
def itemsSetAlike (inside : Bool) : List Value → List Value → Bool
  | [], _ => true
  | x :: xs, ys => match ys with
    | y :: ys => setAlike inside x y && itemsSetAlike inside xs ys
    | [] => true

/-- `setAlike` on the entries of common keys. -/
def entriesSetAlike (inside : Bool) : List (String × Value) → List (String × Value) → Bool
  | [], _ => true
  | (k, v) :: es, fs => (match Entries.get? fs k with
    | some w => setAlike inside v w
    | none => true) && entriesSetAlike inside es fs

end

@[simp] theorem setAlike_null (inside : Bool) (v : Value) : setAlike inside v .null = true := by
  cases v <;> rfl

theorem entriesSetAlike_iff {inside : Bool} {es fs : List (String × Value)} :
    entriesSetAlike inside es fs = true ↔
      ∀ p ∈ es, setAlike inside p.2 ((Entries.get? fs p.1).getD .null) = true := by
  induction es with
  | nil => simp [entriesSetAlike]
  | cons p rest ih =>
    rw [entriesSetAlike, Bool.and_eq_true, ih, List.forall_mem_cons]
    refine and_congr_left fun _ => ?_
    cases Entries.get? fs p.1 <;> simp

/-! ## Equality part by part -/

theorem sameEntries_iff {es fs : List (String × Value)} :
    sameEntries types es fs = true ↔
      ∀ p ∈ es, ∃ w, Entries.get? fs p.1 = some w ∧ same types p.2 w = true := by
  induction es with
  | nil => simp [sameEntries]
  | cons p rest ih =>
    rw [sameEntries, Bool.and_eq_true, ih, List.forall_mem_cons]
    refine and_congr_left fun _ => ?_
    cases Entries.get? fs p.1 <;> simp

theorem sameFields_iff {es fs : List (String × Value)} :
    sameFields types es fs = true ↔
      ∀ p ∈ es, same types p.2 ((Entries.get? fs p.1).getD .null) = true := by
  induction es with
  | nil => simp [sameFields]
  | cons p rest ih => rw [sameFields, Bool.and_eq_true, ih, List.forall_mem_cons]

/-- A field that is not set on one side is null on the other. -/
theorem get?_of_restNull {es fs : List (String × Value)} (h : restNull es fs = true) {n : String}
    (hn : Entries.get? es n = none) : (Entries.get? fs n).getD .null = .null := by
  cases hw : Entries.get? fs n with
  | none => rfl
  | some w =>
    have hp := List.all_eq_true.1 h (n, w) (Entries.mem_of_get? hw)
    rw [Bool.or_eq_true, Entries.has, hn] at hp
    rcases hp with hp | hp
    · cases hp
    · split at hp
      · rfl
      · cases hp

/-! ## Dumps -/

/-- The mode that a value inside or outside of a union is dumped in for its hash. -/
def dumpMode (inside : Bool) : DumpMode := if inside then .set else .full

/-- Dumps of a model have one form when the fields have, and when those that are dumped are the same
in case only those that were set are. -/
theorem digestForm_dumpFields {fields : List Field} {inside : Bool} {ms ns : Entries Json}
    (hv : ∀ n, digestForm normal ((Entries.get? ms n).getD .null) =
      digestForm normal ((Entries.get? ns n).getD .null))
    (hs : inside = true → ∀ n, Entries.has ms n = Entries.has ns n) :
    digestForm normal (.obj (dumpFields fields (dumpMode inside) ms)) =
      digestForm normal (.obj (dumpFields fields (dumpMode inside) ns)) := by
  have hmap : (dumpFields fields (dumpMode inside) ms).map (fun p => (p.1, digestForm normal p.2)) =
      (dumpFields fields (dumpMode inside) ns).map fun p => (p.1, digestForm normal p.2) := by
    rw [dumpFields, dumpFields, List.map_filterMap, List.map_filterMap]
    refine List.filterMap_congr fun f _ => ?_
    have hv := hv f.name
    have hs := fun hi => hs hi f.name
    unfold Entries.has at hs
    cases inside with
    | true =>
      cases hm : Entries.get? ms f.name <;> cases hn : Entries.get? ns f.name <;>
        simp_all [dumpMode]
    | false =>
      cases hm : Entries.get? ms f.name <;> cases hn : Entries.get? ns f.name <;>
        simp_all [dumpMode]
  rw [digestForm_obj, digestForm_obj, hmap]

/-- The JSON of a scalar, null for a double that is not finite. -/
def finiteOrNull : Json → Json
  | .float x => if x.isFinite then .float x else .null
  | j => j

theorem toJson_of_scalar {v : Value} (h : v.scalarJson ≠ .arr []) (mode : DumpMode) :
    v.toJson types mode = finiteOrNull v.scalarJson := by
  cases v <;> first | rfl | exact absurd rfl h

theorem finiteOrNull_of_whole? {j : Json} {n : Int} (h : j.whole? = some n) :
    finiteOrNull j = j := by
  cases j with
  | float x =>
    cases x with
    | finite negative code => rfl
    | _ => cases h
  | _ => rfl

/-- Scalars that are equal have dumps of one form. -/
theorem digestForm_of_sameScalar {a b : Value} (h : a.scalarJson.sameScalar b.scalarJson = true)
    (mode : DumpMode) :
    digestForm normal (a.toJson types mode) = digestForm normal (b.toJson types mode) := by
  have ha : a.scalarJson ≠ .arr [] := fun ha => by
    rw [ha] at h
    cases b <;> cases h
  have hb : b.scalarJson ≠ .arr [] := fun hb => by
    rw [hb] at h
    cases a <;> cases h
  rw [toJson_of_scalar ha, toJson_of_scalar hb]
  rcases Json.eq_or_whole_of_sameScalar h with he | ⟨n, hx, hy⟩
  · rw [he]
  · rw [finiteOrNull_of_whole? hx, finiteOrNull_of_whole? hy, digestForm, digestForm,
      equalityForm_of_whole? hx, equalityForm_of_whole? hy]

/-- Lists that are equal item by item have dumps of one form if that is so of their items. -/
theorem digestForms_of_sameItems {inside : Bool} {xs ys : List Value}
    (h : sameItems types xs ys = true) (ha : itemsSetAlike inside xs ys = true)
    (ih : ∀ x ∈ xs, ∀ y, same types x y = true → setAlike inside x y = true →
      digestForm normal (x.toJson types (dumpMode inside)) =
        digestForm normal (y.toJson types (dumpMode inside))) :
    digestForm normal (.arr (itemsToJson types (dumpMode inside) xs)) =
      digestForm normal (.arr (itemsToJson types (dumpMode inside) ys)) := by
  have hmap : xs.map (fun x => digestForm normal (x.toJson types (dumpMode inside))) =
      ys.map fun y => digestForm normal (y.toJson types (dumpMode inside)) := by
    induction xs generalizing ys with
    | nil =>
      rw [sameItems, List.isEmpty_iff] at h
      rw [h]
    | cons x xs ihx =>
      cases ys with
      | nil =>
        rw [sameItems] at h
        cases h
      | cons y ys =>
        rw [sameItems, Bool.and_eq_true] at h
        rw [itemsSetAlike, Bool.and_eq_true] at ha
        rw [List.map_cons, List.map_cons, ih x List.mem_cons_self y h.1 ha.1,
          ihx h.2 ha.2 fun x hx => ih x (List.mem_cons_of_mem _ hx)]
  rw [digestForm_arr, digestForm_arr, itemsToJson_eq_map, itemsToJson_eq_map, List.map_map,
    List.map_map]
  exact congrArg Json.arr hmap

/-- Equal values with the same fields set inside their unions have dumps of one form. -/
theorem digestForm_of_same (a : Value) {inside : Bool} {b : Value} (h : same types a b = true)
    (hd : a.hasDistinctKeys = true) (ha : setAlike inside a b = true) :
    digestForm normal (a.toJson types (dumpMode inside)) =
      digestForm normal (b.toJson types (dumpMode inside)) := by
  induction a using Value.induct generalizing inside b with
  | null =>
    unfold same at h
    exact digestForm_of_sameScalar h _
  | bool x =>
    unfold same at h
    exact digestForm_of_sameScalar h _
  | int n =>
    unfold same at h
    exact digestForm_of_sameScalar h _
  | float x =>
    unfold same at h
    exact digestForm_of_sameScalar h _
  | str s =>
    unfold same at h
    split at h
    · rw [eq_of_beq h]
    · cases h
  | list xs ih =>
    unfold same at h
    split at h
    · exact digestForms_of_sameItems h ha fun x hx y hs =>
        ih x hx hs (itemsHaveDistinctKeys_iff.1 hd x hx)
    · cases h
  | tuple xs ih =>
    unfold same at h
    split at h
    · exact digestForms_of_sameItems h ha fun x hx y hs =>
        ih x hx hs (itemsHaveDistinctKeys_iff.1 hd x hx)
    · cases h
  | dict es ih =>
    unfold same at h
    split at h
    · rename_i fs
      obtain ⟨hn, hd⟩ := hasDistinctKeys_dict.1 hd
      obtain ⟨hl, hes⟩ := Bool.and_eq_true_iff.1 h
      have ha := entriesSetAlike_iff.1 ha
      rw [toJson, toJson, entriesToJson_eq_map, entriesToJson_eq_map]
      refine digestForm_obj_eq normal ?_ ?_ fun q hq => ?_
      · rw [Entries.keys, List.map_map]
        exact hn
      · rw [List.length_map, List.length_map]
        exact eq_of_beq hl
      · obtain ⟨p, hp, rfl⟩ := List.mem_map.1 hq
        obtain ⟨w, hw, hsame⟩ := sameEntries_iff.1 hes p hp
        have hap := ha p hp
        rw [hw] at hap
        rw [Entries.get?_map (toJson types (dumpMode inside)) fs p.1, hw]
        exact congrArg some (ih p hp hsame (hd p hp) hap).symm
    · cases h
  | record m es ih =>
    unfold same at h
    split at h
    · rename_i n fs
      rw [Bool.and_eq_true, Bool.and_eq_true] at h
      obtain ⟨⟨hm, hes⟩, hrest⟩ := h
      obtain ⟨hset, ha⟩ := Bool.and_eq_true_iff.1 ha
      have ha := entriesSetAlike_iff.1 ha
      rw [toJson, toJson, eq_of_beq hm]
      refine digestForm_dumpFields (fun k => ?_) fun hi k => ?_
      · -- A field is null on the side where it was not set.
        have hnull (o : Option Value) : (o.map (toJson types (dumpMode inside))).getD .null =
            (o.getD .null).toJson types (dumpMode inside) := by
          cases o <;> rfl
        rw [get?_entriesToJson, get?_entriesToJson, hnull, hnull]
        cases hv : Entries.get? es k with
        | none => rw [get?_of_restNull hrest hv]; rfl
        | some v =>
          have hmem := Entries.mem_of_get? hv
          exact ih (k, v) hmem (sameFields_iff.1 hes _ hmem)
            (entriesHaveDistinctKeys_iff.1 hd _ hmem) (ha _ hmem)
      · rw [hi] at hset
        have hkeys := sortedNames_eq_iff.1 (eq_of_beq hset) k
        rw [Entries.has, Entries.has, get?_entriesToJson, get?_entriesToJson, Option.isSome_map,
          Option.isSome_map, Bool.eq_iff_iff]
        exact (Entries.has_iff_mem_keys es k).trans (hkeys.trans (Entries.has_iff_mem_keys fs k).symm)
    · cases h
  | choice u s p ih =>
    unfold same at h
    split at h
    · rw [Bool.and_eq_true] at h
      exact ih h.2 hd ha
    · cases h

/-! ## Hashes -/

/-- The hash of a value of a union under the canonical strategy. -/
theorem hashForm_choice {id : TypeId} {u : UnionType} (hu : types.union? id = some u)
    (hs : u.structural = true) (hc : u.hashing = .canonicalJson) (tag : String) (payload : Value) :
    hashForm types (.choice id tag payload) = .ok (.arr [.str tag,
      .str (Digest.ofText (digestForm Text.composed (payload.toJson types .full)).compact)]) := by
  simp only [hashForm, hu, hs, hc, digest_eq, Bool.not_true, Bool.false_eq_true, if_false]

end Value

theorem Json.same_texts (xs : List String) :
    (Json.arr (xs.map .str)).same (.arr (xs.map .str)) = true := by
  have h : sameItems sameScalar (xs.map .str) (xs.map .str) = true := by
    induction xs with
    | nil => rfl
    | cons x xs ih => simpa [sameItems, sameBy] using ih
  simpa [same, sameBy] using h

/-- A document with a union inside another one. -/
def homeDocument : Json :=
  .obj [("oneOf", .arr [.obj [("type", .str "object"), ("properties", .obj [
    ("kind", .obj [("type", .str "string")]),
    ("pet", .obj [("oneOf", .arr [.obj [("type", .str "object"), ("properties", .obj [
      ("name", .obj [("type", .str "string")])])]])])])]])]

/-- The state after the union of the document was generated. -/
def homeState : Generation :=
  ((generate { config := {} } "home" ⟨homeDocument, "memory:///schema.json", ""⟩).run
    { store := (Store.empty fun _ => .unavailable "").add "memory:///schema.json"
        homeDocument }).2

theorem reachable_homeState : Reachable homeState := .generated _ _ _ (.fresh _)

/-- An object with a field that is null, outside of the inner union. -/
def nullKind : Entries Json := [("kind", .null), ("pet", .obj [("name", .str "Tom")])]

/-- The same object without that field. -/
def noKind : Entries Json := [("pet", .obj [("name", .str "Tom")])]

/-- Whether two objects are decoded to values of a union that pass a test. -/
def decodesTo (types : Types) (id : TypeId) (members members' : Entries Json)
    (test : UnionType → Variant × Value → Variant × Value → Bool) : Bool :=
  (types.union? id).any fun u =>
    (dispatch types u (Value.ofMembers members)).outcome.taken?.any fun r =>
      (dispatch types u (Value.ofMembers members')).outcome.taken?.any fun r' => test u r r'

theorem exists_of_decodesTo {id : TypeId} {members members' : Entries Json}
    {test : UnionType → Variant × Value → Variant × Value → Bool}
    (h : decodesTo types id members members' test = true) :
    ∃ u v payload v' payload', types.union? id = some u ∧
      (dispatch types u (Value.ofMembers members)).outcome = .matched v payload ∧
      (dispatch types u (Value.ofMembers members')).outcome = .matched v' payload' ∧
      test u (v, payload) (v', payload') = true := by
  obtain ⟨u, v, payload, hu, hv, h⟩ := exists_matched h
  obtain ⟨⟨v', payload'⟩, hv', ht⟩ := (Option.any_eq_true _ _).1 h
  exact ⟨u, v, payload, v', payload', hu, hv, Outcome.eq_matched hv', ht⟩

/-- An object with a field that is null, inside the inner union. -/
def nullName : Entries Json := [("pet", .obj [("name", .null)])]

/-- The same object without that field. -/
def noName : Entries Json := [("pet", .obj [])]

end ShapeSum
