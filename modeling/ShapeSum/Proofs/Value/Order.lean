import Mathlib.Data.List.Forall2
import ShapeSum.Proofs.Types.Resemblance
import ShapeSum.Proofs.Value.Reflexivity

/-!
# Values up to the order of entries

JSON data is reordered when the members of its objects come in another order, at any depth,
and nothing else changes (`Json.reorders`).  Decoded values are reordered when this holds of
the plain objects within them (`Value.Reorders`); the fields of models stay in place.

What is known of values does not depend on the order: a reordered value equals what the
value equals (`Value.Reorders.same`), and its dump has the same digest form
(`Value.Reorders.digestForm`).
-/

namespace ShapeSum

variable {types : Types} {normal : String → String}

/-! ## Reordered data -/

namespace Json

/-- Whether two values that are neither texts nor containers are the same. -/
def isSameScalar : Json → Json → Bool
  | .null, .null => true
  | .bool a, .bool b => a == b
  | .int m, .int n => m == n
  | .float x, .float y => decide (x = y)
  | _, _ => false

/-- Whether two values differ only in the order of the members of objects, at any depth. -/
def reorders : Json → Json → Bool := sameBy isSameScalar

theorem eq_of_isSameScalar {a b : Json} (h : a.isSameScalar b = true) : a = b := by
  unfold isSameScalar at h
  split at h
  · rfl
  · rw [eq_of_beq h]
  · rw [eq_of_beq h]
  · rw [of_decide_eq_true h]
  · cases h

end Json

/-! ## Reordered values -/

/-- Two values differ only in the order of the entries of plain objects, at any depth. -/
inductive Value.Reorders : Value → Value → Prop
  /-- Any value and itself. -/
  | refl (v : Value) : Reorders v v
  /-- Lists, item by item. -/
  | list {xs ys : List Value} : xs.length = ys.length →
      (∀ x y, (x, y) ∈ xs.zip ys → Reorders x y) → Reorders (.list xs) (.list ys)
  /-- Immutable lists, item by item. -/
  | tuple {xs ys : List Value} : xs.length = ys.length →
      (∀ x y, (x, y) ∈ xs.zip ys → Reorders x y) → Reorders (.tuple xs) (.tuple ys)
  /-- Plain objects, key by key. -/
  | dict {es fs : List (String × Value)} : es.length = fs.length →
      (∀ k, Entries.has es k = Entries.has fs k) →
      (∀ k x y, Entries.get? es k = some x → Entries.get? fs k = some y → Reorders x y) →
      Reorders (.dict es) (.dict fs)
  /-- Objects of a model, field by field. -/
  | record {id : TypeId} {es fs : List (String × Value)} : Entries.keys es = Entries.keys fs →
      (∀ p q, (p, q) ∈ es.zip fs → Reorders p.2 q.2) → Reorders (.record id es) (.record id fs)
  /-- Values of a union, by their payloads. -/
  | choice {id : TypeId} {tag : String} {x y : Value} : Reorders x y →
      Reorders (.choice id tag x) (.choice id tag y)

/-- What two lists of entries have under a key is related, or both have nothing. -/
theorem Entries.rel_get? {α : Type} {R : α → α → Prop} {es fs : Entries α}
    (hk : ∀ k, has es k = has fs k)
    (h : ∀ k x y, get? es k = some x → get? fs k = some y → R x y) (k : String) :
    Option.Rel R (get? es k) (get? fs k) := by
  have hhas := hk k
  unfold has at hhas
  cases hx : get? es k with
  | none =>
    rw [hx, Option.isSome_none, eq_comm, Option.isSome_eq_false_iff, Option.isNone_iff_eq_none]
      at hhas
    rw [hhas]
    exact .none
  | some x =>
    rw [hx, Option.isSome_some, eq_comm, Option.isSome_iff_exists] at hhas
    obtain ⟨y, hy⟩ := hhas
    rw [hy]
    exact .some (h k x y hx hy)

theorem Entries.forall₂_of_zip {α : Type} {R : α → α → Prop} {es fs : Entries α}
    (hk : keys es = keys fs) (h : ∀ p q, (p, q) ∈ es.zip fs → R p.2 q.2) :
    List.Forall₂ (fun p q => p.1 = q.1 ∧ R p.2 q.2) es fs := by
  induction es generalizing fs with
  | nil =>
    cases fs with
    | nil => exact .nil
    | cons q fs => cases hk
  | cons p es ih =>
    cases fs with
    | nil => cases hk
    | cons q fs =>
      obtain ⟨hpq, hk⟩ := List.cons.inj hk
      exact .cons ⟨hpq, h p q List.mem_cons_self⟩
        (ih hk fun p q hm => h p q (List.mem_cons_of_mem _ hm))

/-- Entries that are related one by one are related under every key. -/
theorem Entries.rel_get?_of_forall₂ {α : Type} {R : α → α → Prop} {es fs : Entries α}
    (h : List.Forall₂ (fun p q => p.1 = q.1 ∧ R p.2 q.2) es fs) (k : String) :
    Option.Rel R (get? es k) (get? fs k) := by
  induction h with
  | nil => exact .none
  | @cons p q _ _ hpq _ ih =>
    obtain ⟨hkey, hr⟩ := hpq
    simp only [get?, hkey]
    split
    · exact .some hr
    · exact ih

theorem isSome_eq_of_rel {α : Type} {R : α → α → Prop} {a b : Option α} (h : Option.Rel R a b) :
    a.isSome = b.isSome := by
  cases h <;> rfl

theorem exists_of_rel_some {α : Type} {R : α → α → Prop} {x : α} {b : Option α}
    (h : Option.Rel R (some x) b) : ∃ y, b = some y ∧ R x y := by
  cases h with
  | some h => exact ⟨_, rfl, h⟩

namespace Value

/-- Reordered fields give reordered objects of a model. -/
theorem Reorders.ofFields {id : TypeId} {es fs : List (String × Value)}
    (h : List.Forall₂ (fun p q => p.1 = q.1 ∧ Reorders p.2 q.2) es fs) :
    Reorders (.record id es) (.record id fs) := by
  refine .record ?_ fun p q hpq => ((List.forall₂_iff_zip.1 h).2 hpq).2
  refine List.forall₂_eq_eq_eq ▸ ?_
  exact List.forall₂_map_left_iff.2 (List.forall₂_map_right_iff.2 (h.imp fun _ _ hpq => hpq.1))

/-- Reordered items give reordered lists. -/
theorem Reorders.ofForall₂ {xs ys : List Value} (h : List.Forall₂ Reorders xs ys) :
    Reorders (.list xs) (.list ys) ∧ Reorders (.tuple xs) (.tuple ys) := by
  obtain ⟨hl, hz⟩ := List.forall₂_iff_zip.1 h
  exact ⟨.list hl fun _ _ hxy => hz hxy, .tuple hl fun _ _ hxy => hz hxy⟩

theorem forall₂_of_sameItems {xs ys : List Json}
    (h : Json.sameItems Json.isSameScalar xs ys = true)
    (ih : ∀ x ∈ xs, ∀ y, x.reorders y = true → Reorders (ofJson x) (ofJson y)) :
    List.Forall₂ Reorders (ofItems xs) (ofItems ys) := by
  induction xs generalizing ys with
  | nil =>
    rw [Json.sameItems, List.isEmpty_iff] at h
    rw [h]
    exact .nil
  | cons x xs ihx =>
    cases ys with
    | nil =>
      rw [Json.sameItems] at h
      cases h
    | cons y ys =>
      rw [Json.sameItems, Bool.and_eq_true] at h
      exact .cons (ih x List.mem_cons_self y h.1)
        (ihx h.2 fun x hx => ih x (List.mem_cons_of_mem _ hx))

/-- Reordered data is reordered as a value. -/
theorem reorders_ofJson {x y : Json} (hd : x.hasDistinctKeys = true) (h : x.reorders y = true) :
    Reorders (ofJson x) (ofJson y) := by
  induction x using Json.induct generalizing y with
  | parts x ih =>
    unfold Json.reorders at h
    cases x with
    | str s =>
      unfold Json.sameBy at h
      split at h
      · rw [eq_of_beq h]
        exact .refl _
      · cases h
    | arr xs =>
      unfold Json.sameBy at h
      split at h
      · exact (Reorders.ofForall₂ (forall₂_of_sameItems h fun x hx y hxy =>
          ih x (.item hx) (Json.hasDistinctKeys_arr.1 hd x hx) hxy)).1
      · cases h
    | obj ms =>
      unfold Json.sameBy at h
      split at h
      · rename_i ns
        obtain ⟨hn, hms⟩ := Json.hasDistinctKeys_obj.1 hd
        rw [Bool.and_eq_true, beq_iff_eq] at h
        have hget := Json.rel_get?_of_same h.1 h.2 hn
        refine .dict ?_ (fun k => ?_) fun k v w hv hw => ?_
        · rw [ofMembers_eq_map, ofMembers_eq_map, List.length_map, List.length_map, h.1]
        · rw [ofMembers_eq_map, ofMembers_eq_map, Entries.has, Entries.has,
            Entries.get?_map ofJson ms k, Entries.get?_map ofJson ns k, Option.isSome_map,
            Option.isSome_map]
          exact isSome_eq_of_rel (hget k)
        · rw [ofMembers_eq_map, Entries.get?_map ofJson, Option.map_eq_some_iff] at hv hw
          obtain ⟨a, ha, rfl⟩ := hv
          obtain ⟨b, hb, rfl⟩ := hw
          have hab := hget k
          rw [ha, hb] at hab
          obtain ⟨c, hc, hac⟩ := exists_of_rel_some hab
          cases hc
          have hmem := Entries.mem_of_get? ha
          exact ih a (.member hmem) (hms _ hmem) hac
      · cases h
    | _ =>
      unfold Json.sameBy at h
      rw [Json.eq_of_isSameScalar h]
      exact .refl _

/-! ## Equality -/

theorem sameItems_of_reorders {vs xs ys : List Value}
    (ih : ∀ v ∈ vs, ∀ x y, Reorders x y → same types v x = true → same types v y = true)
    (h : List.Forall₂ Reorders xs ys) (hv : sameItems types vs xs = true) :
    sameItems types vs ys = true := by
  induction h generalizing vs with
  | nil => exact hv
  | cons hxy _ ihs =>
    cases vs with
    | nil =>
      rw [sameItems] at hv
      cases hv
    | cons v vs =>
      rw [sameItems, Bool.and_eq_true] at hv ⊢
      exact ⟨ih v List.mem_cons_self _ _ hxy hv.1,
        ihs (fun v hv => ih v (List.mem_cons_of_mem _ hv)) hv.2⟩

theorem sameEntries_of_reorders {vs es fs : List (String × Value)}
    (ih : ∀ p ∈ vs, ∀ x y, Reorders x y → same types p.2 x = true → same types p.2 y = true)
    (h : ∀ k, Option.Rel Reorders (Entries.get? es k) (Entries.get? fs k))
    (hv : sameEntries types vs es = true) : sameEntries types vs fs = true := by
  refine sameEntries_iff.2 fun p hp => ?_
  obtain ⟨x, hx, hs⟩ := sameEntries_iff.1 hv p hp
  have hxy := h p.1
  rw [hx] at hxy
  obtain ⟨y, hy, hxy⟩ := exists_of_rel_some hxy
  exact ⟨y, hy, ih p hp x y hxy hs⟩

theorem reorders_getD {a b : Option Value} (h : Option.Rel Reorders a b) :
    Reorders (a.getD .null) (b.getD .null) := by
  cases h with
  | some h => exact h
  | none => exact .refl _

theorem sameFields_of_reorders {vs es fs : List (String × Value)}
    (ih : ∀ p ∈ vs, ∀ x y, Reorders x y → same types p.2 x = true → same types p.2 y = true)
    (h : ∀ k, Option.Rel Reorders (Entries.get? es k) (Entries.get? fs k))
    (hv : sameFields types vs es = true) : sameFields types vs fs = true :=
  sameFields_iff.2 fun p hp =>
    ih p hp _ _ (reorders_getD (h p.1)) (sameFields_iff.1 hv p hp)

theorem restNull_of_reorders {vs es fs : List (String × Value)}
    (h : List.Forall₂ (fun p q => p.1 = q.1 ∧ Reorders p.2 q.2) es fs)
    (hv : restNull vs es = true) : restNull vs fs = true := by
  induction h with
  | nil => rfl
  | @cons p q _ _ hpq _ ih =>
    obtain ⟨k, x⟩ := p
    obtain ⟨k', y⟩ := q
    obtain ⟨rfl, hxy⟩ := hpq
    simp only [restNull, List.all_cons, Bool.and_eq_true] at hv ih ⊢
    refine ⟨?_, ih hv.2⟩
    cases hxy <;> exact hv.1

/-- What equals a value equals the reordered one. -/
theorem same_of_reorders {v x y : Value} (h : x.Reorders y) (hv : same types v x = true) :
    same types v y = true := by
  induction v using Value.induct generalizing x y with
  | str s =>
    unfold same at hv
    split at hv
    · cases h
      unfold same
      exact hv
    · cases hv
  | list vs ih =>
    unfold same at hv
    split at hv
    · cases h with
      | refl =>
        unfold same
        exact hv
      | list hl hz =>
        unfold same
        exact sameItems_of_reorders (fun v hm _ _ hxy hs => ih v hm hxy hs)
          (List.forall₂_iff_zip.2 ⟨hl, fun hxy => hz _ _ hxy⟩) hv
    · cases hv
  | tuple vs ih =>
    unfold same at hv
    split at hv
    · cases h with
      | refl =>
        unfold same
        exact hv
      | tuple hl hz =>
        unfold same
        exact sameItems_of_reorders (fun v hm _ _ hxy hs => ih v hm hxy hs)
          (List.forall₂_iff_zip.2 ⟨hl, fun hxy => hz _ _ hxy⟩) hv
    · cases hv
  | dict vs ih =>
    unfold same at hv
    split at hv
    · cases h with
      | refl =>
        unfold same
        exact hv
      | dict hl hk hg =>
        unfold same
        rw [Bool.and_eq_true, beq_iff_eq] at hv ⊢
        exact ⟨hv.1.trans hl, sameEntries_of_reorders (fun p hp _ _ hxy hs => ih p hp hxy hs)
          (Entries.rel_get? hk hg) hv.2⟩
    · cases hv
  | record id vs ih =>
    unfold same at hv
    split at hv
    · cases h with
      | refl =>
        unfold same
        exact hv
      | record hk hz =>
        have hrel := Entries.forall₂_of_zip hk hz
        unfold same
        simp only [Bool.and_eq_true] at hv ⊢
        exact ⟨⟨hv.1.1, sameFields_of_reorders (fun p hp _ _ hxy hs => ih p hp hxy hs)
          (Entries.rel_get?_of_forall₂ hrel) hv.1.2⟩, restNull_of_reorders hrel hv.2⟩
    · cases hv
  | choice id tag p ih =>
    unfold same at hv
    split at hv
    · cases h with
      | refl =>
        unfold same
        exact hv
      | choice hxy =>
        unfold same
        rw [Bool.and_eq_true] at hv ⊢
        exact ⟨hv.1, ih hxy hv.2⟩
    · cases hv
  | _ =>
    unfold same at hv ⊢
    cases h <;> exact hv

/-! ## Hashes -/

theorem digestForm_arr_of_forall₂ {f : Value → Json} {xs ys : List Value}
    (h : List.Forall₂ (fun x y => digestForm normal (f x) = digestForm normal (f y)) xs ys) :
    digestForm normal (.arr (xs.map f)) = digestForm normal (.arr (ys.map f)) := by
  rw [digestForm_arr, digestForm_arr, List.map_map, List.map_map]
  refine congrArg Json.arr (List.forall₂_eq_eq_eq ▸ ?_)
  exact List.forall₂_map_left_iff.2 (List.forall₂_map_right_iff.2 h)

/-- Reordered values have dumps of one form. -/
theorem digestForm_of_reorders {v w : Value} (h : v.Reorders w) (hd : v.hasDistinctKeys = true)
    (inside : Bool) :
    digestForm normal (v.toJson types (dumpMode inside)) =
      digestForm normal (w.toJson types (dumpMode inside)) := by
  induction h generalizing inside with
  | refl => rfl
  | list hl _ ih =>
    rw [toJson, toJson, itemsToJson_eq_map, itemsToJson_eq_map]
    exact digestForm_arr_of_forall₂ (List.forall₂_iff_zip.2 ⟨hl, fun hxy =>
      ih _ _ hxy (itemsHaveDistinctKeys_iff.1 hd _ (List.of_mem_zip hxy).1) inside⟩)
  | tuple hl _ ih =>
    rw [toJson, toJson, itemsToJson_eq_map, itemsToJson_eq_map]
    exact digestForm_arr_of_forall₂ (List.forall₂_iff_zip.2 ⟨hl, fun hxy =>
      ih _ _ hxy (itemsHaveDistinctKeys_iff.1 hd _ (List.of_mem_zip hxy).1) inside⟩)
  | @dict es fs hl hk _ ih =>
    obtain ⟨hn, hes⟩ := hasDistinctKeys_dict.1 hd
    rw [toJson, toJson, entriesToJson_eq_map, entriesToJson_eq_map]
    refine digestForm_obj_eq normal ?_ ?_ fun q hq => ?_
    · rw [Entries.keys, List.map_map]
      exact hn
    · rw [List.length_map, List.length_map, hl]
    · obtain ⟨p, hp, rfl⟩ := List.mem_map.1 hq
      have hx := Entries.get?_of_mem hn hp
      obtain ⟨y, hy⟩ : ∃ y, Entries.get? fs p.1 = some y := by
        rw [← Option.isSome_iff_exists, ← Entries.has, ← hk, Entries.has, hx]
        rfl
      rw [Entries.get?_map (toJson types (dumpMode inside)) fs p.1, hy]
      exact congrArg some (ih p.1 p.2 y hx hy (hes p hp) inside).symm
  | @record id es fs hk _ ih =>
    have hes := entriesHaveDistinctKeys_iff.1 hd
    have hrel (k : String) : Option.Rel
        (fun x y => digestForm normal (x.toJson types (dumpMode inside)) =
          digestForm normal (y.toJson types (dumpMode inside)))
        (Entries.get? es k) (Entries.get? fs k) :=
      Entries.rel_get?_of_forall₂ (Entries.forall₂_of_zip hk fun p q hpq =>
        ih p q hpq (hes p (List.of_mem_zip hpq).1) inside) k
    rw [toJson, toJson]
    refine digestForm_dumpFields (fun k => ?_) fun _ k => ?_
    · rw [get?_entriesToJson, get?_entriesToJson]
      have hk := hrel k
      generalize Entries.get? es k = a, Entries.get? fs k = b at hk
      cases hk with
      | some h => exact h
      | none => rfl
    · rw [Entries.has, Entries.has, get?_entriesToJson, get?_entriesToJson, Option.isSome_map,
        Option.isSome_map]
      exact isSome_eq_of_rel (hrel k)
  | choice _ ih => exact ih hd true

/-- Reordered payloads give values with equal hashes. -/
theorem sameHash_of_reorders {id : TypeId} {u : UnionType} (hu : types.union? id = some u)
    (hs : u.structural = true) (hc : u.hashing = .canonicalJson) (tag : String) {x y : Value}
    (h : x.Reorders y) (hd : x.hasDistinctKeys = true) :
    sameHash types (.choice id tag x) (.choice id tag y) = .ok true := by
  have hform : digestForm Text.composed (x.toJson types .full) =
      digestForm Text.composed (y.toJson types .full) := digestForm_of_reorders h hd false
  rw [sameHash, hashForm_choice hu hs hc, hashForm_choice hu hs hc, hform]
  exact congrArg Except.ok (Json.same_texts [_, _])

end Value

end ShapeSum
