import ShapeSum.Proofs.Canonical.Equality
import ShapeSum.Proofs.Schema.Reach
import ShapeSum.Proofs.Value.Distinct

/-!
# Values in order

Writing puts the members of every object in order, and reading keeps the last value of a key at the
place of the first.  `Json.ordered` is what both together make of a value.  A value without
repeated keys has one text with its ordered form (`Json.write_ordered`).
-/

namespace ShapeSum

/-! ## Entries -/

namespace Entries

variable {α β : Type}

theorem insertSorted_map (g : α → β) (p : String × α) (e : Entries α) :
    insertSorted (p.1, g p.2) (e.map fun p => (p.1, g p.2)) =
      (insertSorted p e).map fun p => (p.1, g p.2) := by
  induction e with
  | nil => rfl
  | cons q rest ih =>
    rw [List.map_cons, insertSorted, insertSorted]
    split
    · rw [List.map_cons, List.map_cons]
    · rw [List.map_cons, ih]

/-- Changing the values does not change the order of the keys. -/
theorem sorted_map (g : α → β) (e : Entries α) :
    sorted (e.map fun p => (p.1, g p.2)) = (sorted e).map fun p => (p.1, g p.2) := by
  have h (acc : Entries α) :
      (e.map fun p => (p.1, g p.2)).foldl (fun acc p => insertSorted p acc)
        (acc.map fun p => (p.1, g p.2)) =
      (e.foldl (fun acc p => insertSorted p acc) acc).map fun p => (p.1, g p.2) := by
    induction e generalizing acc with
    | nil => rfl
    | cons p rest ih => rw [List.map_cons, List.foldl_cons, List.foldl_cons, insertSorted_map, ih]
  exact h []

theorem nodup_keys_sorted {e : Entries α} (h : (keys e).Nodup) : (keys (sorted e)).Nodup :=
  ((perm_sorted e).map Prod.fst).nodup_iff.2 h

theorem set_of_not_mem {e : Entries α} {key : String} (h : key ∉ keys e) (v : α) :
    set e key v = e ++ [(key, v)] := by
  induction e with
  | nil => rfl
  | cons p rest ih =>
    rw [keys, List.map_cons, List.mem_cons, not_or] at h
    rw [set, if_neg (Ne.symm h.1), ih h.2, List.cons_append]

/-- Pairs without repeated names are entries as they are. -/
theorem ofPairs_of_nodup {e : Entries α} (h : (keys e).Nodup) : ofPairs e = e := by
  have hfold (acc : Entries α) (hacc : (keys (acc ++ e)).Nodup) :
      e.foldl (fun e p => set e p.1 p.2) acc = acc ++ e := by
    induction e generalizing acc with
    | nil => rw [List.foldl_nil, List.append_nil]
    | cons p rest ih =>
      have hp : p.1 ∉ keys acc := fun hmem => by
        rw [keys, List.map_append] at hacc
        exact (List.disjoint_of_nodup_append hacc) hmem (List.mem_cons_self)
      have happ : acc ++ [(p.1, p.2)] ++ rest = acc ++ p :: rest :=
        List.append_cons acc p rest ▸ rfl
      rw [List.foldl_cons, set_of_not_mem hp, ih (List.nodup_cons.1 h).2, happ]
      rwa [happ]
  exact hfold [] h

theorem nodup_keys_ofPairs (e : List (String × α)) : (keys (ofPairs e)).Nodup := by
  have h (acc : Entries α) (hacc : (keys acc).Nodup) :
      (keys (e.foldl (fun e p => set e p.1 p.2) acc)).Nodup := by
    induction e generalizing acc with
    | nil => exact hacc
    | cons p rest ih => exact ih _ (nodup_keys_set hacc p.1 p.2)
  exact h [] List.nodup_nil

/-- A pair is an entry if it is the last of its name. -/
theorem mem_ofPairs_iff {e : List (String × α)} {key : String} {v : α} :
    (key, v) ∈ ofPairs e ↔ ∃ l r, e = l ++ (key, v) :: r ∧ key ∉ keys r := by
  have hget : (key, v) ∈ ofPairs e ↔ get? (ofPairs e) key = some v :=
    ⟨get?_of_mem (nodup_keys_ofPairs e), mem_of_get?⟩
  rw [hget]
  clear hget
  induction e using List.reverseRecOn with
  | nil =>
    constructor
    · intro h
      cases h
    · rintro ⟨l, r, h, -⟩
      cases l <;> cases h
  | append_singleton e p ih =>
    have hset : ofPairs (e ++ [p]) = set (ofPairs e) p.1 p.2 := by
      rw [ofPairs, List.foldl_append]
      rfl
    rw [hset, get?_set]
    constructor
    · intro h
      split at h
      · rename_i hp
        cases h
        exact ⟨e, [], by rw [← hp], List.not_mem_nil⟩
      · rename_i hp
        obtain ⟨l, r, rfl, hr⟩ := ih.1 h
        refine ⟨l, r ++ [p], by rw [List.append_assoc, List.cons_append], ?_⟩
        rw [keys, List.map_append, List.mem_append, not_or, List.map_singleton, List.mem_singleton]
        exact ⟨hr, Ne.symm hp⟩
    · rintro ⟨l, r, he, hr⟩
      rcases List.eq_nil_or_concat r with rfl | ⟨r, q, rfl⟩
      · obtain ⟨-, hp⟩ := List.append_inj' he rfl
        cases hp
        rw [if_pos rfl]
      · rw [List.concat_eq_append, ← List.cons_append, ← List.append_assoc] at he
        obtain ⟨he', hp⟩ := List.append_inj' he rfl
        cases hp
        rw [List.concat_eq_append, keys, List.map_append, List.mem_append, not_or,
          List.map_singleton, List.mem_singleton] at hr
        rw [if_neg (Ne.symm hr.2)]
        exact ih.2 ⟨l, r, he', hr.1⟩

theorem mem_of_mem_ofPairs {e : List (String × α)} {p : String × α} (h : p ∈ ofPairs e) :
    p ∈ e := by
  obtain ⟨l, r, rfl, -⟩ := mem_ofPairs_iff.1 h
  exact List.mem_append_right l List.mem_cons_self

end Entries

/-! ## Values -/

namespace Json

mutual

/-- A value with the members of every object sorted by key; of members of one key, the last value
stays. -/
def ordered : Json → Json
  | .arr items => .arr (orderedItems items)
  | .obj members => .obj (Entries.ofPairs (Entries.sorted (orderedMembers members)))
  | j => j

/-- `ordered` on all items. -/
def orderedItems : List Json → List Json
  | [] => []
  | x :: xs => ordered x :: orderedItems xs

/-- `ordered` on the values of all members. -/
def orderedMembers : List (String × Json) → List (String × Json)
  | [] => []
  | (k, v) :: ms => (k, ordered v) :: orderedMembers ms

end

theorem ordered_arr (items : List Json) : (arr items).ordered = .arr (items.map ordered) := by
  have h : orderedItems items = items.map ordered := by
    induction items with
    | nil => rfl
    | cons x xs ih => rw [orderedItems, ih, List.map_cons]
  rw [ordered, h]

theorem ordered_obj (members : Entries Json) :
    (obj members).ordered =
      .obj (Entries.ofPairs ((Entries.sorted members).map fun p => (p.1, p.2.ordered))) := by
  have h : orderedMembers members = members.map fun p => (p.1, p.2.ordered) := by
    induction members with
    | nil => rfl
    | cons p ms ih =>
      obtain ⟨k, v⟩ := p
      rw [orderedMembers, ih, List.map_cons]
  rw [ordered, h, Entries.sorted_map]

theorem ordered_obj_of_nodup {members : Entries Json} (h : (Entries.keys members).Nodup) :
    (obj members).ordered = .obj ((Entries.sorted members).map fun p => (p.1, p.2.ordered)) := by
  rw [ordered_obj, Entries.ofPairs_of_nodup]
  rw [Entries.keys_map]
  exact Entries.nodup_keys_sorted h

/-! ## Texts -/

variable (l : Layout) (depth : Nat)

theorem write_arr (items : List Json) :
    write l depth (.arr items) = enclose l depth "[" "]" (items.map (write l (depth + 1))) := by
  have h : writeItems l (depth + 1) items = items.map (write l (depth + 1)) := by
    induction items with
    | nil => rfl
    | cons x xs ih => rw [writeItems, ih, List.map_cons]
  rw [write, h]

theorem write_obj (members : Entries Json) :
    write l depth (.obj members) = enclose l depth "\x7b" "\x7d"
      ((Entries.sorted members).map fun p =>
        stringText p.1 ++ l.colon ++ write l (depth + 1) p.2) := by
  have h : writeMembers l (depth + 1) members =
      members.map fun p => (p.1, write l (depth + 1) p.2) := by
    induction members with
    | nil => rfl
    | cons p ms ih =>
      obtain ⟨k, v⟩ := p
      rw [writeMembers, ih, List.map_cons]
  rw [write, h, Entries.sorted_map, List.map_map]
  rfl

/-- Ordering the members does not change the text. -/
theorem write_ordered {j : Json} (hj : j.hasDistinctKeys = true) :
    write l depth j.ordered = write l depth j := by
  induction j using Json.induct generalizing depth with
  | parts j ih =>
    cases j with
    | arr items =>
      have hitems : (items.map ordered).map (write l (depth + 1)) =
          items.map (write l (depth + 1)) := by
        rw [List.map_map]
        exact List.map_congr_left fun x hx => ih x (.item hx) _ (hasDistinctKeys_arr.1 hj x hx)
      rw [ordered_arr, write_arr, write_arr, hitems]
    | obj members =>
      obtain ⟨hn, hm⟩ := hasDistinctKeys_obj.1 hj
      have hperm := Entries.perm_sorted members
      have hsorted : Entries.sorted (Entries.sorted members) = Entries.sorted members :=
        Entries.sorted_eq_of_perm hperm (Entries.nodup_keys_sorted hn)
      rw [ordered_obj_of_nodup hn, write_obj, write_obj, Entries.sorted_map, hsorted, List.map_map]
      refine congrArg _ (List.map_congr_left fun p hp => ?_)
      have hp : p ∈ members := hperm.mem_iff.1 hp
      exact congrArg _ (ih p.2 (.member hp) _ (hm p hp))
    | _ => rfl

end Json

end ShapeSum
