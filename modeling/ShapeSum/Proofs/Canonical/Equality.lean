import Mathlib.Data.List.Nodup
import Mathlib.Data.List.Perm.Subperm
import ShapeSum.Canonical.Text

/-!
# What a digest is made from

The digest of a JSON value is that of a canonical text, and this text always exists.
It is written from a form that does not depend on the order of the members of an
object (`digestForm_obj_eq`) nor on how a number is represented
(`equalityForm_of_whole?`).
-/

namespace ShapeSum

/-! ## Sorted entries -/

namespace Entries

variable {α : Type}

theorem perm_insertSorted (p : String × α) (e : Entries α) : (insertSorted p e).Perm (p :: e) := by
  induction e with
  | nil => exact .refl _
  | cons q rest ih =>
    unfold insertSorted
    split
    · exact .refl _
    · exact (ih.cons q).trans (.swap p q rest)

theorem pairwise_insertSorted (p : String × α) {e : Entries α}
    (h : e.Pairwise fun q r => q.1 ≤ r.1) :
    (insertSorted p e).Pairwise fun q r => q.1 ≤ r.1 := by
  induction e with
  | nil => exact List.pairwise_singleton _ _
  | cons q rest ih =>
    obtain ⟨hq, hrest⟩ := List.pairwise_cons.1 h
    unfold insertSorted
    split
    · rename_i hlt
      have hle : p.1 ≤ q.1 := String.not_lt.1 fun hgt => String.lt_irrefl _ (String.lt_trans hlt hgt)
      refine List.pairwise_cons.2 ⟨fun r hr => ?_, h⟩
      rcases List.mem_cons.1 hr with rfl | hr
      · exact hle
      · exact String.le_trans hle (hq r hr)
    · rename_i hlt
      refine List.pairwise_cons.2 ⟨fun r hr => ?_, ih hrest⟩
      rcases List.mem_cons.1 ((perm_insertSorted p rest).mem_iff.1 hr) with rfl | hr
      · exact String.not_lt.1 hlt
      · exact hq r hr

/-- The entries inserted one after the other into sorted ones are those of both, sorted. -/
theorem foldl_insertSorted (e acc : Entries α) (h : acc.Pairwise fun q r => q.1 ≤ r.1) :
    (e.foldl (fun acc p => insertSorted p acc) acc).Perm (e ++ acc) ∧
      (e.foldl (fun acc p => insertSorted p acc) acc).Pairwise fun q r => q.1 ≤ r.1 := by
  induction e generalizing acc with
  | nil => exact ⟨.refl _, h⟩
  | cons p rest ih =>
    obtain ⟨hperm, hsorted⟩ := ih (insertSorted p acc) (pairwise_insertSorted p h)
    exact ⟨(hperm.trans ((perm_insertSorted p acc).append_left rest)).trans List.perm_middle, hsorted⟩

theorem perm_sorted (e : Entries α) : (sorted e).Perm e :=
  (foldl_insertSorted e [] .nil).1.trans (.of_eq (List.append_nil e))

theorem pairwise_sorted (e : Entries α) : (sorted e).Pairwise fun q r => q.1 ≤ r.1 :=
  (foldl_insertSorted e [] .nil).2

/-- Entries with distinct keys are sorted alike, in whatever order they come. -/
theorem sorted_eq_of_perm {e e' : Entries α} (h : e.Perm e') (hn : (keys e).Nodup) :
    sorted e = sorted e' := by
  refine List.Perm.eq_of_pairwise (fun p q hp hq hpq hqp => ?_) (pairwise_sorted e)
    (pairwise_sorted e') ((perm_sorted e).trans (h.trans (perm_sorted e').symm))
  have hpe : p ∈ e := (perm_sorted e).mem_iff.1 hp
  have hqe : q ∈ e := h.mem_iff.2 ((perm_sorted e').mem_iff.1 hq)
  exact List.inj_on_of_nodup_map hn hpe hqe (String.le_antisymm hpq hqp)

/-- As many entries with distinct keys as there are others, each of which is found among the others,
are the others in some order. -/
theorem perm_of_get? {e e' : Entries α} (hn : (keys e).Nodup) (hl : e.length = e'.length)
    (h : ∀ p ∈ e, get? e' p.1 = some p.2) : e.Perm e' :=
  (List.subperm_of_subset (List.Nodup.of_map _ hn) fun p hp => mem_of_get? (h p hp)).perm_of_length_le
    (Nat.le_of_eq hl.symm)

end Entries

/-! ## Digests -/

/-- The JSON whose text is digested, under a normal form of texts. -/
def digestForm (normal : String → String) (j : Json) : Json := (equalityForm j).canonicalJson normal

section
variable (normal : String → String)

theorem digestForm_arr (items : List Json) :
    digestForm normal (.arr items) = .arr (items.map (digestForm normal)) := by
  have h : Datum.canonicalItems normal (equalityItems items) = items.map (digestForm normal) := by
    induction items with
    | nil => rfl
    | cons x xs ih => exact congrArg (digestForm normal x :: ·) ih
  exact congrArg Json.arr h

theorem canonicalEntries_equalityMembers (members : Entries Json) :
    Datum.canonicalEntries normal (equalityMembers members) =
      members.map fun p => (p.1, digestForm normal p.2) := by
  induction members with
  | nil => rfl
  | cons p rest ih =>
    obtain ⟨k, v⟩ := p
    exact congrArg ((k, digestForm normal v) :: ·) ih

theorem digestForm_obj (members : Entries Json) :
    digestForm normal (.obj members) =
      .obj (Entries.ofPairs ((Entries.sorted (members.map fun p =>
        (p.1, digestForm normal p.2))).map fun p => (normal p.1, p.2))) := by
  rw [← canonicalEntries_equalityMembers]
  rfl

/-- The form of an object is known from the forms under its keys. -/
theorem digestForm_obj_eq {ms ns : Entries Json} (hn : (Entries.keys ms).Nodup)
    (hl : ms.length = ns.length)
    (h : ∀ p ∈ ms, (Entries.get? ns p.1).map (digestForm normal) = some (digestForm normal p.2)) :
    digestForm normal (.obj ms) = digestForm normal (.obj ns) := by
  have hkeys : (Entries.keys (ms.map fun p => (p.1, digestForm normal p.2))).Nodup := by
    rw [Entries.keys, List.map_map]
    exact hn
  have hperm : (ms.map fun p => (p.1, digestForm normal p.2)).Perm
      (ns.map fun p => (p.1, digestForm normal p.2)) := by
    refine Entries.perm_of_get? hkeys ?_ fun q hq => ?_
    · rw [List.length_map, List.length_map, hl]
    · obtain ⟨p, hp, rfl⟩ := List.mem_map.1 hq
      rw [Entries.get?_map (digestForm normal) ns p.1]
      exact h p hp
  rw [digestForm_obj, digestForm_obj, Entries.sorted_eq_of_perm hperm hkeys]

end

/-! ## Numbers -/

/-- Zero is a whole number, whatever its sign. -/
theorem Binary64.toInt?_of_code_eq_zero {negative : Bool} {code : Fin magnitudeCount}
    (h : code.val = 0) : toInt? (.finite negative code) = some 0 := by
  have hunits : units code = 0 := by
    rw [h, units, significand, if_pos (by decide : 0 < Nat.pow 2 52), Nat.zero_mul]
  simp only [toInt?, hunits, Nat.zero_mod, Nat.zero_div]
  cases negative <;> rfl

/-- Doubles that are equal are the same, or both are zero. -/
theorem Binary64.eq_or_zero_of_numericallyEqual {x y : Binary64}
    (h : x.numericallyEqual y = true) : x = y ∨ x.toInt? = some 0 ∧ y.toInt? = some 0 := by
  unfold numericallyEqual at h
  split at h
  · exact .inl (congrArg _ (eq_of_beq h))
  · rename_i a c b d
    rw [Bool.and_eq_true, Bool.or_eq_true] at h
    obtain ⟨hcode, hsign | hzero⟩ := h
    · exact .inl (by rw [eq_of_beq hcode, eq_of_beq hsign])
    · have hzero : c.val = 0 := eq_of_beq hzero
      refine .inr ⟨toInt?_of_code_eq_zero hzero, toInt?_of_code_eq_zero ?_⟩
      rw [← eq_of_beq hcode, hzero]
  · cases h

/-- The integer that a number is, if it is whole. -/
def Json.whole? : Json → Option Int
  | .float x => x.toInt?
  | j => j.asInt?

theorem Json.whole?_of_asInt? {j : Json} {n : Int} (h : j.asInt? = some n) :
    j.whole? = some n := by
  cases j with
  | float x => cases h
  | _ => exact h

/-- Scalars that are equal are the same, or they are numbers of one whole value. -/
theorem Json.eq_or_whole_of_sameScalar {a b : Json} (h : a.sameScalar b = true) :
    a = b ∨ ∃ n, a.whole? = some n ∧ b.whole? = some n := by
  unfold sameScalar at h
  split at h
  · exact .inl rfl
  · exact (Binary64.eq_or_zero_of_numericallyEqual h).imp (congrArg _) fun hz => ⟨0, hz⟩
  · split at h
    · rename_i n hn
      exact .inr ⟨n, eq_of_beq h, whole?_of_asInt? hn⟩
    · cases h
  · split at h
    · rename_i n hn
      exact .inr ⟨n, whole?_of_asInt? hn, eq_of_beq h⟩
    · cases h
  · split at h
    · rename_i m n hm hn
      exact .inr ⟨n, eq_of_beq h ▸ whole?_of_asInt? hm, whole?_of_asInt? hn⟩
    · cases h

/-- A whole number has the form of its integer. -/
theorem equalityForm_of_whole? {j : Json} {n : Int} (h : j.whole? = some n) :
    equalityForm j = .int n := by
  cases j with
  | float x =>
    cases x with
    | nan => cases h
    | infinite negative => cases h
    | finite negative code =>
      have h : Binary64.toInt? (.finite negative code) = some n := h
      simp only [equalityForm, h]
  | bool b => cases h; rfl
  | int m => cases h; rfl
  | _ => cases h

/-! ## Faults -/

mutual

/-- The form of a value has no fault. -/
theorem fault?_equalityForm (path : String) (j : Json) :
    (equalityForm j).fault? true path = none := by
  cases j with
  | null => rfl
  | bool b => rfl
  | int n => rfl
  | float x =>
    cases x with
    | nan => rfl
    | infinite negative => cases negative <;> rfl
    | finite negative code =>
      simp only [equalityForm]
      split <;> rfl
  | str s => rfl
  | arr items => exact itemFault?_equalityItems path 0 items
  | obj members => exact entryFault?_equalityMembers path members

theorem itemFault?_equalityItems (path : String) (index : Nat) (items : List Json) :
    Datum.itemFault? true path index (equalityItems items) = none := by
  cases items with
  | nil => rfl
  | cons x xs =>
    simp only [equalityItems, Datum.itemFault?, fault?_equalityForm _ x,
      itemFault?_equalityItems path _ xs, Option.or_none]

theorem entryFault?_equalityMembers (path : String) (members : List (String × Json)) :
    Datum.entryFault? true path (equalityMembers members) = none := by
  cases members with
  | nil => rfl
  | cons p rest =>
    obtain ⟨k, v⟩ := p
    simp only [equalityMembers, Datum.entryFault?, fault?_equalityForm _ v,
      entryFault?_equalityMembers path rest, Option.or_none]

end

/-- Every value is digested from the text of its form. -/
theorem digestText_eq (j : Json) :
    digestText j = .ok (digestForm Text.composed j).compact := by
  rw [digestText, canonicalText, canonicalTextWith, fault?_equalityForm]
  rfl

/-- Every value has a digest, which its form determines. -/
theorem digest_eq (j : Json) :
    digest j = .ok (Digest.ofText (digestForm Text.composed j).compact) := by
  rw [digest, digestText_eq]
  rfl

end ShapeSum
