import ShapeSum.Proofs.Canonical.Equality
import ShapeSum.Proofs.Types.Resemblance

/-!
# Equal values have equal digests

Values are equal when they differ in the order of members and in how their numbers are
represented, at any depth.  None of this is left in the form that is digested, so equal
values are digested from one text (`digestText_of_same`).
-/

namespace ShapeSum

variable {normal : String → String} {x y : Json}

/-- Scalars that are equal have one form. -/
theorem digestForm_eq_of_sameScalar (h : x.sameScalar y = true) :
    digestForm normal x = digestForm normal y := by
  rcases Json.eq_or_whole_of_sameScalar h with rfl | ⟨n, hx, hy⟩
  · rfl
  · rw [digestForm, digestForm, equalityForm_of_whole? hx, equalityForm_of_whole? hy]

/-- Arrays that are equal item by item have one form if equal items have. -/
theorem digestForm_eq_of_sameItems {xs ys : List Json}
    (ih : ∀ x ∈ xs, ∀ y, x.same y = true → digestForm normal x = digestForm normal y)
    (h : Json.sameItems Json.sameScalar xs ys = true) :
    xs.map (digestForm normal) = ys.map (digestForm normal) := by
  induction xs generalizing ys with
  | nil =>
    rw [Json.sameItems, List.isEmpty_iff] at h
    rw [h]
  | cons x xs ihs =>
    cases ys with
    | nil =>
      rw [Json.sameItems] at h
      cases h
    | cons y ys =>
      rw [Json.sameItems, Bool.and_eq_true] at h
      have hx := ih x List.mem_cons_self y h.1
      have hxs := ihs (fun x hx => ih x (List.mem_cons_of_mem _ hx)) h.2
      rw [List.map_cons, List.map_cons, hx, hxs]

/-- Objects that are equal have one form if equal members have; the order in which the members come
and the keys that get one normal form do not matter, as the members are put in order before. -/
theorem digestForm_eq_of_sameMembers {ms ns : Entries Json} (hn : (Entries.keys ms).Nodup)
    (ih : ∀ p ∈ ms, ∀ y, p.2.same y = true → digestForm normal p.2 = digestForm normal y)
    (hl : ms.length = ns.length) (h : Json.sameMembers Json.sameScalar ms ns = true) :
    digestForm normal (.obj ms) = digestForm normal (.obj ns) := by
  refine digestForm_obj_eq normal hn hl fun p hp => ?_
  obtain ⟨w, hw, hs⟩ := Json.sameMembers_iff.1 h p hp
  rw [hw, ih p hp w hs]
  rfl

/-- Equal values have one form, provided that no object has a key twice. -/
theorem digestForm_eq_of_same (hd : x.hasDistinctKeys = true) (h : x.same y = true) :
    digestForm normal x = digestForm normal y := by
  induction x using Json.induct generalizing y with
  | parts x ih =>
    unfold Json.same at h
    cases x with
    | str s =>
      unfold Json.sameBy at h
      split at h
      · rw [eq_of_beq h]
      · cases h
    | arr xs =>
      unfold Json.sameBy at h
      split at h
      · rw [digestForm_arr, digestForm_arr]
        exact congrArg Json.arr (digestForm_eq_of_sameItems (fun x hx y hxy =>
          ih x (.item hx) (Json.hasDistinctKeys_arr.1 hd x hx) hxy) h)
      · cases h
    | obj ms =>
      unfold Json.sameBy at h
      split at h
      · obtain ⟨hn, hms⟩ := Json.hasDistinctKeys_obj.1 hd
        rw [Bool.and_eq_true, beq_iff_eq] at h
        exact digestForm_eq_of_sameMembers hn (fun p hp y hpy => ih p.2 (.member hp) (hms p hp) hpy)
          h.1 h.2
      · cases h
    | _ =>
      unfold Json.sameBy at h
      exact digestForm_eq_of_sameScalar h

/-- A value with keys that have one normal form, with whole numbers and with a zero. -/
def mixedNumbers : Json :=
  .obj [("é", .arr [.bool true, .int 0, .int (2 ^ 60)]), ("e\u0301", .int 2),
    ("inner", .obj [("a", .float (.ofQuotient false 1 2)), ("b", .bool false)])]

/-- The same value with its members in another order and its numbers represented in another way. -/
def remixedNumbers : Json :=
  .obj [("inner", .obj [("b", .float (.ofCode true 0)), ("a", .float (.ofQuotient false 2 4))]),
    ("e\u0301", .float (.ofInt 2)),
    ("é", .arr [.float (.ofInt 1), .float (.ofCode true 0), .float (.ofInt (2 ^ 60))])]

end ShapeSum
