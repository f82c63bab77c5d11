import ShapeSum.Proofs.Decode.Shape
import ShapeSum.Proofs.Value.Reflexivity

/-!
# Data that a nested union is to decode

A field may hold values of a union, lists of them, or null instead (`FieldType.Nests`).  Its
data is judged as a part of the object around it, and should come to what the union decodes
by itself, item by item (`FieldType.Decodes`).

`decodes_iff` says so for the values, `issueAt_iff` for the places of the issues, and
`unsettled_iff` for the models that were never completed.  All of them go by the type: a
union by the dispatch of an object, a list by its items.
-/

namespace ShapeSum

variable {types : Types} {n : TypeId} {u : UnionType} {t t' : FieldType} {j j' : Json}
  {v : Value} {path : List String}

/-! ## Data that a union is to decode -/

namespace FieldType

/-- A type of lists, and the type of their items. -/
inductive ListOf : FieldType → FieldType → Prop
  /-- Lists. -/
  | list {t : FieldType} : ListOf (.list t) t
  /-- Immutable lists. -/
  | tuple {t : FieldType} : ListOf (.tuple t) t

/-- The values of a type are those of the union at a place, lists of them, or null besides. -/
inductive Nests (n : TypeId) : FieldType → Prop
  /-- Values of the union. -/
  | union : Nests n (.union n)
  /-- Lists. -/
  | items {t t' : FieldType} : t'.ListOf t → Nests n t → Nests n t'
  /-- Null besides. -/
  | optional {t : FieldType} : Nests n t → Nests n (.choice [t, .null])

mutual

/-- What data becomes when the union decodes it by itself: an object is dispatched, an array is
decoded item by item, and null is kept where it may stand. -/
inductive Decodes (types : Types) (u : UnionType) : FieldType → Json → Value → Prop
  /-- An object that is dispatched to a variant. -/
  | union {id : TypeId} {members : Entries Json} {w : Variant} {payload : Value} :
      (dispatch types u (Value.ofMembers members)).outcome = .matched w payload →
      Decodes types u (.union id) (.obj members) (.choice id w.tag payload)
  /-- An array. -/
  | list {t : FieldType} {items : List Json} {vs : List Value} : DecodesAll types u t items vs →
      Decodes types u (.list t) (.arr items) (.list vs)
  /-- An array that is made immutable. -/
  | tuple {t : FieldType} {items : List Json} {vs : List Value} : DecodesAll types u t items vs →
      Decodes types u (.tuple t) (.arr items) (.tuple vs)
  /-- Null. -/
  | null {t : FieldType} : Decodes types u (.choice [t, .null]) .null .null
  /-- Data where null might stand. -/
  | optional {t : FieldType} {j : Json} {v : Value} : Decodes types u t j v →
      Decodes types u (.choice [t, .null]) j v

/-- `Decodes` item by item. -/
inductive DecodesAll (types : Types) (u : UnionType) :
    FieldType → List Json → List Value → Prop
  /-- No items. -/
  | nil {t : FieldType} : DecodesAll types u t [] []
  /-- An item and the others. -/
  | cons {t : FieldType} {j : Json} {v : Value} {js : List Json} {vs : List Value} :
      Decodes types u t j v → DecodesAll types u t js vs → DecodesAll types u t (j :: js) (v :: vs)

end

/-- The data at a path of indices, and the type that it stands under. -/
inductive PartAt : FieldType → Json → List String → FieldType → Json → Prop
  /-- The data itself. -/
  | whole {t : FieldType} {j : Json} : PartAt t j [] t j
  /-- A part of an item. -/
  | item {s t t' : FieldType} {items : List Json} {k : Nat} {x j' : Json} {path : List String} :
      s.ListOf t → items[k]? = some x → PartAt t x path t' j' →
      PartAt s (.arr items) (toString k :: path) t' j'
  /-- A part of data that is not null, where null might stand. -/
  | optional {t t' : FieldType} {j j' : Json} {path : List String} : j ≠ .null →
      PartAt t j path t' j' → PartAt (.choice [t, .null]) j path t' j'

/-- The union gives no answer for some object in the data: the variant that it selects comes upon a
model that was never completed. -/
def Strands (types : Types) (u : UnionType) (t : FieldType) (j : Json) : Prop :=
  ∃ path id members w name, t.PartAt j path (.union id) (.obj members) ∧
    (dispatch types u (Value.ofMembers members)).outcome = .failed w (.incomplete name)

theorem ListOf.unique {s t t' : FieldType} (h : s.ListOf t) (h' : s.ListOf t') : t = t' := by
  cases h <;> cases h' <;> rfl

theorem Nests.item (ht : t'.Nests n) (h : t'.ListOf t) : t.Nests n := by
  cases ht with
  | union => cases h
  | items h' ht => exact h.unique h' ▸ ht
  | optional _ => cases h

theorem Nests.ne_null (ht : t.Nests n) : t ≠ .null := by
  rintro rfl
  cases ht with
  | items hlist _ => cases hlist

/-- Null is kept as null. -/
theorem Decodes.eq_null (ht : t.Nests n) (h : Decodes types u t .null v) : v = .null := by
  induction ht with
  | union => cases h
  | items hlist _ _ => cases hlist <;> cases h
  | optional _ ih =>
    cases h with
    | null => rfl
    | optional h => exact ih h

end FieldType

open FieldType (Decodes DecodesAll PartAt Strands)

/-! ## Judgements of nested data -/

/-- What a union makes of an object as a part of other data is what it makes of it alone. -/
theorem judgement_union_obj (hu : types.union? n = some u) (members : Entries Json) :
    judgement types (.ofJson (.obj members)) (.union n) =
      match (dispatch types u (Value.ofMembers members)).outcome with
      | .matched w payload => .ok (.exact (.choice n w.tag payload))
      | .failed _ (.incomplete name) => .error [⟨[], .undefined name⟩]
      | .failed _ e => .error [⟨[], .union e.message⟩]
      | .noMatch => .error [⟨[], .union (noMatchMessage u.name
          (dispatch types u (Value.ofMembers members)).keys)⟩] := by
  rw [judgement_eq]
  unfold judge judgeUnion
  rw [hu]
  rfl

/-- A union refuses whatever is no object. -/
theorem judgement_union_of_not_obj (hu : types.union? n = some u)
    (hj : ∀ members, j ≠ .obj members) :
    ∃ message, judgement types (.ofJson j) (.union n) = .error [⟨[], .union message⟩] := by
  rw [judgement_eq]
  unfold judge judgeUnion
  rw [hu]
  cases j with
  | obj members => exact absurd rfl (hj members)
  | _ => exact ⟨_, rfl⟩

/-- Where null might stand, other data is judged as if it might not. -/
theorem judgement_optional (ht : t ≠ .null) (hj : j ≠ .null) :
    judgement types (.ofJson j) (.choice [t, .null]) = judgement types (.ofJson j) t := by
  have hv : Value.ofJson j ≠ .null := by
    cases j with
    | null => exact absurd rfl hj
    | _ => exact nofun
  have hsame : FieldType.same t .null = false :=
    Bool.eq_false_iff.2 fun h => ht ((FieldType.same_iff _ _).1 h)
  have hothers : FieldType.others [t, .null] = [t] := by
    simp [FieldType.others, hsame, FieldType.same]
  rw [judgement_choice fun h => absurd h hv, hothers]
  rfl

theorem judgement_optional_null :
    judgement types (.ofJson .null) (.choice [t, .null]) = .ok (.exact .null) :=
  judgement_choice_null (by simp)

theorem mem_itemParts {item : FieldType} {start : Nat} {items : List Judge}
    {part : String × String × Judgement} :
    part ∈ itemParts item start items ↔
      ∃ k judge, items[k]? = some judge ∧ part = (toString (start + k), "", judge item) := by
  induction items generalizing start with
  | nil => simp [itemParts]
  | cons judge rest ih =>
    rw [itemParts, List.mem_cons, ih]
    constructor
    · rintro (rfl | ⟨k, judge', hk, rfl⟩)
      · exact ⟨0, judge, rfl, rfl⟩
      · exact ⟨k + 1, judge', hk, by rw [Nat.add_right_comm, Nat.add_assoc]⟩
    · rintro ⟨k, judge', hk, rfl⟩
      cases k with
      | zero =>
        cases hk
        exact .inl rfl
      | succ k => exact .inr ⟨k, judge', hk, by rw [Nat.add_right_comm, Nat.add_assoc]⟩

theorem eq_of_toString_eq {k l : Nat} (h : toString k = toString l) : k = l := by
  rw [Nat.toString_eq_ofList_toDigits, Nat.toString_eq_ofList_toDigits, String.ofList_inj] at h
  rw [← Nat.ofDigitChars_ten_toDigits (n := k), h, Nat.ofDigitChars_ten_toDigits]

/-- The issues of an array are those of its items, under their indices. -/
theorem mem_issuesOf_judgeItems {wrap : List Value → Value} {least : Exactness} {items : List Json}
    {i : Issue} :
    i ∈ issuesOf (judgeItems wrap least t (itemJudgements types (Value.ofItems items))) ↔
      ∃ (k : Nat) (x : Json) (i' : Issue), items[k]? = some x ∧
        i' ∈ issuesOf (judgement types (.ofJson x) t) ∧ i = i'.under (toString k) := by
  have hissues : issuesOf (judgeItems wrap least t (itemJudgements types (Value.ofItems items))) =
      issuesOf (judgeParts (itemParts t 0 (itemJudgements types (Value.ofItems items)))) := by
    unfold judgeItems
    cases judgeParts (itemParts t 0 (itemJudgements types (Value.ofItems items))) <;> rfl
  rw [hissues, issuesOf_judgeParts, List.mem_flatMap, itemJudgements_eq_map,
    Value.ofItems_eq_map, List.map_map]
  simp only [mem_itemParts, List.getElem?_map, Option.map_eq_some_iff, List.mem_map]
  constructor
  · rintro ⟨_, ⟨k, _, ⟨x, hx, rfl⟩, rfl⟩, i', hi', rfl⟩
    exact ⟨k, x, i', hx, hi', by rw [Nat.zero_add]⟩
  · rintro ⟨k, x, i', hx, hi', rfl⟩
    exact ⟨_, ⟨k, _, ⟨x, hx, rfl⟩, rfl⟩, i', hi', by rw [Nat.zero_add]⟩

/-! ## Values, issues and models that are not complete -/

/-- Items are decoded when each of them is taken. -/
theorem decodesAll_iff_taken {items : List Json} {vs : List Value}
    (hitem : ∀ {j v}, Decodes types u t j v ↔
      ∃ r, judgement types (.ofJson j) t = .ok r ∧ r.value = v) :
    DecodesAll types u t items vs ↔
      ∃ ts, List.Forall₂ (fun x r => judgement types (.ofJson x) t = .ok r) items ts ∧
        ts.map Taken.value = vs := by
  constructor
  · intro h
    induction items generalizing vs with
    | nil =>
      cases h
      exact ⟨[], .nil, rfl⟩
    | cons x xs ih =>
      cases h with
      | cons hx hxs =>
        obtain ⟨r, hr, rfl⟩ := hitem.1 hx
        obtain ⟨ts, hts, rfl⟩ := ih hxs
        exact ⟨r :: ts, .cons hr hts, rfl⟩
  · rintro ⟨ts, hts, rfl⟩
    induction hts with
    | nil => exact .nil
    | cons hr _ ih => exact .cons (hitem.2 ⟨_, hr, rfl⟩) ih

/-- Data is taken as the value that the union decodes it to. -/
theorem decodes_iff (ht : t.Nests n) (hu : types.union? n = some u) :
    Decodes types u t j v ↔ ∃ r, judgement types (.ofJson j) t = .ok r ∧ r.value = v := by
  induction ht generalizing j v with
  | union =>
    constructor
    · rintro (⟨hd⟩)
      exact ⟨_, judgement_union_of_matched hu hd, rfl⟩
    · rintro ⟨r, hr, rfl⟩
      obtain ⟨u', members, w, payload, hu', rfl, hd, rfl⟩ := exists_matched_of_judgement hr
      cases hu.symm.trans hu'
      exact .union hd
  | items hlist _ ih =>
    cases hlist with
    | list =>
      constructor
      · rintro (_ | ⟨h⟩)
        obtain ⟨ts, hts, rfl⟩ := (decodesAll_iff_taken ih).1 h
        exact ⟨_, (judgement_list ..).trans (judgeItems_ofItems_eq_ok_iff.2 ⟨ts, hts, rfl⟩), rfl⟩
      · rintro ⟨r, hr, rfl⟩
        obtain ⟨items, rfl⟩ := exists_items_of_container?
          (container?_of_judgement rfl (by nofun) hr)
        rw [judgement_list] at hr
        obtain ⟨ts, hts, rfl⟩ := judgeItems_ofItems_eq_ok_iff.1 hr
        exact .list ((decodesAll_iff_taken ih).2 ⟨ts, hts, rfl⟩)
    | tuple =>
      constructor
      · rintro (_ | _ | ⟨h⟩)
        obtain ⟨ts, hts, rfl⟩ := (decodesAll_iff_taken ih).1 h
        exact ⟨_, (judgement_tuple ..).trans (judgeItems_ofItems_eq_ok_iff.2 ⟨ts, hts, rfl⟩), rfl⟩
      · rintro ⟨r, hr, rfl⟩
        obtain ⟨items, rfl⟩ := exists_items_of_container?
          (container?_of_judgement rfl (by nofun) hr)
        rw [judgement_tuple] at hr
        obtain ⟨ts, hts, rfl⟩ := judgeItems_ofItems_eq_ok_iff.1 hr
        exact .tuple ((decodesAll_iff_taken ih).2 ⟨ts, hts, rfl⟩)
  | @optional t ht ih =>
    by_cases hj : j = .null
    · subst hj
      rw [judgement_optional_null]
      constructor
      · intro h
        exact ⟨_, rfl, (h.eq_null (.optional ht)).symm⟩
      · rintro ⟨r, hr, rfl⟩
        cases hr
        exact .null
    · rw [judgement_optional ht.ne_null hj, ← ih]
      constructor
      · intro h
        cases h with
        | null => exact absurd rfl hj
        | optional h => exact h
      · exact .optional

/-- An array is judged item by item, and nothing else is taken for one. -/
structure JudgesItems (types : Types) (t t' : FieldType) : Prop where
  /-- An array. -/
  arr : ∀ items, ∃ wrap least, judgement types (.ofJson (.arr items)) t' =
    judgeItems wrap least t (itemJudgements types (Value.ofItems items))
  /-- Other data. -/
  other : ∀ j, (∀ items, j ≠ .arr items) →
    ∃ m, judgement types (.ofJson j) t' = .error [⟨[], m⟩] ∧ m.undefined? = none

theorem judgesItems (h : t'.ListOf t) : JudgesItems types t t' := by
  cases h with
  | list =>
    refine ⟨fun items => ⟨_, _, judgement_list ..⟩, fun j hj => ⟨.list, ?_, rfl⟩⟩
    rw [judgement_eq]
    unfold judge
    cases j with
    | arr items => exact absurd rfl (hj items)
    | _ => rfl
  | tuple =>
    refine ⟨fun items => ⟨_, _, judgement_tuple ..⟩, fun j hj => ⟨.tuple, ?_, rfl⟩⟩
    rw [judgement_eq]
    unfold judge
    cases j with
    | arr items => exact absurd rfl (hj items)
    | _ => rfl

/-- Data that no issue speaks against is taken. -/
def Candid (types : Types) (t : FieldType) : Prop :=
  ∀ j, issuesOf (judgement types (.ofJson j) t) = [] → ∃ r, judgement types (.ofJson j) t = .ok r

theorem JudgesItems.candid (h : JudgesItems types t t') (hitem : Candid types t) :
    Candid types t' := by
  intro j hj
  by_cases harr : ∃ items, j = .arr items
  · obtain ⟨items, rfl⟩ := harr
    obtain ⟨wrap, least, hjudged⟩ := h.arr items
    have hitems : ∀ x ∈ items, ∃ r, judgement types (.ofJson x) t = .ok r := by
      intro x hx
      obtain ⟨k, hk⟩ := List.mem_iff_getElem?.1 hx
      refine hitem x (List.eq_nil_iff_forall_not_mem.2 fun i hi => ?_)
      rw [hjudged, List.eq_nil_iff_forall_not_mem] at hj
      exact hj _ (mem_issuesOf_judgeItems.2 ⟨k, x, i, hk, hi, rfl⟩)
    obtain ⟨ts, hts⟩ := exists_forall₂ hitems
    exact ⟨_, hjudged.trans (judgeItems_ofItems_eq_ok_iff.2 ⟨ts, hts, rfl⟩)⟩
  · obtain ⟨m, hm, -⟩ := h.other j fun items he => harr ⟨items, he⟩
    rw [hm] at hj
    cases hj

theorem candid (ht : t.Nests n) (hu : types.union? n = some u) : Candid types t := by
  induction ht with
  | union =>
    intro j hj
    by_cases hobj : ∃ members, j = .obj members
    · obtain ⟨members, rfl⟩ := hobj
      rw [judgement_union_obj hu] at hj ⊢
      split at hj
      · exact ⟨_, rfl⟩
      · cases hj
      · cases hj
      · cases hj
    · obtain ⟨message, hm⟩ := judgement_union_of_not_obj hu fun members he => hobj ⟨members, he⟩
      rw [hm] at hj
      cases hj
  | items hlist _ ih => exact (judgesItems hlist).candid ih
  | optional ht ih =>
    intro j hj
    by_cases hnull : j = .null
    · subst hnull
      exact ⟨_, judgement_optional_null⟩
    · rw [judgement_optional ht.ne_null hnull] at hj ⊢
      exact ih j hj

/-- Data is refused, for an issue, exactly when the union does not decode it. -/
theorem exists_issue_iff (ht : t.Nests n) (hu : types.union? n = some u) :
    (∃ i, i ∈ issuesOf (judgement types (.ofJson j) t)) ↔ ¬∃ v, Decodes types u t j v := by
  simp only [decodes_iff ht hu]
  constructor
  · rintro ⟨i, hi⟩ ⟨_, r, hr, rfl⟩
    rw [hr] at hi
    cases hi
  · intro h
    by_contra hnone
    obtain ⟨r, hr⟩ := candid ht hu j
      (List.eq_nil_iff_forall_not_mem.2 fun i hi => hnone ⟨i, hi⟩)
    exact h ⟨_, r, hr, rfl⟩

/-- Some issue lies at a path or further inside. -/
def IssueAt (judged : Judgement) (path : List String) : Prop :=
  ∃ i ∈ issuesOf judged, path <+: i.path

theorem JudgesItems.issueAt_iff (h : JudgesItems types t t') {items : List Json} {k : Nat} {x : Json}
    (hx : items[k]? = some x) :
    IssueAt (judgement types (.ofJson (.arr items)) t') (toString k :: path) ↔
      IssueAt (judgement types (.ofJson x) t) path := by
  obtain ⟨wrap, least, hjudged⟩ := h.arr items
  rw [hjudged]
  constructor
  · rintro ⟨_, hmem, hprefix⟩
    obtain ⟨k', x', i, hx', hi, rfl⟩ := mem_issuesOf_judgeItems.1 hmem
    obtain ⟨hk, hpath⟩ := List.cons_prefix_cons.1 hprefix
    cases eq_of_toString_eq hk
    cases hx.symm.trans hx'
    exact ⟨i, hi, hpath⟩
  · rintro ⟨i, hi, hpath⟩
    exact ⟨_, mem_issuesOf_judgeItems.2 ⟨k, x, i, hx, hi, rfl⟩,
      List.cons_prefix_cons.2 ⟨rfl, hpath⟩⟩

/-- There are issues at the place of a part exactly when the union does not decode the part. -/
theorem issueAt_iff (ht : t.Nests n) (hu : types.union? n = some u)
    (hp : t.PartAt j path t' j') :
    IssueAt (judgement types (.ofJson j) t) path ↔ ¬∃ v, Decodes types u t' j' v := by
  induction hp with
  | whole =>
    rw [← exists_issue_iff ht hu]
    exact ⟨fun ⟨i, hi, _⟩ => ⟨i, hi⟩, fun ⟨i, hi⟩ => ⟨i, hi, List.nil_prefix⟩⟩
  | item hlist hx _ ih => rw [(judgesItems hlist).issueAt_iff hx, ih (ht.item hlist)]
  | optional hnull _ ih =>
    cases ht with
    | items hlist _ => cases hlist
    | optional ht => rw [judgement_optional ht.ne_null hnull, ih ht]

/-- Some issue is about a model that was never completed. -/
def Unsettled (judged : Judgement) : Prop :=
  ∃ i ∈ issuesOf judged, i.mismatch.undefined?.isSome = true

theorem JudgesItems.unsettled_iff (h : JudgesItems types t t') {items : List Json} :
    Unsettled (judgement types (.ofJson (.arr items)) t') ↔ ∃ (k : Nat) (x : Json),
      items[k]? = some x ∧ Unsettled (judgement types (.ofJson x) t) := by
  obtain ⟨wrap, least, hjudged⟩ := h.arr items
  rw [hjudged]
  constructor
  · rintro ⟨_, hmem, hm⟩
    obtain ⟨k, x, i, hx, hi, rfl⟩ := mem_issuesOf_judgeItems.1 hmem
    exact ⟨k, x, hx, i, hi, hm⟩
  · rintro ⟨k, x, hx, i, hi, hm⟩
    exact ⟨_, mem_issuesOf_judgeItems.2 ⟨k, x, i, hx, hi, rfl⟩, hm⟩

theorem JudgesItems.not_unsettled (h : JudgesItems types t t') (hj : ∀ items, j ≠ .arr items) :
    ¬Unsettled (judgement types (.ofJson j) t') := by
  obtain ⟨m, hjudged, hm⟩ := h.other j hj
  rintro ⟨i, hi, hsome⟩
  rw [hjudged] at hi
  cases List.mem_singleton.1 hi
  rw [hm] at hsome
  cases hsome

theorem not_unsettled_singleton {m : Mismatch} (hm : m.undefined? = none) :
    ¬Unsettled (.error [⟨[], m⟩]) := by
  rintro ⟨i, hi, hsome⟩
  cases List.mem_singleton.1 hi
  rw [hm] at hsome
  cases hsome

/-- Data comes upon a model that was never completed exactly when the union does. -/
theorem unsettled_iff (ht : t.Nests n) (hu : types.union? n = some u) :
    Unsettled (judgement types (.ofJson j) t) ↔ t.Strands types u j := by
  induction ht generalizing j with
  | union =>
    by_cases hobj : ∃ members, j = .obj members
    · obtain ⟨members, rfl⟩ := hobj
      constructor
      · intro h
        rw [judgement_union_obj hu] at h
        split at h
        · obtain ⟨i, hi, -⟩ := h
          cases hi
        · rename_i w name hd
          exact ⟨_, _, _, _, _, .whole, hd⟩
        · exact absurd h (not_unsettled_singleton rfl)
        · exact absurd h (not_unsettled_singleton rfl)
      · rintro ⟨path, id, members', w, name, hp, hd⟩
        cases hp with
        | whole =>
          rw [judgement_union_obj hu, hd]
          exact ⟨_, List.mem_singleton_self _, rfl⟩
    · constructor
      · intro h
        obtain ⟨message, hm⟩ := judgement_union_of_not_obj hu fun members he => hobj ⟨members, he⟩
        rw [hm] at h
        exact absurd h (not_unsettled_singleton rfl)
      · rintro ⟨path, id, members, w, name, hp, -⟩
        cases hp with
        | whole => exact absurd ⟨members, rfl⟩ hobj
        | item hlist _ _ => cases hlist
  | items hlist _ ih =>
    constructor
    · intro h
      by_cases harr : ∃ items, j = .arr items
      · obtain ⟨items, rfl⟩ := harr
        obtain ⟨k, x, hx, h⟩ := (judgesItems hlist).unsettled_iff.1 h
        obtain ⟨path, id, members, w, name, hp, hd⟩ := ih.1 h
        exact ⟨_, id, members, w, name, .item hlist hx hp, hd⟩
      · exact absurd h ((judgesItems hlist).not_unsettled fun items he => harr ⟨items, he⟩)
    · rintro ⟨path, id, members, w, name, hp, hd⟩
      cases hp with
      | whole => cases hlist
      | item hlist' hx hp =>
        cases hlist.unique hlist'
        exact (judgesItems hlist).unsettled_iff.2
          ⟨_, _, hx, ih.2 ⟨_, id, members, w, name, hp, hd⟩⟩
      | optional _ _ => cases hlist
  | optional ht ih =>
    by_cases hnull : j = .null
    · subst hnull
      rw [judgement_optional_null]
      constructor
      · rintro ⟨i, hi, -⟩
        cases hi
      · rintro ⟨path, id, members, w, name, hp, -⟩
        cases hp with
        | optional hnull _ => exact absurd rfl hnull
    · rw [judgement_optional ht.ne_null hnull, ih]
      constructor
      · rintro ⟨path, id, members, w, name, hp, hd⟩
        exact ⟨path, id, members, w, name, .optional hnull hp, hd⟩
      · rintro ⟨path, id, members, w, name, hp, hd⟩
        cases hp with
        | item hlist _ _ => cases hlist
        | optional _ hp => exact ⟨path, id, members, w, name, hp, hd⟩

end ShapeSum
