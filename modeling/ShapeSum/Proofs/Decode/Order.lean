import ShapeSum.Proofs.Decode.Verdicts
import ShapeSum.Proofs.Value.Hashable
import ShapeSum.Proofs.Value.Order

/-!
# Decoding does not depend on the order of members

A type makes the same of reordered values: it takes both or none, the values that it makes
are reordered, and their exactness and their counts of fields are the same, so that choices
decide alike (`alike_judgement`).  Of the issues only the order may differ, and which of
them is about a model that was never completed does not.

A union selects the same variant for reordered objects (`dispatch_reorders`).
-/

namespace ShapeSum

variable {types : Types}

/-! ## Judgements that end alike -/

/-- Two computations end alike: with related results, or with issues that name the same model that
was never completed, if any. -/
inductive EndAlike {α : Type} (R : α → α → Prop) :
    Except (List Issue) α → Except (List Issue) α → Prop
  /-- Both succeed. -/
  | ok {a b : α} : R a b → EndAlike R (.ok a) (.ok b)
  /-- Both fail. -/
  | error {is js : List Issue} : undefinedIn? is = undefinedIn? js →
      EndAlike R (.error is) (.error js)

/-- Values taken are reordered, and were taken equally well. -/
structure Taken.Alike (t t' : Taken) : Prop where
  value : t.value.Reorders t'.value
  exactness : t.exactness = t'.exactness
  fieldCount : t.fieldCount = t'.fieldCount

/-- Parts taken together are reordered one by one, and were taken equally well. -/
structure TakenParts.Alike (p p' : TakenParts) : Prop where
  values : List.Forall₂ (fun a b => a.1 = b.1 ∧ a.2.Reorders b.2) p.values p'.values
  exactness : p.exactness = p'.exactness
  fieldCount : p.fieldCount = p'.fieldCount

/-- Two values are judged alike by every type. -/
def Judge.Alike (j j' : Judge) : Prop := ∀ type, EndAlike Taken.Alike (j type) (j' type)

/-- The parts of two values are judged alike: items one by one, entries key by key. -/
structure PartJudges.Alike (parts parts' : PartJudges) : Prop where
  items : List.Forall₂ Judge.Alike parts.items parts'.items
  entries : ∀ k, Option.Rel Judge.Alike (Entries.get? parts.entries k)
    (Entries.get? parts'.entries k)

theorem Taken.alike_refl (t : Taken) : t.Alike t := ⟨.refl _, rfl, rfl⟩

theorem EndAlike.refl (j : Judgement) : EndAlike Taken.Alike j j := by
  cases j with
  | ok t => exact .ok t.alike_refl
  | error is => exact .error rfl

/-- A value of exactly the right type. -/
theorem EndAlike.exact {v w : Value} (h : v.Reorders w) :
    EndAlike Taken.Alike (.ok (.exact v)) (.ok (.exact w)) :=
  .ok ⟨h, rfl, rfl⟩

/-! ## Parts -/

theorem alike_judgeParts {parts parts' : List (String × String × Judgement)}
    (h : List.Forall₂ (fun a b => a.2.1 = b.2.1 ∧ EndAlike Taken.Alike a.2.2 b.2.2) parts parts') :
    EndAlike TakenParts.Alike (judgeParts parts) (judgeParts parts') := by
  induction h with
  | nil => exact .ok ⟨.nil, rfl, rfl⟩
  | @cons a b rest rest' hab _ ih =>
    obtain ⟨step, key, j⟩ := a
    obtain ⟨step', key', j'⟩ := b
    obtain ⟨rfl, hj⟩ := hab
    simp only [judgeParts]
    generalize judgeParts rest = r, judgeParts rest' = r' at ih
    cases hj with
    | ok ht =>
      cases ih with
      | ok hp =>
        refine .ok ⟨.cons ⟨rfl, ht.value⟩ hp.values, ?_, ?_⟩
        · rw [ht.exactness, hp.exactness]
        · rw [ht.fieldCount, hp.fieldCount]
      | error hs => exact .error hs
    | error hj =>
      cases ih with
      | ok hp => exact .error (by simpa using hj)
      | error hs => exact .error (by simp [undefinedIn?_append, hj, hs])

theorem alike_itemParts (item : FieldType) {js js' : List Judge}
    (h : List.Forall₂ Judge.Alike js js') (start : Nat) :
    List.Forall₂ (fun a b => a.2.1 = b.2.1 ∧ EndAlike Taken.Alike a.2.2 b.2.2)
      (itemParts item start js) (itemParts item start js') := by
  induction h generalizing start with
  | nil => exact .nil
  | cons hj _ ih => exact .cons ⟨rfl, hj item⟩ (ih (start + 1))

theorem alike_judgeItems {wrap : List Value → Value}
    (hw : ∀ xs ys, List.Forall₂ Value.Reorders xs ys → (wrap xs).Reorders (wrap ys))
    {least : Exactness} {item : FieldType} {js js' : List Judge}
    (h : List.Forall₂ Judge.Alike js js') :
    EndAlike Taken.Alike (judgeItems wrap least item js) (judgeItems wrap least item js') := by
  have hparts := alike_judgeParts (alike_itemParts item h 0)
  unfold judgeItems
  generalize judgeParts (itemParts item 0 js) = r, judgeParts (itemParts item 0 js') = r' at hparts
  cases hparts with
  | ok hp =>
    refine .ok ⟨hw _ _ ?_, ?_, hp.fieldCount⟩
    · exact List.forall₂_map_left_iff.2 (List.forall₂_map_right_iff.2
        (hp.values.imp fun _ _ hab => hab.2))
    · simp only [hp.exactness]
  | error hs => exact .error hs

/-! ## Models -/

section Entries

variable {es es' : List (String × Judge)}

/-- A field finds entries under one key. -/
theorem rel_find? (h : ∀ k, Option.Rel Judge.Alike (Entries.get? es k) (Entries.get? es' k))
    (f : Field) :
    Option.Rel (fun a b => a.1 = b.1 ∧ Judge.Alike a.2 b.2) (f.find? es) (f.find? es') := by
  have hproperty := h f.property
  have hname := h f.name
  unfold Field.find?
  generalize Entries.get? es f.property = a, Entries.get? es' f.property = b at hproperty
  cases hproperty with
  | some hj => exact .some ⟨rfl, hj⟩
  | none =>
    generalize Entries.get? es f.name = a, Entries.get? es' f.name = b at hname
    cases hname with
    | some hj => exact .some ⟨rfl, hj⟩
    | none => exact .none

theorem alike_fieldParts
    (h : ∀ k, Option.Rel Judge.Alike (Entries.get? es k) (Entries.get? es' k))
    (fields : List Field) :
    List.Forall₂ (fun a b => a.2.1 = b.2.1 ∧ EndAlike Taken.Alike a.2.2 b.2.2)
      (fieldParts es fields) (fieldParts es' fields) := by
  induction fields with
  | nil => exact .nil
  | cons f fields ih =>
    have hfind := rel_find? h f
    unfold fieldParts
    generalize f.find? es = a, f.find? es' = b at hfind
    cases hfind with
    | some hab => exact .cons ⟨rfl, hab.2 f.type⟩ ih
    | none =>
      dsimp only
      split
      · exact .cons ⟨rfl, .error rfl⟩ ih
      · exact ih

theorem mem_keys_iff_of_rel {α : Type} {R : α → α → Prop} {es es' : Entries α}
    (h : ∀ k, Option.Rel R (Entries.get? es k) (Entries.get? es' k)) (k : String) :
    k ∈ Entries.keys es ↔ k ∈ Entries.keys es' := by
  rw [← Entries.has_iff_mem_keys, ← Entries.has_iff_mem_keys, Entries.has, Entries.has,
    isSome_eq_of_rel (h k)]

/-- A key that no field uses among some entries is used by none among the others. -/
theorem extraIssues_eq_nil_iff_of_rel
    (h : ∀ k, Option.Rel Judge.Alike (Entries.get? es k) (Entries.get? es' k))
    (fields : List Field) : extraIssues fields es = [] ↔ extraIssues fields es' = [] := by
  have hfinds (f : Field) (k : String) :
      (∀ j, f.find? es ≠ some (k, j)) ↔ ∀ j, f.find? es' ≠ some (k, j) := by
    have hfind := rel_find? h f
    generalize f.find? es = a, f.find? es' = b at hfind
    cases hfind with
    | some hab => simp [Prod.ext_iff, hab.1]
    | none => simp
  simp only [List.eq_nil_iff_forall_not_mem, mem_extraIssues, mem_keys_iff_of_rel h, hfinds]

theorem alike_judgeFields
    (h : ∀ k, Option.Rel Judge.Alike (Entries.get? es k) (Entries.get? es' k)) (id : TypeId)
    (m : Model) : EndAlike Taken.Alike (judgeFields id m es) (judgeFields id m es') := by
  have hparts := alike_judgeParts (alike_fieldParts h m.fields)
  have hnil := extraIssues_eq_nil_iff_of_rel h m.fields
  have hnone := undefinedIn?_extraIssues m.fields es
  have hnone' := undefinedIn?_extraIssues m.fields es'
  unfold judgeFields
  generalize judgeParts (fieldParts es m.fields) = r, judgeParts (fieldParts es' m.fields) = r',
    extraIssues m.fields es = extra, extraIssues m.fields es' = extra' at *
  cases hparts with
  | ok hp =>
    cases extra with
    | nil =>
      rw [hnil.1 rfl]
      refine .ok ⟨.ofFields hp.values, rfl, ?_⟩
      simp only [hp.fieldCount, hp.values.length_eq]
    | cons e extra =>
      cases extra' with
      | nil => cases hnil.2 rfl
      | cons e' extra' => exact .error (hnone.trans hnone'.symm)
  | error hs => exact .error (by simp [undefinedIn?_append, hs, hnone, hnone'])

end Entries

section Containers

variable {v w : Value} {parts parts' : PartJudges}

theorem alike_judgeModel (hv : v.Reorders w) (hp : parts.Alike parts') (id : TypeId) :
    EndAlike Taken.Alike (judgeModel types id v parts) (judgeModel types id w parts') := by
  unfold judgeModel
  cases types.model? id with
  | none => exact .refl _
  | some m =>
    cases hv with
    | refl =>
      cases v with
      | dict es => exact alike_judgeFields hp.entries id m
      | _ => exact .refl _
    | dict hl hk hg => exact alike_judgeFields hp.entries id m
    | record hk hz =>
      dsimp only
      split
      · exact .exact (.record hk hz)
      · exact .refl _
    | _ => exact .refl _

/-! ## Unions -/

/-- Two errors are of one kind and about one type. -/
inductive DecodeError.Alike : DecodeError → DecodeError → Prop
  /-- Values with issues. -/
  | rejected (typeName : String) (is js : List Issue) :
      Alike (.rejected typeName is) (.rejected typeName js)
  /-- A model that was never completed. -/
  | incomplete (typeName : String) : Alike (.incomplete typeName) (.incomplete typeName)

/-- Two dispatches end with one variant, with reordered payloads or errors of one kind. -/
inductive Outcome.Alike : Outcome → Outcome → Prop
  /-- Both take the object. -/
  | matched {u : Variant} {p q : Value} : p.Reorders q → Alike (.matched u p) (.matched u q)
  /-- Both fail. -/
  | failed {u : Variant} {e e' : DecodeError} : e.Alike e' → Alike (.failed u e) (.failed u e')
  /-- Both find no variant. -/
  | noMatch : Alike .noMatch .noMatch

/-- Two dispatches report the same keys and the same reasons, and end alike. -/
structure Dispatch.Alike (d d' : Dispatch) : Prop where
  keys : d.keys = d'.keys
  rejections : d.rejections = d'.rejections
  outcome : d.outcome.Alike d'.outcome

/-- A model makes the same of reordered values. -/
inductive MadeAlike : Except DecodeError Value → Except DecodeError Value → Prop
  /-- Reordered objects. -/
  | ok {x y : Value} : x.Reorders y → MadeAlike (.ok x) (.ok y)
  /-- Errors of one kind. -/
  | error {e e' : DecodeError} : e.Alike e' → MadeAlike (.error e) (.error e')

theorem alike_materializeWith (hv : v.Reorders w) (hp : parts.Alike parts') (id : TypeId) :
    MadeAlike (materializeWith types id v parts) (materializeWith types id w parts') := by
  have hmodel : EndAlike Taken.Alike (judgeModel types id v parts) (judgeModel types id w parts') :=
    alike_judgeModel hv hp id
  unfold materializeWith
  generalize judgeModel types id v parts = r, judgeModel types id w parts' = r' at hmodel
  split
  · cases hmodel with
    | ok ht => exact .ok ht.value
    | @error is js hs =>
      dsimp only
      rw [hs]
      cases undefinedIn? js with
      | none => exact .error (.rejected _ _ _)
      | some name => exact .error (.incomplete _)
  · exact .error (.incomplete _)

theorem alike_dispatchWith (hv : v.Reorders w) (hp : parts.Alike parts') (u : UnionType) :
    (dispatchWith types u v parts).Alike (dispatchWith types u w parts') := by
  have hkeys : sortedNames (Entries.keys parts.entries) =
      sortedNames (Entries.keys parts'.entries) :=
    sortedNames_eq_iff.2 (mem_keys_iff_of_rel hp.entries)
  unfold dispatchWith dispatchOver
  rw [hkeys]
  refine ⟨rfl, rfl, ?_⟩
  dsimp only
  cases (select (sortedNames (Entries.keys parts'.entries)) u.tagged).2 with
  | none => exact .noMatch
  | some x =>
    have hmade : MadeAlike (materializeWith types x.type v parts)
        (materializeWith types x.type w parts') := alike_materializeWith hv hp x.type
    dsimp only
    generalize materializeWith types x.type v parts = r, materializeWith types x.type w parts' = r'
      at hmade
    cases hmade with
    | ok h => exact .matched h
    | error he => exact .failed he

/-- Only objects are dispatched. -/
theorem alike_judgeUnion_dict {es fs : List (String × Value)} {id : TypeId} {u : UnionType}
    (hu : types.union? id = some u) (h : (Value.dict es).Reorders (.dict fs))
    (hp : parts.Alike parts') :
    EndAlike Taken.Alike (judgeUnion types id (.dict es) parts)
      (judgeUnion types id (.dict fs) parts') := by
  have hdispatch : (dispatchWith types u (.dict es) parts).Alike
      (dispatchWith types u (.dict fs) parts') := alike_dispatchWith h hp u
  have houtcome := hdispatch.outcome
  unfold judgeUnion
  rw [hu]
  dsimp only
  generalize (dispatchWith types u (.dict es) parts).outcome = o,
    (dispatchWith types u (.dict fs) parts').outcome = o' at houtcome
  cases houtcome with
  | matched hpq => exact .exact (.choice hpq)
  | failed he => cases he <;> exact .error rfl
  | noMatch => exact .error rfl

theorem alike_judgeUnion (hv : v.Reorders w) (hp : parts.Alike parts') (id : TypeId) :
    EndAlike Taken.Alike (judgeUnion types id v parts) (judgeUnion types id w parts') := by
  cases hu : types.union? id with
  | none =>
    unfold judgeUnion
    rw [hu]
    exact .refl _
  | some u =>
    have hdict (es fs : List (String × Value)) (h : (Value.dict es).Reorders (.dict fs)) :=
      alike_judgeUnion_dict hu h hp
    unfold judgeUnion at hdict ⊢
    rw [hu] at hdict ⊢
    cases hv with
    | refl =>
      cases v with
      | dict es => exact hdict es es (.refl _)
      | _ => exact .refl _
    | dict hl hk hg => exact hdict _ _ (.dict hl hk hg)
    | choice hxy =>
      dsimp only
      split
      · exact .exact (.choice hxy)
      · exact .error rfl
    | _ => exact .error rfl

end Containers

/-! ## Choices -/

theorem Taken.Alike.better {t t' b b' : Taken} (ht : t.Alike t') (hb : b.Alike b') :
    t.better b = t'.better b' := by
  simp only [Taken.better, ht.exactness, ht.fieldCount, hb.exactness, hb.fieldCount]

theorem alike_chooseBest {js js' : List (String × Judgement)}
    (h : List.Forall₂ (fun a b => EndAlike Taken.Alike a.2 b.2) js js') {best best' : Option Taken}
    (hb : Option.Rel Taken.Alike best best') {issues issues' : List Issue}
    (hi : undefinedIn? issues = undefinedIn? issues') :
    EndAlike Taken.Alike (chooseBest best issues js) (chooseBest best' issues' js') := by
  induction h generalizing best best' issues issues' with
  | nil =>
    cases hb with
    | some hb => exact .ok hb
    | none => exact .error hi
  | @cons a b js js' hab _ ih =>
    obtain ⟨label, j⟩ := a
    obtain ⟨label', j'⟩ := b
    unfold chooseBest
    cases hab with
    | @ok t t' ht =>
      dsimp only
      rw [ht.exactness, ht.fieldCount]
      split
      · exact .ok ht
      · cases hb with
        | none => exact ih (.some ht) hi
        | @some b b' hb =>
          dsimp only
          rw [ht.better hb]
          refine ih (.some ?_) hi
          split
          · exact ht
          · exact hb
    | @error is is' hs =>
      dsimp only
      rw [hs]
      split
      · exact .error hs
      · exact ih hb (by simp [undefinedIn?_append, hi, hs])

theorem alike_judgeChoice {js js' : List (String × Judgement)}
    (h : List.Forall₂ (fun a b => EndAlike Taken.Alike a.2 b.2) js js') :
    EndAlike Taken.Alike (judgeChoice js) (judgeChoice js') := by
  have hbest : EndAlike Taken.Alike (chooseBest none [] js) (chooseBest none [] js') :=
    alike_chooseBest h .none rfl
  cases h with
  | nil => exact hbest
  | cons hab hrest =>
    cases hrest with
    | nil => exact hab
    | cons _ _ => exact hbest

/-! ## Types -/

theorem alike_judgeScalar {α : Type} {wrap : α → Value} {r r' : Except Mismatch (α × Exactness)}
    (h : r = r') : EndAlike Taken.Alike (judgeScalar wrap r) (judgeScalar wrap r') :=
  h ▸ .refl _

/-- Whether a value is made of other values. -/
def Value.isContainer : Value → Bool
  | .list _ => true
  | .tuple _ => true
  | .dict _ => true
  | .record _ _ => true
  | .choice _ _ _ => true
  | _ => false

/-- A container is no literal and equals none. -/
theorem Convert.literal_of_isContainer {v : Value} (h : v.isContainer = true)
    (values : List Literal) : Convert.literal values v = .error (.literal values) := by
  have hmatches (l : Literal) : Convert.matchesLiteral l v = false := by
    cases v <;> cases h <;> cases l <;> rfl
  have hequals (l : Literal) : Convert.equalsLiteral l v = false := by
    cases v <;> cases h <;> cases l <;> rfl
  have hfirst : values.find? (matchesLiteral · v) = none :=
    List.find?_eq_none.2 fun l _ => by simp [hmatches]
  have hlast : values.reverse.find? (equalsLiteral · v) = none :=
    List.find?_eq_none.2 fun l _ => by simp [hequals]
  unfold literal
  rw [hfirst, hlast]
  cases v <;> cases h <;> simp

theorem Convert.literal_of_reorders {v w : Value} (h : v.Reorders w) (values : List Literal) :
    Convert.literal values v = Convert.literal values w := by
  cases h with
  | refl => rfl
  | _ => rw [literal_of_isContainer rfl, literal_of_isContainer rfl]

mutual

/-- A type makes the same of reordered values whose parts are judged alike. -/
theorem alike_judge {v w : Value} {parts parts' : PartJudges} (hv : v.Reorders w)
    (hp : parts.Alike parts') (type : FieldType) :
    EndAlike Taken.Alike (judge types v parts type) (judge types w parts' type) := by
  cases type with
  | text => exact alike_judgeScalar (by cases hv <;> rfl)
  | integer => exact alike_judgeScalar (by cases hv <;> rfl)
  | number => exact alike_judgeScalar (by cases hv <;> rfl)
  | boolean => exact alike_judgeScalar (by cases hv <;> rfl)
  | literal values => exact alike_judgeScalar (Convert.literal_of_reorders hv values)
  | null => cases hv <;> exact .refl _
  | any => exact .ok ⟨hv, rfl, rfl⟩
  | object =>
    cases hv with
    | @dict es fs hl hk hg =>
      cases es with
      | nil =>
        cases List.length_eq_zero_iff.1 hl.symm
        exact .refl _
      | cons e es =>
        cases fs with
        | nil => cases hl
        | cons f fs => exact .ok ⟨.dict hl hk hg, rfl, rfl⟩
    | refl =>
      cases v with
      | dict es => cases es <;> exact .refl _
      | _ => exact .refl _
    | _ => exact .refl _
  | list item =>
    cases hv with
    | refl =>
      cases v with
      | list xs => exact alike_judgeItems (fun _ _ h => (Value.Reorders.ofForall₂ h).1) hp.items
      | _ => exact .refl _
    | list hl hz => exact alike_judgeItems (fun _ _ h => (Value.Reorders.ofForall₂ h).1) hp.items
    | _ => exact .refl _
  | tuple item =>
    cases hv with
    | refl =>
      cases v with
      | list xs => exact alike_judgeItems (fun _ _ h => (Value.Reorders.ofForall₂ h).2) hp.items
      | tuple xs => exact alike_judgeItems (fun _ _ h => (Value.Reorders.ofForall₂ h).2) hp.items
      | _ => exact .refl _
    | list hl hz => exact alike_judgeItems (fun _ _ h => (Value.Reorders.ofForall₂ h).2) hp.items
    | tuple hl hz => exact alike_judgeItems (fun _ _ h => (Value.Reorders.ofForall₂ h).2) hp.items
    | _ => exact .refl _
  | model id => exact alike_judgeModel hv hp id
  | union id => exact alike_judgeUnion hv hp id
  | named name => exact .refl _
  | choice os =>
    have hoptions := alike_judgeChoice (alike_judgeOptions hv hp os)
    cases hv with
    | refl =>
      cases v with
      | null =>
        unfold judge
        cases os.any (FieldType.same .null) with
        | true => exact .refl _
        | false => exact hoptions
      | _ => exact hoptions
    | _ => exact hoptions

theorem alike_judgeOptions {v w : Value} {parts parts' : PartJudges} (hv : v.Reorders w)
    (hp : parts.Alike parts') (os : List FieldType) :
    List.Forall₂ (fun a b => EndAlike Taken.Alike a.2 b.2) (judgeOptions types v parts os)
      (judgeOptions types w parts' os) := by
  cases os with
  | nil => exact .nil
  | cons o os =>
    unfold judgeOptions
    split
    · exact alike_judgeOptions hv hp os
    · exact .cons (alike_judge hv hp o) (alike_judgeOptions hv hp os)

end

theorem alike_partJudges_items {xs ys : List Value}
    (h : List.Forall₂ (fun x y => Judge.Alike (judgement types x) (judgement types y)) xs ys) :
    PartJudges.Alike { items := itemJudgements types xs } { items := itemJudgements types ys } := by
  refine ⟨?_, fun _ => .none⟩
  rw [itemJudgements_eq_map, itemJudgements_eq_map]
  exact List.forall₂_map_left_iff.2 (List.forall₂_map_right_iff.2 h)

theorem alike_partJudges_entries {es fs : List (String × Value)}
    (h : ∀ k, Option.Rel (fun x y => Judge.Alike (judgement types x) (judgement types y))
      (Entries.get? es k) (Entries.get? fs k)) :
    PartJudges.Alike { entries := entryJudgements types es }
      { entries := entryJudgements types fs } := by
  refine ⟨.nil, fun k => ?_⟩
  dsimp only
  rw [entryJudgements_eq_map, entryJudgements_eq_map, Entries.get?_map (judgement types) es k,
    Entries.get?_map (judgement types) fs k]
  have hk := h k
  generalize Entries.get? es k = a, Entries.get? fs k = b at hk
  cases hk with
  | some hxy => exact .some hxy
  | none => exact .none

/-- Every type makes the same of reordered values. -/
theorem alike_judgement {v w : Value} (h : v.Reorders w) :
    Judge.Alike (judgement types v) (judgement types w) := by
  intro type
  induction h generalizing type with
  | refl => exact .refl _
  | list hl hz ih =>
    exact alike_judge (.list hl hz) (alike_partJudges_items
      (List.forall₂_iff_zip.2 ⟨hl, fun hxy => ih _ _ hxy⟩)) type
  | tuple hl hz ih =>
    exact alike_judge (.tuple hl hz) (alike_partJudges_items
      (List.forall₂_iff_zip.2 ⟨hl, fun hxy => ih _ _ hxy⟩)) type
  | dict hl hk hg ih =>
    exact alike_judge (.dict hl hk hg) (alike_partJudges_entries (Entries.rel_get? hk ih)) type
  | record hk hz =>
    exact alike_judge (.record hk hz) ⟨.nil, fun _ => .none⟩ type
  | choice hxy =>
    exact alike_judge (.choice hxy) ⟨.nil, fun _ => .none⟩ type

/-- A union dispatches reordered objects alike. -/
theorem alike_dispatch (u : UnionType) {es fs : List (String × Value)}
    (h : (Value.dict es).Reorders (.dict fs)) :
    (dispatch types u es).Alike (dispatch types u fs) := by
  refine alike_dispatchWith h ?_ u
  cases h with
  | refl =>
    refine alike_partJudges_entries fun k => ?_
    cases Entries.get? es k with
    | none => exact .none
    | some x => exact .some fun type => .refl _
  | dict hl hk hg =>
    exact alike_partJudges_entries (Entries.rel_get? hk fun k x y hx hy =>
      alike_judgement (hg k x y hx hy))

/-! ## Objects whose members come in another order -/

/-- For every union of a reachable state and two objects that differ only in the order of members,
at any depth: the dispatches report the same keys and the same rejections and select the same
variant.  Either both take the object or both fail, for errors of one kind about one type.  The
values that they make are equal if unions compare their values and the data has no nan, and they
have equal hashes under the canonical strategy. -/
theorem dispatch_reorders {s : Generation} (hs : Reachable s) {id : TypeId} {u : UnionType}
    (hu : s.types.union? id = some u) {members members' : Entries Json}
    (hd : (Json.obj members).hasDistinctKeys = true)
    (h : (Json.obj members).reorders (.obj members') = true) :
    (dispatch s.types u (Value.ofMembers members)).Alike
        (dispatch s.types u (Value.ofMembers members')) ∧
      ∀ w payload w' payload',
        (dispatch s.types u (Value.ofMembers members)).outcome = .matched w payload →
        (dispatch s.types u (Value.ofMembers members')).outcome = .matched w' payload' →
        (s.types.Structural → (Json.obj members).LacksNan →
          Value.same s.types (.choice id w.tag payload) (.choice id w'.tag payload') = true) ∧
        (u.structural = true → u.hashing = .canonicalJson →
          Value.sameHash s.types (.choice id w.tag payload) (.choice id w'.tag payload') =
            .ok true) := by
  have halike : (dispatch s.types u (Value.ofMembers members)).Alike
      (dispatch s.types u (Value.ofMembers members')) :=
    alike_dispatch u (Value.reorders_ofJson hd h)
  refine ⟨halike, fun w payload w' payload' hw hw' => ?_⟩
  have houtcome := halike.outcome
  rw [hw, hw'] at houtcome
  cases houtcome with
  | matched hpayload =>
    refine ⟨fun hunions hnan => ?_, fun hstructural hc => ?_⟩
    · obtain ⟨-, t, ht, rfl⟩ := materialize_eq_ok_iff.1 (materialize_of_matched hw)
      have hself := same_self_of_judgement hs.nodup_names hunions _ hnan hd _ t ht
      have hu' : Value.isStructural s.types id = true := by
        rw [Value.isStructural, hu]
        exact hunions id u hu
      exact Value.same_of_reorders (.choice hpayload) (Value.same_choice_self hu' hself)
    · exact Value.sameHash_of_reorders hu hstructural hc w.tag hpayload
        (hasDistinctKeys_of_matched hd hw)

/-- A box with objects at every depth. -/
def fullBox : Entries Json :=
  [("note", .obj [("to", .str "Ada"),
      ("copies", .arr [.int 1, .obj [("a", .null), ("b", .null)]])]),
    ("marks", .obj [("fragile", .bool true), ("size", .float (.ofInt 2))]),
    ("parcels", .arr [.obj [("weight", .obj [("kg", .int 1), ("g", .int 20)])], .obj []])]

/-- The same box with all members in another order. -/
def reorderedBox : Entries Json :=
  [("parcels", .arr [.obj [("weight", .obj [("g", .int 20), ("kg", .int 1)])], .obj []]),
    ("marks", .obj [("size", .float (.ofInt 2)), ("fragile", .bool true)]),
    ("note", .obj [("copies", .arr [.int 1, .obj [("b", .null), ("a", .null)]]),
      ("to", .str "Ada")])]

/-- The two boxes become equal values with equal hashes. -/
theorem dispatch_reorders_fullBox : (Json.obj fullBox).reorders (.obj reorderedBox) = true ∧
    ∃ u w payload w' payload', boxState.types.union? 3 = some u ∧
      (dispatch boxState.types u (Value.ofMembers fullBox)).outcome = .matched w payload ∧
      (dispatch boxState.types u (Value.ofMembers reorderedBox)).outcome = .matched w' payload' ∧
      (dispatch boxState.types u (Value.ofMembers fullBox)).Alike
        (dispatch boxState.types u (Value.ofMembers reorderedBox)) ∧
      Value.same boxState.types (.choice 3 w.tag payload) (.choice 3 w'.tag payload') = true ∧
      Value.sameHash boxState.types (.choice 3 w.tag payload) (.choice 3 w'.tag payload') =
        .ok true := by
  have h : decodesTo boxState.types 3 fullBox reorderedBox (fun u _ _ =>
      u.structural && decide (u.hashing = .canonicalJson)) = true := by
    decide +kernel
  obtain ⟨u, w, payload, w', payload', hu, hw, hw', h⟩ := exists_of_decodesTo h
  rw [Bool.and_eq_true, decide_eq_true_eq] at h
  have hreorders : (Json.obj fullBox).reorders (.obj reorderedBox) = true := by decide +kernel
  obtain ⟨halike, hvalues⟩ := dispatch_reorders reachable_boxState hu (by decide +kernel)
    hreorders
  obtain ⟨hsame, hhash⟩ := hvalues w payload w' payload' hw hw'
  exact ⟨hreorders, u, w, payload, w', payload', hu, hw, hw', halike,
    hsame (structural_of_all (by decide +kernel)) (Json.lacksNan_of_isFinite (by decide +kernel)),
    hhash h.1 h.2⟩

/-- A record with an object. -/
def twoMembers : Entries Json := [("x", .obj [("a", .int 1), ("b", .int 2)])]

/-- The same record with the members of the object in another order. -/
def turnedMembers : Entries Json := [("x", .obj [("b", .int 2), ("a", .int 1)])]

/-- When unions compare their values not at all, the values of reordered objects are not equal. -/
theorem exists_reordered_unequal :
    Reachable (unionState { structural := false } "record" anyRoot) ∧
    (Json.obj twoMembers).reorders (.obj turnedMembers) = true ∧
    (Json.obj twoMembers).LacksNan ∧
    ∃ u w payload w' payload',
      (unionState { structural := false } "record" anyRoot).types.union? 1 = some u ∧
      (dispatch (unionState { structural := false } "record" anyRoot).types u
        (Value.ofMembers twoMembers)).outcome = .matched w payload ∧
      (dispatch (unionState { structural := false } "record" anyRoot).types u
        (Value.ofMembers turnedMembers)).outcome = .matched w' payload' ∧
      Value.same (unionState { structural := false } "record" anyRoot).types
        (.choice 1 w.tag payload) (.choice 1 w'.tag payload') = false := by
  have h : decodesTo (unionState { structural := false } "record" anyRoot).types 1 twoMembers
      turnedMembers (fun _ r r' =>
        !Value.same (unionState { structural := false } "record" anyRoot).types
          (.choice 1 r.1.tag r.2) (.choice 1 r'.1.tag r'.2)) = true := by
    decide +kernel
  obtain ⟨u, w, payload, w', payload', hu, hw, hw', h⟩ := exists_of_decodesTo h
  rw [Bool.not_eq_true'] at h
  exact ⟨.generated _ _ _ (.fresh _), by decide +kernel,
    Json.lacksNan_of_isFinite (by decide +kernel), u, w, payload, w', payload', hu, hw, hw', h⟩

end ShapeSum
