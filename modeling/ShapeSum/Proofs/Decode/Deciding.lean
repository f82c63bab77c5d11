import ShapeSum.Proofs.Decode.Verdicts
import ShapeSum.Report.Decoding

/-!
# Complete models come to a verdict

Where every model is complete, whatever speaks against a value is a verdict on it: no
union inside of the value comes upon a model that was never completed.  So a dispatch
takes the object, or rejects it, or fits no variant; nothing breaks it off
(`undefined?_dispatch`).
-/

namespace ShapeSum

variable {types : Types}

/-! ## Parts -/

/-- Whatever types make of the parts of a value is decided. -/
structure PartJudges.Decide (parts : PartJudges) : Prop where
  items : ∀ j ∈ parts.items, ∀ type, Decided (j type)
  entries : ∀ p ∈ parts.entries, ∀ type, Decided (p.2 type)

/-! ## Models, unions and choices -/

section Types

variable (hT : ∀ id, types.isComplete id = true) {v : Value} {parts : PartJudges}
  (hp : parts.Decide)

include hp

theorem decided_judgeModel (id : TypeId) : Decided (judgeModel types id v parts) := by
  unfold judgeModel
  split
  · exact decided_singleton rfl
  · split
    · split
      · exact decided_ok _
      · exact decided_singleton rfl
    · refine decided_judgeFields_iff.2 fun f _ key j hfind => ?_
      exact hp.entries (key, j) (Entries.mem_of_get? (Field.find?_eq_some hfind).1) f.type
    · exact decided_singleton rfl

include hT

theorem materializeWith_ne_incomplete (id : TypeId) (typeName : String) :
    materializeWith types id v parts ≠ .error (.incomplete typeName) := by
  unfold materializeWith
  rw [if_pos (hT id)]
  cases hj : judgeModel types id v parts with
  | ok t => exact nofun
  | error is =>
    dsimp only
    rw [decided_judgeModel hp id is hj]
    exact nofun

theorem undefined?_dispatchWith (u : UnionType) :
    (dispatchWith types u v parts).undefined? = none := by
  unfold dispatchWith dispatchOver Dispatch.undefined?
  dsimp only
  cases (select (sortedNames (Entries.keys parts.entries)) u.tagged).2 with
  | none => rfl
  | some w =>
    dsimp only
    cases hm : materializeWith types w.type v parts with
    | ok payload => rfl
    | error e =>
      cases e with
      | rejected typeName issues => rfl
      | incomplete typeName => exact absurd hm (materializeWith_ne_incomplete hT hp _ _)

theorem decided_judgeUnion (id : TypeId) : Decided (judgeUnion types id v parts) := by
  have hdispatch := undefined?_dispatchWith hT hp (v := v)
  unfold judgeUnion
  dsimp only
  split
  · exact decided_singleton rfl
  · rename_i u _
    split
    · split
      · exact decided_ok _
      · exact decided_singleton rfl
    · have hnone := hdispatch u
      unfold Dispatch.undefined? at hnone
      split
      · exact decided_ok _
      · rename_i typeName he
        rw [he] at hnone
        cases hnone
      · exact decided_singleton rfl
      · exact decided_singleton rfl
    · exact decided_singleton rfl

end Types

mutual

theorem decided_judge (hT : ∀ id, types.isComplete id = true) {v : Value} {parts : PartJudges}
    (hp : parts.Decide) (type : FieldType) : Decided (judge types v parts type) := by
  cases type with
  | text => exact decided_judgeScalar Convert.isOfScalar_of_text
  | integer => exact decided_judgeScalar Convert.isOfScalar_of_integer
  | number => exact decided_judgeScalar Convert.isOfScalar_of_number
  | boolean => exact decided_judgeScalar Convert.isOfScalar_of_truth
  | literal values => exact decided_judgeScalar Convert.isOfScalar_of_literal
  | any => exact decided_ok _
  | named name => exact decided_singleton rfl
  | model id => exact decided_judgeModel hp id
  | union id => exact decided_judgeUnion hT hp id
  | null =>
    unfold judge
    split
    · exact decided_ok _
    · exact decided_singleton rfl
  | object =>
    unfold judge
    split
    · exact decided_ok _
    · exact decided_ok _
    · exact decided_singleton rfl
  | list item =>
    unfold judge
    split
    · exact decided_judgeItems_iff.2 fun j hj => hp.items j hj item
    · exact decided_singleton rfl
  | tuple item =>
    unfold judge
    split
    · exact decided_judgeItems_iff.2 fun j hj => hp.items j hj item
    · exact decided_judgeItems_iff.2 fun j hj => hp.items j hj item
    · exact decided_singleton rfl
  | choice os =>
    unfold judge
    split
    · exact decided_ok _
    · exact decided_judgeChoice (decided_judgeOptions hT hp os)

theorem decided_judgeOptions (hT : ∀ id, types.isComplete id = true) {v : Value}
    {parts : PartJudges} (hp : parts.Decide) (os : List FieldType) :
    ∀ q ∈ judgeOptions types v parts os, Decided q.2 := by
  cases os with
  | nil => exact fun _ hq => nomatch hq
  | cons o os =>
    unfold judgeOptions
    split
    · exact decided_judgeOptions hT hp os
    · exact List.forall_mem_cons.2 ⟨decided_judge hT hp o, decided_judgeOptions hT hp os⟩

end

/-! ## Values and objects -/

theorem decide_items {items : List Value}
    (h : ∀ x ∈ items, ∀ type, Decided (judgement types x type)) :
    PartJudges.Decide { items := itemJudgements types items } := by
  refine ⟨fun j hj => ?_, List.forall_mem_nil _⟩
  rw [itemJudgements_eq_map] at hj
  obtain ⟨x, hx, rfl⟩ := List.mem_map.1 hj
  exact h x hx

theorem decide_entries {entries : List (String × Value)}
    (h : ∀ p ∈ entries, ∀ type, Decided (judgement types p.2 type)) :
    PartJudges.Decide { entries := entryJudgements types entries } := by
  refine ⟨List.forall_mem_nil _, fun q hq => ?_⟩
  rw [entryJudgements_eq_map] at hq
  obtain ⟨p, hp, rfl⟩ := List.mem_map.1 hq
  exact h p hp

theorem decide_none : PartJudges.Decide {} := ⟨List.forall_mem_nil _, List.forall_mem_nil _⟩

/-- Every type comes to a verdict on every value. -/
theorem decided_judgement (hT : ∀ id, types.isComplete id = true) (v : Value) (type : FieldType) :
    Decided (judgement types v type) := by
  induction v using Value.induct generalizing type with
  | list items ih => exact decided_judge hT (decide_items ih) type
  | tuple items ih => exact decided_judge hT (decide_items ih) type
  | dict entries ih => exact decided_judge hT (decide_entries ih) type
  | _ => exact decided_judge hT decide_none type

/-- A dispatch is never broken off. -/
theorem undefined?_dispatch (hT : ∀ id, types.isComplete id = true) (u : UnionType)
    (entries : List (String × Value)) : (dispatch types u entries).undefined? = none :=
  undefined?_dispatchWith hT (decide_entries fun p _ => decided_judgement hT p.2) u

end ShapeSum
