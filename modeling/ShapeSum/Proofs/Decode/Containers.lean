import ShapeSum.Proofs.Decode.Dumped
import ShapeSum.Proofs.Decode.Verdicts

/-!
# Verdicts on containers

A type that is no choice takes only the containers that it is for, and comes to a verdict on
everything else (`decided_of_container?`).  Where the options of a choice are apart, at most
one is for the containers that a value is one of.  So a choice that is decided has only
options that are (`decided_option`).

Data that is decoded as it is does not come back as it was when numbers in it are not
finite: they are dumped as null.  But the containers come back with their items and keys.
So what was decided stays decided (`decidesAgain`).
-/

namespace ShapeSum

variable {types : Types} {t : Taken} {type : FieldType} {j : Json}

/-! ## The containers that types are for -/

/-- The kind of containers that a JSON value is one of, if it is one. -/
def Json.container? : Json → Option FieldType.Container
  | .arr _ => some .list
  | .obj _ => some .object
  | _ => none

theorem exists_items_of_container? (h : j.container? = some .list) : ∃ items, j = .arr items := by
  cases j with
  | arr items => exact ⟨items, rfl⟩
  | _ => cases h

theorem exists_members_of_container? (h : j.container? = some .object) :
    ∃ members, j = .obj members := by
  cases j with
  | obj members => exact ⟨members, rfl⟩
  | _ => cases h

/-- A value that a literal equals is no container. -/
theorem container?_of_literal {values : List Literal} {r : Literal × Exactness}
    (h : Convert.literal values (.ofJson j) = .ok r) : j.container? = none := by
  unfold Convert.literal at h
  split at h
  · rename_i l hl
    have hmatches : Convert.matchesLiteral l (.ofJson j) = true :=
      List.find?_some (p := (Convert.matchesLiteral · (.ofJson j))) hl
    have hv := Convert.eq_of_matchesLiteral hmatches
    cases j <;> first | rfl | (cases l <;> cases hv)
  · extract_lets hasInt huge at h
    split at h
    · cases h
    · split at h
      · rename_i l hl
        have hequals : Convert.equalsLiteral l (.ofJson j) = true :=
          List.find?_some (p := (Convert.equalsLiteral · (.ofJson j))) hl
        cases j <;> first | rfl | (cases l <;> cases hequals)
      · cases h

/-- A type that takes not everything takes only the containers that it is for. -/
theorem container?_of_judgement (hchoice : type.isChoice = false) (hany : type ≠ .any)
    (h : judgement types (.ofJson j) type = .ok t) : j.container? = type.container? := by
  cases type with
  | any => exact absurd rfl hany
  | choice os => cases hchoice
  | literal values =>
    rw [judgement_eq, judge] at h
    obtain ⟨l, e, hl, -⟩ := of_judgeScalar h
    exact container?_of_literal hl
  | model id =>
    obtain ⟨members, rfl⟩ := exists_members_of_takes_model ⟨t, h⟩
    rfl
  | union id =>
    obtain ⟨u, members, w, payload, -, rfl, -, -⟩ := exists_matched_of_judgement h
    rfl
  | _ =>
    rw [judgement_eq] at h
    unfold judge at h
    cases j <;> first | rfl | cases h

theorem decided_object (v : Value) : Decided (judgement types v .object) := by
  rw [judgement_eq]
  unfold judge
  split
  · exact decided_ok _
  · exact decided_ok _
  · exact decided_singleton rfl

theorem decided_named (name : String) (v : Value) : Decided (judgement types v (.named name)) := by
  rw [judgement_eq]
  exact decided_singleton rfl

/-- A type that is no choice comes to a verdict on everything but the containers that it is for. -/
theorem decided_of_container? (hchoice : type.isChoice = false)
    (hj : ∀ c, type.container? = some c → j.container? ≠ some c) :
    Decided (judgement types (.ofJson j) type) := by
  rw [judgement_eq]
  cases type with
  | text => exact decided_judgeScalar Convert.isOfScalar_of_text
  | integer => exact decided_judgeScalar Convert.isOfScalar_of_integer
  | number => exact decided_judgeScalar Convert.isOfScalar_of_number
  | boolean => exact decided_judgeScalar Convert.isOfScalar_of_truth
  | literal values => exact decided_judgeScalar Convert.isOfScalar_of_literal
  | any => exact decided_ok _
  | named name => exact decided_singleton rfl
  | choice os => cases hchoice
  | null =>
    unfold judge
    split
    · exact decided_ok _
    · exact decided_singleton rfl
  | model id =>
    have hj := hj .object rfl
    unfold judge judgeModel
    split
    · exact decided_singleton rfl
    · cases j <;> first | exact absurd rfl hj | exact decided_singleton rfl
  | union id =>
    have hj := hj .object rfl
    unfold judge judgeUnion
    dsimp only
    split
    · exact decided_singleton rfl
    · cases j <;> first | exact absurd rfl hj | exact decided_singleton rfl
  | object =>
    have hj := hj .object rfl
    unfold judge
    cases j <;> first | exact absurd rfl hj | exact decided_singleton rfl
  | list item =>
    have hj := hj .list rfl
    unfold judge
    cases j <;> first | exact absurd rfl hj | exact decided_singleton rfl
  | tuple item =>
    have hj := hj .list rfl
    unfold judge
    cases j <;> first | exact absurd rfl hj | exact decided_singleton rfl

/-- A choice that is decided has only options that are, when they are apart. -/
theorem decided_option {os : List FieldType} (hos : FieldType.OptionsApart os)
    (h : Decided (judgement types (.ofJson j) (.choice os))) {o : FieldType}
    (ho : o ∈ FieldType.others os) : Decided (judgement types (.ofJson j) o) := by
  have hmem := (FieldType.mem_others.1 ho).1
  by_cases hc : ∃ c, o.container? = some c ∧ j.container? = some c
  · obtain ⟨c, hoc, hjc⟩ := hc
    have hnull : Value.ofJson j = .null → .null ∉ os := by
      cases j with
      | arr items => exact nofun
      | obj members => exact nofun
      | _ => cases hjc
    rw [judgement_choice hnull] at h
    by_cases hsure : ∃ o' ∈ FieldType.others os, ∃ t,
        judgement types (.ofJson j) o' = .ok t ∧ t.Sure
    · -- The option that ends the choice is for the same containers.
      obtain ⟨o', ho', t, ht, hsure⟩ := hsure
      have hmem' := (FieldType.mem_others.1 ho').1
      have hany : o' ≠ .any := by
        rintro rfl
        rw [judgement_eq, judge] at ht
        cases ht
        cases hsure.exactness
      have hoc' := (container?_of_judgement (hos.flat o' hmem') hany ht).symm.trans hjc
      cases hos.container o hmem o' hmem' c hoc hoc'
      rw [ht]
      exact decided_ok t
    · refine decided_of_judgeChoice h (List.forall_mem_map.2 fun o' ho' t ht hs => ?_) _
        (List.mem_map_of_mem ho)
      exact hsure ⟨o', ho', t, ht, hs⟩
  · exact decided_of_container? (hos.flat o hmem) fun c hoc hjc => hc ⟨c, hoc, hjc⟩

/-! ## Verdicts on data that was dumped -/

theorem container?_redump (j : Json) : (j.redump types).container? = j.container? := by
  cases j with
  | float x =>
    show (if x.isFinite then Json.float x else .null).container? = none
    split <;> rfl
  | _ => rfl

/-- A type comes to a verdict on what is dumped for data when it comes to one on the data. -/
def FieldType.DecidesAgain (type : FieldType) (types : Types) (j : Json) : Prop :=
  Decided (judgement types (.ofJson j) type) →
    Decided (judgement types (.ofJson (j.redump types)) type)

theorem decidesAgain_list {item : FieldType} {items : List Json}
    (hitems : ∀ x ∈ items, item.DecidesAgain types x) :
    (FieldType.list item).DecidesAgain types (.arr items) := by
  unfold FieldType.DecidesAgain
  rw [Json.redump_arr, judgement_list, judgement_list, decided_ofItems_iff, decided_ofItems_iff]
  exact fun h => List.forall_mem_map.2 fun x hx => hitems x hx (h x hx)

theorem decidesAgain_tuple {item : FieldType} {items : List Json}
    (hitems : ∀ x ∈ items, item.DecidesAgain types x) :
    (FieldType.tuple item).DecidesAgain types (.arr items) := by
  unfold FieldType.DecidesAgain
  rw [Json.redump_arr, judgement_tuple, judgement_tuple, decided_ofItems_iff, decided_ofItems_iff]
  exact fun h => List.forall_mem_map.2 fun x hx => hitems x hx (h x hx)

theorem decidesAgain_model (hclear : types.Clear) {members : Entries Json}
    (hmembers : ∀ p ∈ members, ∀ type : FieldType, type.Apart → type.DecidesAgain types p.2)
    (id : TypeId) : (FieldType.model id).DecidesAgain types (.obj members) := by
  intro h
  rw [Json.redump_obj]
  cases hm : types.model? id with
  | none => exact decided_model_of_none hm _
  | some m =>
    rw [decided_model_iff hm] at h ⊢
    intro f hf key x hfind
    rw [Field.find?_map, Option.map_eq_some_iff] at hfind
    obtain ⟨⟨key, x⟩, hfind, he⟩ := hfind
    cases he
    have hmem := Entries.mem_of_get? (Field.find?_eq_some hfind).1
    exact hmembers (key, x) hmem f.type ((hclear id m hm).types f hf) (h f hf key x hfind)

theorem decidesAgain_union {members : Entries Json}
    (hmodel : ∀ id, (FieldType.model id).DecidesAgain types (.obj members)) (id : TypeId) :
    (FieldType.union id).DecidesAgain types (.obj members) := by
  intro h
  cases hu : types.union? id with
  | none => exact decided_union_of_none hu _
  | some u =>
    -- The dump has the keys of the object, so it is dispatched to the same model.
    rw [Value.ofJson, decided_union_iff hu, Value.keys_ofMembers] at h
    rw [Json.redump_obj, Value.ofJson, decided_union_iff hu, Value.keys_ofMembers,
      Entries.keys_map]
    intro w hw
    have hsettled := hmodel w.type (h w hw).settled
    rw [Json.redump_obj] at hsettled
    exact ⟨(h w hw).complete, hsettled⟩

theorem decidesAgain_choice {os : List FieldType} (hos : FieldType.OptionsApart os)
    (hoptions : ∀ o ∈ os, o.DecidesAgain types j) : (FieldType.choice os).DecidesAgain types j := by
  intro h
  by_cases hnull : Value.ofJson (j.redump types) = .null ∧ .null ∈ os
  · rw [hnull.1, judgement_choice_null hnull.2]
    exact decided_ok _
  · rw [judgement_choice fun he hmem => hnull ⟨he, hmem⟩]
    refine decided_judgeChoice (List.forall_mem_map.2 fun o ho => ?_)
    exact hoptions o (FieldType.mem_others.1 ho).1 (decided_option hos h ho)

/-- Over clear models, every type whose options are apart comes to a verdict on what is dumped for
data that it comes to a verdict on. -/
theorem decidesAgain (hclear : types.Clear) (j : Json) (type : FieldType) (htype : type.Apart) :
    type.DecidesAgain types j := by
  induction j using Json.induct generalizing type with
  | parts j ih =>
    have hmodel {members : Entries Json} (he : j = .obj members) (id : TypeId) :
        (FieldType.model id).DecidesAgain types (.obj members) := by
      subst he
      exact decidesAgain_model hclear (fun p hp type htype => ih p.2 (.member hp) type htype) id
    have hitems {item : FieldType} {items : List Json} (he : j = .arr items) (hitem : item.Apart) :
        ∀ x ∈ items, item.DecidesAgain types x := by
      subst he
      exact fun x hx => ih x (.item hx) item hitem
    have hplain {o : FieldType} (ho : o.Apart) (hchoice : o.isChoice = false) :
        o.DecidesAgain types j := by
      by_cases hc : ∃ c, o.container? = some c ∧ j.container? = some c
      · obtain ⟨c, hoc, hjc⟩ := hc
        cases ho with
        | object => exact fun _ => decided_object _
        | named name => exact fun _ => decided_named name _
        | model id =>
          cases hoc
          obtain ⟨members, rfl⟩ := exists_members_of_container? hjc
          exact hmodel rfl id
        | union id =>
          cases hoc
          obtain ⟨members, rfl⟩ := exists_members_of_container? hjc
          exact decidesAgain_union (hmodel rfl) id
        | list hitem =>
          cases hoc
          obtain ⟨items, rfl⟩ := exists_items_of_container? hjc
          exact decidesAgain_list (hitems rfl hitem)
        | tuple hitem =>
          cases hoc
          obtain ⟨items, rfl⟩ := exists_items_of_container? hjc
          exact decidesAgain_tuple (hitems rfl hitem)
        | choice _ _ => cases hchoice
        | _ => cases hoc
      · refine fun _ => decided_of_container? hchoice fun c hoc hjc => hc ⟨c, hoc, ?_⟩
        rwa [container?_redump] at hjc
    cases htype with
    | choice hos hoptions =>
      exact decidesAgain_choice hos fun o ho => hplain (hoptions o ho) (hos.flat o ho)
    | _ =>
      refine hplain ?_ rfl
      constructor <;> assumption

end ShapeSum
