import ShapeSum.Proofs.Decode.Repeating
import ShapeSum.Proofs.Value.Hashing

/-!
# Decoded values equal themselves

Equality of values is not reflexive: nan equals nothing, and the values of a union may be
compared not at all.  But every value that is decoded from data without nan equals itself
when all unions compare their values (`same_self_of_judgement`).
-/

namespace ShapeSum

variable {types : Types} {t : Taken} {type : FieldType} {j : Json}

/-! ## Data without nan -/

namespace Json

/-- No number within a value is nan. -/
def LacksNan (j : Json) : Prop := ¬j.Within (.float .nan)

theorem LacksNan.part (h : j.LacksNan) {x : Json} (hx : j.HasPart x) : x.LacksNan :=
  fun hnan => h (.head hx hnan)

theorem LacksNan.float_ne {x : Binary64} (h : (Json.float x).LacksNan) : x ≠ .nan := by
  rintro rfl
  exact h .refl

theorem isFinite_part {x : Json} (h : j.isFinite = true) (hx : j.HasPart x) :
    x.isFinite = true := by
  cases hx with
  | item hx => exact itemsAreFinite_iff.1 h _ hx
  | member hx => exact membersAreFinite_iff.1 h _ hx

theorem isFinite_within {x : Json} (h : j.isFinite = true) (hx : j.Within x) :
    x.isFinite = true := by
  induction hx with
  | refl => exact h
  | tail _ hx ih => exact isFinite_part ih hx

theorem lacksNan_of_isFinite (h : j.isFinite = true) : j.LacksNan :=
  fun hnan => nomatch isFinite_within h hnan

end Json

/-! ## Values part by part -/

namespace Value

/-- Scalars are compared as JSON. -/
theorem same_of_sameScalar {v : Value} (h : v.scalarJson.sameScalar v.scalarJson = true) :
    same types v v = true := by
  cases v with
  | null => unfold same; exact h
  | bool b => unfold same; exact h
  | int n => unfold same; exact h
  | float x => unfold same; exact h
  | _ => cases h

theorem same_int_self (n : Int) : same types (.int n) (.int n) = true :=
  same_of_sameScalar (beq_self_eq_true n)

theorem same_bool_self (b : Bool) : same types (.bool b) (.bool b) = true :=
  same_of_sameScalar (by cases b <;> rfl)

theorem same_str_self (s : String) : same types (.str s) (.str s) = true := by
  unfold same
  exact beq_self_eq_true s

theorem same_float_self {x : Binary64} (h : x ≠ .nan) :
    same types (.float x) (.float x) = true :=
  same_of_sameScalar (Binary64.numericallyEqual_self h)

theorem same_ofLiteral_self (l : Literal) :
    same types (.ofLiteral l) (.ofLiteral l) = true := by
  cases l with
  | null => exact same_of_sameScalar rfl
  | bool b => exact same_bool_self b
  | int n => exact same_int_self n
  | str s => exact same_str_self s

theorem sameItems_self {vs : List Value} (h : ∀ v ∈ vs, same types v v = true) :
    sameItems types vs vs = true := by
  induction vs with
  | nil =>
    rw [sameItems]
    rfl
  | cons v vs ih =>
    obtain ⟨hv, hvs⟩ := List.forall_mem_cons.1 h
    rw [sameItems, hv, ih hvs]
    rfl

theorem same_dict_self {entries : List (String × Value)} (hn : (Entries.keys entries).Nodup)
    (h : ∀ p ∈ entries, same types p.2 p.2 = true) :
    same types (.dict entries) (.dict entries) = true := by
  rw [same, beq_self_eq_true, Bool.true_and, sameEntries_iff]
  exact fun p hp => ⟨p.2, Entries.get?_of_mem hn hp, h p hp⟩

theorem restNull_self (fields : List (String × Value)) : restNull fields fields = true := by
  refine List.all_eq_true.2 fun p hp => ?_
  have hhas : Entries.has fields p.1 = true :=
    (Entries.has_iff_mem_keys _ _).2 (List.mem_map_of_mem hp)
  simp [hhas]

theorem same_record_self {id : TypeId} {fields : List (String × Value)}
    (hn : (Entries.keys fields).Nodup) (h : ∀ p ∈ fields, same types p.2 p.2 = true) :
    same types (.record id fields) (.record id fields) = true := by
  rw [same, beq_self_eq_true, restNull_self, Bool.and_true, Bool.true_and, sameFields_iff]
  intro p hp
  rw [Entries.get?_of_mem hn hp]
  exact h p hp

theorem same_choice_self {id : TypeId} {tag : String} {payload : Value}
    (hu : isStructural types id = true) (h : same types payload payload = true) :
    same types (.choice id tag payload) (.choice id tag payload) = true := by
  rw [same, hu, h, beq_self_eq_true, beq_self_eq_true]
  rfl

end Value

/-- Data without nan and without repeated keys equals itself. -/
theorem same_ofJson_self (j : Json) (hj : j.LacksNan) (hd : j.hasDistinctKeys = true) :
    Value.same types (.ofJson j) (.ofJson j) = true := by
  induction j using Json.induct with
  | parts j ih =>
    cases j with
    | null => exact Value.same_of_sameScalar rfl
    | bool b => exact Value.same_bool_self b
    | int n => exact Value.same_int_self n
    | float x => exact Value.same_float_self hj.float_ne
    | str s => exact Value.same_str_self s
    | arr items =>
      rw [Value.ofJson, Value.same]
      refine Value.sameItems_self fun v hv => ?_
      rw [Value.ofItems_eq_map] at hv
      obtain ⟨x, hx, rfl⟩ := List.mem_map.1 hv
      exact ih x (.item hx) (hj.part (.item hx)) (Json.hasDistinctKeys_arr.1 hd x hx)
    | obj members =>
      obtain ⟨hnodup, hmembers⟩ := Json.hasDistinctKeys_obj.1 hd
      refine Value.same_dict_self (by rwa [Value.keys_ofMembers]) fun q hq => ?_
      rw [Value.ofMembers_eq_map] at hq
      obtain ⟨p, hp, rfl⟩ := List.mem_map.1 hq
      exact ih p.2 (.member hp) (hj.part (.member hp)) (hmembers p hp)

/-! ## Decoded values -/

/-- All unions compare their values. -/
def Types.Structural (types : Types) : Prop :=
  ∀ id u, types.union? id = some u → u.structural = true

/-- Whether a generated type is no union that compares its values not at all. -/
def TypeDef.isStructural : TypeDef → Bool
  | .model _ => true
  | .union u => u.structural

theorem structural_of_all (h : types.all TypeDef.isStructural = true) : types.Structural :=
  fun _ u hu =>
    List.all_eq_true.1 h (.union u) (List.mem_of_getElem? (Types.union?_eq_some.1 hu))

/-- Whatever a type makes of a JSON value equals itself. -/
def FieldType.SelfEqualAt (type : FieldType) (types : Types) (j : Json) : Prop :=
  ∀ t, judgement types (.ofJson j) type = .ok t → Value.same types t.value t.value = true

theorem selfEqualAt_of_isScalar (hscalar : type.isScalar = true) : type.SelfEqualAt types j := by
  intro t ht
  rw [judgement_eq] at ht
  cases type with
  | text =>
    rw [judge] at ht
    obtain ⟨s, e, -, rfl⟩ := of_judgeScalar ht
    exact Value.same_str_self s
  | integer =>
    rw [judge] at ht
    obtain ⟨n, e, -, rfl⟩ := of_judgeScalar ht
    exact Value.same_int_self n
  | number =>
    rw [judge] at ht
    obtain ⟨x, e, hx, rfl⟩ := of_judgeScalar ht
    refine Value.same_float_self ?_
    rintro rfl
    cases isFinite_of_number hx
  | boolean =>
    rw [judge] at ht
    obtain ⟨b, e, -, rfl⟩ := of_judgeScalar ht
    exact Value.same_bool_self b
  | null =>
    unfold judge at ht
    split at ht <;> cases ht
    exact Value.same_of_sameScalar rfl
  | literal values =>
    rw [judge] at ht
    obtain ⟨l, e, -, rfl⟩ := of_judgeScalar ht
    exact Value.same_ofLiteral_self l
  | _ => cases hscalar

theorem same_items_self {item : FieldType} {items : List Json} {ts : List Taken}
    (hitem : ∀ x ∈ items, item.SelfEqualAt types x)
    (hts : List.Forall₂ (fun x t => judgement types (.ofJson x) item = .ok t) items ts) :
    Value.sameItems types (ts.map Taken.value) (ts.map Taken.value) = true := by
  refine Value.sameItems_self (List.forall_mem_map.2 fun t ht => ?_)
  obtain ⟨x, hx, hxt⟩ := exists_left_of_forall₂ hts ht
  exact hitem x hx t hxt

/-- The fields that are set have different names. -/
theorem keys_sublist_of_judgeParts {entries : List (String × Judge)} {fields : List Field}
    {p : TakenParts} (h : judgeParts (fieldParts entries fields) = .ok p) :
    (Entries.keys p.values).Sublist (fields.map Field.name) := by
  induction fields generalizing p with
  | nil =>
    cases h
    exact .slnil
  | cons f fields ih =>
    unfold fieldParts at h
    split at h
    · obtain ⟨t, p', -, hp', rfl⟩ := judgeParts_cons_eq_ok_iff.1 h
      exact (ih hp').cons_cons f.name
    · split at h
      · obtain ⟨t, p', ht, -, -⟩ := judgeParts_cons_eq_ok_iff.1 h
        cases ht
      · exact (ih h).cons f.name

theorem selfEqualAt_model {id : TypeId} {members : Entries Json}
    (hnames : ((types.fieldsOf id).map Field.name).Nodup)
    (hmembers : ∀ p ∈ members, ∀ type : FieldType, type.SelfEqualAt types p.2) :
    (FieldType.model id).SelfEqualAt types (.obj members) := by
  intro t ht
  obtain ⟨m, p, hm, hp, -, rfl⟩ := judgement_model_eq_ok_iff.1 ht
  rw [Types.fieldsOf, hm] at hnames
  refine Value.same_record_self (hnames.sublist (keys_sublist_of_judgeParts hp)) fun q hq => ?_
  obtain ⟨e, he, f, -, t, -, ht, hv⟩ := exists_field_of_judgeParts hp hq
  rw [entryJudgements_eq_map, Value.ofMembers_eq_map, List.map_map] at he
  obtain ⟨p', hp', rfl⟩ := List.mem_map.1 he
  rw [hv]
  exact hmembers p' hp' f.type t ht

theorem selfEqualAt_union (hunions : types.Structural)
    {id : TypeId} (hmodel : ∀ id, (FieldType.model id).SelfEqualAt types j) :
    (FieldType.union id).SelfEqualAt types j := by
  intro t ht
  obtain ⟨u, members, w, payload, hu, rfl, hd, rfl⟩ := exists_matched_of_judgement ht
  obtain ⟨-, payload, hpayload, rfl⟩ := materialize_eq_ok_iff.1 (materialize_of_matched hd)
  refine Value.same_choice_self ?_ (hmodel w.type payload hpayload)
  rw [Value.isStructural, hu]
  exact hunions id u hu

/-- A value that is decoded from data without nan and without repeated keys equals itself when all
unions compare their values. -/
theorem same_self_of_judgement (hnames : ∀ id, ((types.fieldsOf id).map Field.name).Nodup)
    (hunions : types.Structural) (j : Json) (hj : j.LacksNan) (hd : j.hasDistinctKeys = true)
    (type : FieldType) :
    type.SelfEqualAt types j := by
  induction j using Json.induct generalizing type with
  | parts j ih =>
    have hmodel (id : TypeId) : (FieldType.model id).SelfEqualAt types j := by
      intro t ht
      obtain ⟨members, rfl⟩ := exists_members_of_takes_model ⟨t, ht⟩
      exact selfEqualAt_model (hnames id) (fun p hp type =>
        ih p.2 (.member hp) (hj.part (.member hp)) ((Json.hasDistinctKeys_obj.1 hd).2 p hp) type)
        t ht
    have hitems {item : FieldType} {items : List Json} (he : j = .arr items) :
        ∀ x ∈ items, item.SelfEqualAt types x := by
      subst he
      exact fun x hx => ih x (.item hx) (hj.part (.item hx))
        (Json.hasDistinctKeys_arr.1 hd x hx) item
    intro t ht
    obtain ⟨o, hchoice, hot⟩ := exists_plain_of_judgement ht
    clear ht
    cases o with
    | any =>
      rw [judgement_eq, judge] at hot
      cases hot
      exact same_ofJson_self j hj hd
    | object =>
      rw [(value_of_object hot).1]
      exact same_ofJson_self j hj hd
    | model id => exact hmodel id t hot
    | union id => exact selfEqualAt_union hunions hmodel t hot
    | named name =>
      rw [judgement_eq, judge] at hot
      cases hot
    | list item =>
      obtain ⟨items, rfl⟩ := exists_items_of_container? (container?_of_judgement hchoice (fun he => by cases he) hot)
      rw [judgement_list] at hot
      obtain ⟨ts, hts, rfl⟩ := judgeItems_ofItems_eq_ok_iff.1 hot
      rw [Taken.ofItems, Value.same]
      exact same_items_self (hitems rfl) hts
    | tuple item =>
      obtain ⟨items, rfl⟩ := exists_items_of_container? (container?_of_judgement hchoice (fun he => by cases he) hot)
      rw [judgement_tuple] at hot
      obtain ⟨ts, hts, rfl⟩ := judgeItems_ofItems_eq_ok_iff.1 hot
      rw [Taken.ofItems, Value.same]
      exact same_items_self (hitems rfl) hts
    | choice os => cases hchoice
    | _ => exact selfEqualAt_of_isScalar rfl t hot

end ShapeSum
