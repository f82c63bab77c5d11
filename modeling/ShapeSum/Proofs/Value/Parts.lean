import Mathlib.Logic.Relation
import ShapeSum.Proofs.Decode.Judging
import ShapeSum.Proofs.Schema.Reach

/-!
# The parts of decoded values

The parts of a value are the items, entries, fields or the payload that it is made of, and
a value lies within another one when a chain of parts leads to it.  A property of values
that containers have when their parts have it, and that the values of unions have only of
unions that exist, is preserved by decoding: what a type makes of a value with the
property has the property (`preserved_of_judgement`).  So in whatever decoding gives, also
for data with such values in it, the fields of all records were filled by their types, the
unions of all values exist, and each payload is a record of the variant with the tag
(`Value.Obtained.soundWithin`).
-/

namespace ShapeSum

variable {types : Types}

namespace Value

/-- Induction over values; the parts of a container are its members. -/
@[elab_as_elim]
theorem induct {motive : Value → Prop} (null : motive .null) (bool : ∀ b, motive (.bool b))
    (int : ∀ n, motive (.int n)) (float : ∀ x, motive (.float x)) (str : ∀ s, motive (.str s))
    (list : ∀ items, (∀ v ∈ items, motive v) → motive (.list items))
    (tuple : ∀ items, (∀ v ∈ items, motive v) → motive (.tuple items))
    (dict : ∀ entries : List (String × Value), (∀ p ∈ entries, motive p.2) →
      motive (.dict entries))
    (record : ∀ model (fields : List (String × Value)), (∀ p ∈ fields, motive p.2) →
      motive (.record model fields))
    (choice : ∀ union tag payload, motive payload → motive (.choice union tag payload))
    (v : Value) : motive v :=
  @Value.rec motive (fun items => ∀ v ∈ items, motive v) (fun entries => ∀ p ∈ entries, motive p.2)
    (fun p => motive p.2) null bool int float str list tuple dict record choice
    (fun _ h => nomatch h) (fun _ _ hx hxs => List.forall_mem_cons.2 ⟨hx, hxs⟩)
    (fun _ h => nomatch h) (fun _ _ hp hps => List.forall_mem_cons.2 ⟨hp, hps⟩)
    (fun _ _ h => h) v

/-- One value is a part of another one. -/
inductive HasPart : Value → Value → Prop
  /-- An item of a list. -/
  | item {items : List Value} {x : Value} : x ∈ items → HasPart (.list items) x
  /-- An item of an immutable list. -/
  | fixed {items : List Value} {x : Value} : x ∈ items → HasPart (.tuple items) x
  /-- The value of an entry of a plain object. -/
  | entry {entries : List (String × Value)} {p : String × Value} : p ∈ entries →
      HasPart (.dict entries) p.2
  /-- The value of a field of a model. -/
  | field {id : TypeId} {fields : List (String × Value)} {p : String × Value} : p ∈ fields →
      HasPart (.record id fields) p.2
  /-- The payload of a value of a union. -/
  | payload {id : TypeId} {tag : String} {x : Value} : HasPart (.choice id tag x) x

/-- A value lies within another one, at any depth. -/
def Within (v : Value) : Value → Prop := Relation.ReflTransGen HasPart v

end Value

/-! ## Properties that decoding preserves -/

/-- A type makes a value: it is what the type takes some value as. -/
def FieldType.Makes (types : Types) (type : FieldType) (x : Value) : Prop :=
  ∃ v t, judgement types v type = .ok t ∧ t.value = x

/-- The fields of a record are filled: each value was made by the type of a field of that name. -/
def Filled (types : Types) (id : TypeId) (fields : List (String × Value)) : Prop :=
  ∀ p ∈ fields, ∃ f ∈ types.fieldsOf id, f.name = p.1 ∧ f.type.Makes types p.2

/-- A property of values that scalars have, that containers have with their parts and records when
their fields are filled, and that the values of a union have with their payload provided that there
is such a union and the payload is a record of the variant with the tag. -/
structure Value.Preserved (types : Types) (P : Value → Prop) : Prop where
  literal : ∀ l, P (.ofLiteral l)
  float : ∀ x, P (.float x)
  list : ∀ items, P (.list items) ↔ ∀ v ∈ items, P v
  tuple : ∀ items, P (.tuple items) ↔ ∀ v ∈ items, P v
  entry : ∀ entries, P (.dict entries) → ∀ p ∈ entries, P p.2
  record : ∀ id fields, Filled types id fields → (∀ p ∈ fields, P p.2) → P (.record id fields)
  choice : ∀ id u w fields, types.union? id = some u → w ∈ u.variants → P (.record w.type fields) →
    P (.choice id w.tag (.record w.type fields))

/-- What a type makes of a value has a property. -/
def Judge.Gives (j : Judge) (P : Value → Prop) : Prop := ∀ type t, j type = .ok t → P t.value

/-- What types make of the parts of a value has a property. -/
structure PartJudges.Give (types : Types) (parts : PartJudges) (P : Value → Prop) : Prop where
  items : ∀ j ∈ parts.items, j.Gives P
  entries : ∀ p ∈ parts.entries, p.2.Gives P
  known : ∀ p ∈ parts.entries, ∃ v, p.2 = judgement types v

namespace Value.Preserved

variable {P : Value → Prop} {v : Value} {parts : PartJudges} {t : Taken}

theorem judgeScalar {α : Type} {wrap : α → Value} {r : Except Mismatch (α × Exactness)}
    (hw : ∀ a, P (wrap a)) (h : ShapeSum.judgeScalar wrap r = .ok t) : P t.value := by
  unfold ShapeSum.judgeScalar at h
  split at h <;> cases h
  exact hw _

theorem judgeItems {wrap : List Value → Value}
    (hw : ∀ items, (∀ v ∈ items, P v) → P (wrap items)) {least : Exactness} {item : FieldType}
    {items : List Judge} (hi : ∀ j ∈ items, j.Gives P)
    (h : ShapeSum.judgeItems wrap least item items = .ok t) : P t.value := by
  unfold ShapeSum.judgeItems at h
  cases hp : judgeParts (itemParts item 0 items) with
  | error is =>
    rw [hp] at h
    cases h
  | ok p =>
    rw [hp] at h
    cases h
    refine hw _ fun v hv => ?_
    obtain ⟨q, hq, rfl⟩ := List.mem_map.1 hv
    obtain ⟨part, hpart, t, ht, hqt⟩ := exists_part_of_judgeParts hp hq
    obtain ⟨j, hj, he⟩ := exists_item_of_itemParts hpart
    rw [hqt]
    exact hi j hj item t (he.symm.trans ht)

theorem judgeModel (hP : Preserved types P) {id : TypeId} (hv : P v) (hp : parts.Give types P)
    (h : ShapeSum.judgeModel types id v parts = .ok t) : P t.value := by
  unfold ShapeSum.judgeModel at h
  cases hm : types.model? id with
  | none =>
    rw [hm] at h
    cases h
  | some m =>
    rw [hm] at h
    dsimp only at h
    split at h
    · split at h <;> cases h
      exact hv
    · unfold judgeFields at h
      split at h <;> cases h
      rename_i taken htaken _
      refine hP.record _ _ (fun q hq => ?_) fun q hq => ?_ <;>
        obtain ⟨e, he, f, hf, t, hname, ht, hqt⟩ := exists_field_of_judgeParts htaken hq
      · obtain ⟨v, hv⟩ := hp.known e he
        rw [Types.fieldsOf, hm]
        exact ⟨f, hf, hname, v, t, hv ▸ ht, hqt.symm⟩
      · rw [hqt]
        exact hp.entries e he f.type t ht
    · cases h

theorem materializeWith (hP : Preserved types P) {id : TypeId} (hv : P v) (hp : parts.Give types P)
    {payload : Value} (h : ShapeSum.materializeWith types id v parts = .ok payload) :
    P payload := by
  unfold ShapeSum.materializeWith at h
  split at h
  · split at h
    · rename_i t ht
      cases h
      exact hP.judgeModel hv hp ht
    · split at h <;> cases h
  · cases h

theorem dispatchWith (hP : Preserved types P) {u : UnionType} (hv : P v) (hp : parts.Give types P)
    {w : Variant} {payload : Value}
    (h : (ShapeSum.dispatchWith types u v parts).outcome = .matched w payload) : P payload := by
  unfold ShapeSum.dispatchWith dispatchOver at h
  dsimp only at h
  split at h
  · cases h
  · split at h <;> cases h
    rename_i hm
    exact hP.materializeWith hv hp hm

theorem judgeUnion (hP : Preserved types P) {id : TypeId} (hv : P v) (hp : parts.Give types P)
    (h : ShapeSum.judgeUnion types id v parts = .ok t) : P t.value := by
  unfold ShapeSum.judgeUnion at h
  dsimp only at h
  split at h
  · cases h
  · rename_i u hu
    split at h
    · split at h <;> cases h
      exact hv
    · split at h <;> cases h
      rename_i hm
      obtain ⟨hw, fields, rfl⟩ := exists_record_of_dispatchWith hm
      exact hP.choice id u _ fields hu hw (hP.dispatchWith hv hp hm)
    · cases h

mutual

/-- What a type makes of a value has the property if the value has it, and what types make of its
parts. -/
theorem judge (hP : Preserved types P) {v : Value} {parts : PartJudges} (hv : P v)
    (hp : parts.Give types P) (type : FieldType) {t : Taken}
    (h : ShapeSum.judge types v parts type = .ok t) : P t.value := by
  cases type with
  | text => exact judgeScalar (fun s => hP.literal (.str s)) h
  | integer => exact judgeScalar (fun n => hP.literal (.int n)) h
  | number => exact judgeScalar hP.float h
  | boolean => exact judgeScalar (fun b => hP.literal (.bool b)) h
  | literal values => exact judgeScalar hP.literal h
  | null =>
    unfold ShapeSum.judge at h
    split at h <;> cases h
    exact hP.literal .null
  | any =>
    cases h
    exact hv
  | object =>
    unfold ShapeSum.judge at h
    split at h <;> cases h <;> exact hv
  | list item =>
    unfold ShapeSum.judge at h
    split at h
    · exact judgeItems (fun items => (hP.list items).2) hp.items h
    · cases h
  | tuple item =>
    unfold ShapeSum.judge at h
    split at h
    · exact judgeItems (fun items => (hP.tuple items).2) hp.items h
    · exact judgeItems (fun items => (hP.tuple items).2) hp.items h
    · cases h
  | model id => exact hP.judgeModel hv hp h
  | union id => exact hP.judgeUnion hv hp h
  | named name => cases h
  | choice os =>
    unfold ShapeSum.judge at h
    split at h
    · cases h
      exact hP.literal .null
    · obtain ⟨q, hq, hqt⟩ := of_judgeChoice h
      exact hP.judgeOptions hv hp os hq hqt

theorem judgeOptions (hP : Preserved types P) {v : Value} {parts : PartJudges} (hv : P v)
    (hp : parts.Give types P) (options : List FieldType) {q : String × Judgement}
    (hq : q ∈ ShapeSum.judgeOptions types v parts options) {t : Taken} (h : q.2 = .ok t) :
    P t.value := by
  cases options with
  | nil => cases hq
  | cons o os =>
    unfold ShapeSum.judgeOptions at hq
    split at hq
    · exact hP.judgeOptions hv hp os hq h
    · rcases List.mem_cons.1 hq with rfl | hq
      · exact hP.judge hv hp o h
      · exact hP.judgeOptions hv hp os hq h

end

end Value.Preserved

section
variable {P : Value → Prop}

theorem give_items {items : List Value} (h : ∀ v ∈ items, (judgement types v).Gives P) :
    PartJudges.Give types { items := itemJudgements types items } P := by
  refine ⟨fun j hj => ?_, fun _ hp => (by cases hp), fun _ hp => (by cases hp)⟩
  rw [itemJudgements_eq_map] at hj
  obtain ⟨v, hv, rfl⟩ := List.mem_map.1 hj
  exact h v hv

theorem give_entries {entries : List (String × Value)}
    (h : ∀ p ∈ entries, (judgement types p.2).Gives P) :
    PartJudges.Give types { entries := entryJudgements types entries } P := by
  refine ⟨fun _ hj => (by cases hj), fun q hq => ?_, fun q hq => ?_⟩ <;>
    rw [entryJudgements_eq_map] at hq <;> obtain ⟨p, hp, rfl⟩ := List.mem_map.1 hq
  · exact h p hp
  · exact ⟨p.2, rfl⟩

theorem give_none : PartJudges.Give types {} P :=
  ⟨fun _ hj => (by cases hj), fun _ hp => (by cases hp), fun _ hp => (by cases hp)⟩

/-- What a type makes of a value with a preserved property has the property. -/
theorem preserved_of_judgement (hP : Value.Preserved types P) (v : Value) (hv : P v) :
    (judgement types v).Gives P := by
  intro type t h
  induction v using Value.induct generalizing type t with
  | list items ih =>
    exact hP.judge hv (give_items fun v hm => ih v hm ((hP.list items).1 hv v hm)) type h
  | tuple items ih =>
    exact hP.judge hv (give_items fun v hm => ih v hm ((hP.tuple items).1 hv v hm)) type h
  | dict entries ih =>
    exact hP.judge hv (give_entries fun p hp => ih p hp (hP.entry entries hv p hp)) type h
  | _ => exact hP.judge hv give_none type h

/-- What a dispatch makes of an object with a preserved property has the property. -/
theorem preserved_of_matched (hP : Value.Preserved types P) {u : UnionType}
    {entries : List (String × Value)} (hv : P (.dict entries)) {w : Variant} {payload : Value}
    (h : (dispatch types u entries).outcome = .matched w payload) : P payload :=
  hP.dispatchWith hv (give_entries fun p hp =>
    preserved_of_judgement hP p.2 (hP.entry entries hv p hp)) h

end

/-! ## What decoding makes -/

namespace Value

/-- The fields of a record are filled, and the union of a value exists. -/
def Grounded (types : Types) : Value → Prop
  | .record id fields => Filled types id fields
  | .choice id _ _ => ∃ u, types.union? id = some u
  | _ => True

/-- Every value within a value is grounded. -/
def GroundedWithin (types : Types) (v : Value) : Prop := ∀ x, v.Within x → x.Grounded types

/-- The fields of a record are filled, and a value of a union is a record of the variant that has
its tag. -/
def Sound (types : Types) : Value → Prop
  | .record id fields => Filled types id fields
  | .choice id tag payload => ∃ u, types.union? id = some u ∧
      ∃ w ∈ u.variants, w.tag = tag ∧ ∃ fields, payload = .record w.type fields
  | _ => True

theorem Sound.grounded {v : Value} (h : v.Sound types) : v.Grounded types := by
  cases v with
  | record id fields => exact h
  | choice id tag payload => exact h.imp fun _ hu => hu.1
  | _ => trivial

/-- Every value within a value is sound. -/
def SoundWithin (types : Types) (v : Value) : Prop := ∀ x, v.Within x → x.Sound types

theorem soundWithin_of_parts {v : Value} (hv : v.Sound types)
    (h : ∀ x, v.HasPart x → x.SoundWithin types) : v.SoundWithin types := by
  intro x hwithin
  rcases Relation.ReflTransGen.cases_head hwithin with rfl | ⟨y, hy, hrest⟩
  · exact hv
  · exact h y hy x hrest

theorem SoundWithin.part {v x : Value} (h : v.SoundWithin types) (hx : v.HasPart x) :
    x.SoundWithin types :=
  fun y hwithin => h y (.head hx hwithin)

/-- Decoding fills the fields of the records that it makes, and makes values of unions of records of
their variants. -/
theorem preserved_soundWithin (types : Types) : Preserved types (SoundWithin types) where
  literal l := soundWithin_of_parts (by cases l <;> trivial) (by cases l <;> nofun)
  float _ := soundWithin_of_parts trivial nofun
  list items := by
    refine ⟨fun h x hx => h.part (.item hx), fun h => soundWithin_of_parts trivial ?_⟩
    intro x hpart
    cases hpart with
    | item hx => exact h x hx
  tuple items := by
    refine ⟨fun h x hx => h.part (.fixed hx), fun h => soundWithin_of_parts trivial ?_⟩
    intro x hpart
    cases hpart with
    | fixed hx => exact h x hx
  entry entries h p hp := h.part (.entry hp)
  record id fields hfilled h := by
    refine soundWithin_of_parts hfilled fun x hpart => ?_
    cases hpart with
    | field hp => exact h _ hp
  choice id u w fields hu hw h := by
    refine soundWithin_of_parts ⟨u, hu, w, hw, rfl, fields, rfl⟩ fun x hpart => ?_
    cases hpart
    exact h

/-- A value is one that decoding gives for data of any kind, in which there may be such values. -/
inductive Obtained (types : Types) : Value → Prop
  /-- A scalar. -/
  | literal (l : Literal) : Obtained types (.ofLiteral l)
  /-- A double. -/
  | float (x : Binary64) : Obtained types (.float x)
  /-- A list. -/
  | list {items : List Value} : (∀ v ∈ items, Obtained types v) → Obtained types (.list items)
  /-- An immutable list. -/
  | tuple {items : List Value} : (∀ v ∈ items, Obtained types v) → Obtained types (.tuple items)
  /-- A plain object. -/
  | dict {entries : List (String × Value)} : (∀ p ∈ entries, Obtained types p.2) →
      Obtained types (.dict entries)
  /-- What a model makes. -/
  | model {id : TypeId} {v value : Value} : Obtained types v →
      materialize types id v = .ok value → Obtained types value
  /-- What a union makes of an object. -/
  | union {id : TypeId} {u : UnionType} {entries : List (String × Value)} {v : Variant}
      {payload : Value} : types.union? id = some u → (∀ p ∈ entries, Obtained types p.2) →
      (dispatch types u entries).outcome = .matched v payload →
      Obtained types (.choice id v.tag payload)

/-- Plain data is data of that kind. -/
theorem obtained_ofJson (j : Json) : (ofJson j).Obtained types := by
  induction j using Json.induct with
  | parts j ih =>
    cases j with
    | null => exact .literal .null
    | bool b => exact .literal (.bool b)
    | int n => exact .literal (.int n)
    | float x => exact .float x
    | str s => exact .literal (.str s)
    | arr items =>
      refine .list fun v hv => ?_
      rw [ofItems_eq_map] at hv
      obtain ⟨x, hx, rfl⟩ := List.mem_map.1 hv
      exact ih x (.item hx)
    | obj members =>
      refine .dict fun p hp => ?_
      rw [ofMembers_eq_map] at hp
      obtain ⟨q, hq, rfl⟩ := List.mem_map.1 hp
      exact ih q.2 (.member hq)

/-- Everything within what decoding gives is sound. -/
theorem Obtained.soundWithin {v : Value} (h : v.Obtained types) : v.SoundWithin types := by
  have hP := preserved_soundWithin types
  have hdict {entries : List (String × Value)} (h : ∀ p ∈ entries, p.2.SoundWithin types) :
      (Value.dict entries).SoundWithin types := by
    refine soundWithin_of_parts trivial fun x hpart => ?_
    cases hpart with
    | entry hp => exact h _ hp
  induction h with
  | literal l => exact hP.literal l
  | float x => exact hP.float x
  | list _ ih => exact (hP.list _).2 ih
  | tuple _ ih => exact (hP.tuple _).2 ih
  | dict _ ih => exact hdict ih
  | model _ hm ih =>
    obtain ⟨-, t, ht, rfl⟩ := materialize_eq_ok_iff.1 hm
    exact preserved_of_judgement hP _ ih _ t ht
  | union hu _ hm ih =>
    obtain ⟨hw, fields, rfl⟩ := exists_record_of_dispatchWith hm
    exact hP.choice _ _ _ fields hu hw (preserved_of_matched hP (hdict ih) hm)

/-- Everything within what decoding gives is grounded. -/
theorem Obtained.groundedWithin {v : Value} (h : v.Obtained types) : v.GroundedWithin types :=
  fun x hx => (h.soundWithin x hx).grounded

end Value

end ShapeSum
