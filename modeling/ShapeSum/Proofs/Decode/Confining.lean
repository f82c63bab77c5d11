import ShapeSum.Proofs.Decode.Layers
import ShapeSum.Proofs.Value.Parts

/-!
# Types that confine values

A type of literals confines what it makes to the literals.  Around it there can be types of
lists, with other options beside them as long as these take no arrays; then the items
innermost are confined.  Resolving names leaves such a type one (`Confines.resolve`), and
whatever it makes is confined (`Confines.atDepth`).
-/

namespace ShapeSum

variable {types : Types} {values : List Literal} {t t' : FieldType} {k : Nat} {x : Value}

/-- The items of a list, immutable or not. -/
def Value.items? : Value → Option (List Value)
  | .list items | .tuple items => some items
  | _ => none

/-- Whatever lies in a value under a number of lists has a property. -/
def Value.AtDepth (P : Value → Prop) : Nat → Value → Prop
  | 0, x => P x
  | k + 1, x => ∀ items, x.items? = some items → ∀ y ∈ items, AtDepth P k y

/-- A value is one of some literals. -/
def Value.IsAmong (values : List Literal) (x : Value) : Prop := ∃ l ∈ values, x = .ofLiteral l

namespace FieldType

/-! ## Types -/

/-- A type confines values to literals, under a number of lists: innermost it is the type of the
literals, and each option around it that may take arrays is a type of lists. -/
def Confines (values : List Literal) : Nat → FieldType → Prop
  | 0, t => t = .literal values
  | k + 1, t =>
    ∀ o ∈ t.options, o.takesArrays = true → ∃ item, o.ListOf item ∧ Confines values k item

/-- The type of a field that confines values.  Without lists null is an option of its own when the
field is not required. -/
def ConfinesFor (values : List Literal) (required : Bool) : Nat → FieldType → Prop
  | 0, t => t = if required then .literal values else (FieldType.literal values).optional
  | k + 1, t => Confines values (k + 1) t

theorem optional_literal (values : List Literal) :
    (FieldType.literal values).optional = .choice [.literal values, .null] :=
  have hnull : FieldType.literal values ≠ .null := nofun
  optional_eq_choice hnull rfl

/-- No option around the literals is a choice. -/
theorem Confines.isFlat (h : Confines values (k + 1) t) : t.IsFlat :=
  fun o ho => isChoice_of_listOf fun harr => (h o ho harr).imp fun _ h => h.1

/-- A type that takes no arrays has no items to confine. -/
theorem confines_of_not_takesArrays (h : t.takesArrays = false) : Confines values (k + 1) t := by
  intro o ho harr
  rw [options_of_not_isChoice (isChoice_of_not_takesArrays h), List.mem_singleton] at ho
  rw [ho, h] at harr
  cases harr

/-- Options are put together to a type that confines items as each of them does. -/
theorem confines_ofOptions {os : List FieldType}
    (h : ∀ o ∈ os, o.takesArrays = true → ∃ item, o.ListOf item ∧ Confines values k item) :
    Confines values (k + 1) (.ofOptions os) := by
  intro o ho
  rw [mem_options_ofOptions fun o ho => isChoice_of_listOf fun harr =>
    (h o ho harr).imp fun _ h => h.1] at ho
  exact h o ho

/-- The type of a field, required or not. -/
theorem Confines.confinesFor (h : Confines values k t) (required : Bool) :
    ConfinesFor values required k (if required then t else t.optional) := by
  cases k with
  | zero =>
    cases h
    rfl
  | succ k =>
    cases required with
    | true => exact h
    | false =>
      intro o ho harr
      rcases (mem_options_optional h.isFlat).1 ho with ho | rfl
      · exact h o ho harr
      · cases harr

section Resolving

variable {lookup : String → Option FieldType} (hlookup : Scalar lookup)

include hlookup

/-- Names stand for no arrays, so resolving them leaves the items confined. -/
theorem Confines.resolve (h : Confines values k t) : Confines values k (t.resolve lookup) := by
  induction k generalizing t with
  | zero =>
    cases h
    rfl
  | succ k ih =>
    intro o' ho' harr'
    obtain ⟨o, ho, rfl⟩ := (mem_options_resolve h.isFlat fun o ho =>
      isChoice_resolve hlookup fun harr => (h o ho harr).imp fun _ h => h.1).1 ho'
    cases harr : o.takesArrays with
    | false =>
      rw [takesArrays_resolve hlookup harr] at harr'
      cases harr'
    | true =>
      obtain ⟨item, hlist, hitem⟩ := h o ho harr
      exact ⟨_, hlist.resolve, ih hitem⟩

theorem ConfinesFor.resolve {required : Bool} (h : ConfinesFor values required k t) :
    ConfinesFor values required k (t.resolve lookup) := by
  cases k with
  | succ k => exact Confines.resolve hlookup h
  | zero =>
    cases h
    cases required with
    | true => rfl
    | false =>
      show ((FieldType.literal values).optional).resolve lookup =
        (FieldType.literal values).optional
      rw [optional_literal]
      rfl

end Resolving

/-! ## Values -/

/-- A type makes what one of its options makes. -/
theorem Makes.option (h : t.Makes types x) : ∃ o ∈ t.options, o.Makes types x := by
  obtain ⟨v, r, hr, rfl⟩ := h
  obtain ⟨o, ho, hor⟩ := exists_option_of_judgement hr
  exact ⟨o, ho, v, r, hor, rfl⟩

/-- A type of literals makes literals. -/
theorem Makes.literal (h : (FieldType.literal values).Makes types x) : x.IsAmong values := by
  obtain ⟨v, r, hr, rfl⟩ := h
  rw [judgement_eq, judge] at hr
  obtain ⟨l, e, hl, rfl⟩ := of_judgeScalar hr
  exact ⟨l, mem_of_literal hl, rfl⟩

theorem Makes.null (h : FieldType.null.Makes types x) : x = .null := by
  obtain ⟨v, r, hr, rfl⟩ := h
  rw [judgement_eq] at hr
  unfold judge at hr
  split at hr <;> cases hr
  rfl

theorem Makes.text (h : FieldType.text.Makes types x) : ∃ s, x = .str s := by
  obtain ⟨v, r, hr, rfl⟩ := h
  rw [judgement_eq, judge] at hr
  obtain ⟨s, e, -, rfl⟩ := of_judgeScalar hr
  exact ⟨s, rfl⟩

theorem Makes.integer (h : FieldType.integer.Makes types x) : ∃ n, x = .int n := by
  obtain ⟨v, r, hr, rfl⟩ := h
  rw [judgement_eq, judge] at hr
  obtain ⟨n, e, -, rfl⟩ := of_judgeScalar hr
  exact ⟨n, rfl⟩

theorem Makes.boolean (h : FieldType.boolean.Makes types x) : ∃ b, x = .bool b := by
  obtain ⟨v, r, hr, rfl⟩ := h
  rw [judgement_eq, judge] at hr
  obtain ⟨b, e, -, rfl⟩ := of_judgeScalar hr
  exact ⟨b, rfl⟩

/-- The type of numbers makes finite ones. -/
theorem Makes.number (h : FieldType.number.Makes types x) :
    ∃ y : Binary64, x = .float y ∧ y.isFinite = true := by
  obtain ⟨v, r, hr, rfl⟩ := h
  rw [judgement_eq, judge] at hr
  obtain ⟨y, e, hy, rfl⟩ := of_judgeScalar hr
  exact ⟨y, rfl, isFinite_of_number hy⟩

theorem Makes.object (h : FieldType.object.Makes types x) : ∃ entries, x = .dict entries := by
  obtain ⟨v, r, hr, rfl⟩ := h
  rw [judgement_eq] at hr
  unfold judge at hr
  split at hr <;> cases hr
  · exact ⟨[], rfl⟩
  · exact ⟨_, rfl⟩

theorem Makes.model {id : TypeId} (h : (FieldType.model id).Makes types x) :
    ∃ fields, x = .record id fields := by
  obtain ⟨v, r, hr, rfl⟩ := h
  rw [judgement_eq] at hr
  exact exists_record_of_judgeModel hr

theorem Makes.union {id : TypeId} (h : (FieldType.union id).Makes types x) :
    ∃ tag payload, x = .choice id tag payload := by
  obtain ⟨v, r, hr, rfl⟩ := h
  rw [judgement_eq] at hr
  exact exists_choice_of_judgeUnion hr

/-- A name that is left in a type makes nothing. -/
theorem not_makes_named {name : String} : ¬(FieldType.named name).Makes types x := by
  rintro ⟨v, r, hr, -⟩
  rw [judgement_eq] at hr
  cases hr

/-- Items are made by the type of the items. -/
theorem makes_of_judgeItems {wrap : List Value → Value} {least : Exactness} {items : List Value}
    {r : Taken} (h : judgeItems wrap least t (itemJudgements types items) = .ok r) :
    ∃ ys, r.value = wrap ys ∧ ∀ y ∈ ys, t.Makes types y := by
  obtain ⟨ts, hts, rfl⟩ := judgeItems_eq_ok_iff.1 h
  refine ⟨ts.map Taken.value, rfl, fun y hy => ?_⟩
  obtain ⟨r, hr, rfl⟩ := List.mem_map.1 hy
  obtain ⟨j, hj, hjr⟩ := exists_left_of_forall₂ hts hr
  rw [itemJudgements_eq_map] at hj
  obtain ⟨v, -, rfl⟩ := List.mem_map.1 hj
  exact ⟨v, r, hjr, rfl⟩

/-- What a type of lists makes has items that the type of the items makes. -/
theorem Makes.items (hlist : t'.ListOf t) (h : t'.Makes types x) :
    ∃ ys, x.items? = some ys ∧ ∀ y ∈ ys, t.Makes types y := by
  obtain ⟨v, r, hr, rfl⟩ := h
  rw [judgement_eq] at hr
  cases hlist <;> unfold judge at hr <;> split at hr
  · obtain ⟨ys, hys, hmade⟩ := makes_of_judgeItems hr
    exact ⟨ys, congrArg Value.items? hys, hmade⟩
  · cases hr
  · obtain ⟨ys, hys, hmade⟩ := makes_of_judgeItems hr
    exact ⟨ys, congrArg Value.items? hys, hmade⟩
  · obtain ⟨ys, hys, hmade⟩ := makes_of_judgeItems hr
    exact ⟨ys, congrArg Value.items? hys, hmade⟩
  · cases hr

/-- A type that takes no arrays makes no lists. -/
theorem Makes.items?_eq_none (h : t.Makes types x) (harr : t.takesArrays = false) :
    x.items? = none := by
  cases t with
  | list | tuple | any | choice => cases harr
  | named name => exact absurd h not_makes_named
  | null =>
    rw [h.null]
    rfl
  | text =>
    obtain ⟨s, rfl⟩ := h.text
    rfl
  | integer =>
    obtain ⟨n, rfl⟩ := h.integer
    rfl
  | number =>
    obtain ⟨y, rfl, -⟩ := h.number
    rfl
  | boolean =>
    obtain ⟨b, rfl⟩ := h.boolean
    rfl
  | object =>
    obtain ⟨entries, rfl⟩ := h.object
    rfl
  | literal values =>
    obtain ⟨l, -, rfl⟩ := h.literal
    cases l <;> rfl
  | model id =>
    obtain ⟨fields, rfl⟩ := h.model
    rfl
  | union id =>
    obtain ⟨tag, payload, rfl⟩ := h.union
    rfl

/-- What a type makes is confined as the type says. -/
theorem Confines.atDepth (h : Confines values k t) (hx : t.Makes types x) :
    x.AtDepth (Value.IsAmong values) k := by
  induction k generalizing t x with
  | zero =>
    cases h
    exact hx.literal
  | succ k ih =>
    intro items hitems y hy
    obtain ⟨o, ho, hox⟩ := hx.option
    cases harr : o.takesArrays with
    | false =>
      rw [hox.items?_eq_none harr] at hitems
      cases hitems
    | true =>
      obtain ⟨item, hlist, hitem⟩ := h o ho harr
      obtain ⟨ys, hys, hmade⟩ := hox.items hlist
      cases hys.symm.trans hitems
      exact ih hitem (hmade y hy)

/-- What the type of a field makes is confined, or null when the field is not required. -/
theorem ConfinesFor.atDepth {required : Bool} (h : ConfinesFor values required k t)
    (hx : t.Makes types x) :
    x.AtDepth (Value.IsAmong values) k ∨ required = false ∧ x = .null := by
  cases k with
  | succ k => exact .inl (Confines.atDepth (k := k + 1) h hx)
  | zero =>
    cases h
    cases required with
    | true => exact .inl hx.literal
    | false =>
      obtain ⟨o, ho, hox⟩ := hx.option
      rw [if_neg Bool.false_ne_true, optional_literal] at ho
      rcases List.mem_cons.1 ho with rfl | ho
      · exact .inl hox.literal
      · cases List.mem_singleton.1 ho
        exact .inr ⟨rfl, hox.null⟩

end FieldType

end ShapeSum
