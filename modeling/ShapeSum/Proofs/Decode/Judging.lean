import Mathlib.Data.List.Forall2
import ShapeSum.Proofs.Decode.Fields
import ShapeSum.Proofs.Decode.Selection
import ShapeSum.Proofs.Types.Settled

/-!
# How types take values

A judgement that takes a value can be read backwards.  A list is taken item by item
(`judgeItems_eq_ok_iff`), a choice takes what one of its options takes
(`exists_option_of_judgement`), and a union takes what the model of one of its variants
takes (`exists_matched_of_judgement`).
-/

namespace ShapeSum

variable {types : Types} {v : Value} {t : Taken}

/-! ## Parts -/

theorem exists_part_of_judgeParts {parts : List (String × String × Judgement)} {p : TakenParts}
    (h : judgeParts parts = .ok p) {q : String × Value} (hq : q ∈ p.values) :
    ∃ part ∈ parts, ∃ t, part.2.2 = .ok t ∧ q.2 = t.value := by
  induction parts generalizing p with
  | nil =>
    cases h
    cases hq
  | cons part rest ih =>
    obtain ⟨step, key, j⟩ := part
    obtain ⟨t, p', hj, hrest, hv⟩ := judgeParts_cons h
    rw [hv] at hq
    rcases List.mem_cons.1 hq with rfl | hq
    · exact ⟨_, List.mem_cons_self, t, hj, rfl⟩
    · obtain ⟨part, hpart, hp⟩ := ih hrest hq
      exact ⟨part, List.mem_cons_of_mem _ hpart, hp⟩

/-- A part of a list is one of its items, judged by the type of the items. -/
theorem exists_item_of_itemParts {item : FieldType} {start : Nat} {items : List Judge}
    {part : String × String × Judgement} (h : part ∈ itemParts item start items) :
    ∃ j ∈ items, part.2.2 = j item := by
  induction items generalizing start with
  | nil => cases h
  | cons j js ih =>
    rcases List.mem_cons.1 h with rfl | h
    · exact ⟨j, List.mem_cons_self, rfl⟩
    · obtain ⟨j', hj', hp⟩ := ih h
      exact ⟨j', List.mem_cons_of_mem _ hj', hp⟩

/-- What the fields of a model hold after an object was taken: each value is what the type of a
field made of an entry, under the name of the field. -/
theorem exists_field_of_judgeParts {entries : List (String × Judge)} {fields : List Field}
    {p : TakenParts} (h : judgeParts (fieldParts entries fields) = .ok p) {q : String × Value}
    (hq : q ∈ p.values) :
    ∃ e ∈ entries, ∃ f ∈ fields, ∃ t, f.name = q.1 ∧ e.2 f.type = .ok t ∧ q.2 = t.value := by
  induction fields generalizing p with
  | nil =>
    cases h
    cases hq
  | cons f fs ih =>
    have hrest {p : TakenParts} (h : judgeParts (fieldParts entries fs) = .ok p)
        (hq : q ∈ p.values) : ∃ e ∈ entries, ∃ g ∈ f :: fs, ∃ t, g.name = q.1 ∧
          e.2 g.type = .ok t ∧ q.2 = t.value := by
      obtain ⟨e, he, g, hg, ht⟩ := ih h hq
      exact ⟨e, he, g, List.mem_cons_of_mem _ hg, ht⟩
    unfold fieldParts at h
    split at h
    · rename_i key j hfind
      obtain ⟨t, p', ht, hp', hv⟩ := judgeParts_cons h
      rw [hv] at hq
      rcases List.mem_cons.1 hq with rfl | hq
      · exact ⟨(key, j), Entries.mem_of_get? (Field.find?_eq_some hfind).1, f,
          List.mem_cons_self, t, rfl, ht, rfl⟩
      · exact hrest hp' hq
    · split at h
      · obtain ⟨t, p', ht, -, -⟩ := judgeParts_cons h
        cases ht
      · exact hrest h hq

/-! ## Conversions -/

/-- Whether a mismatch is one between a value and the type of a scalar. -/
def Mismatch.isOfScalar : Mismatch → Bool
  | .text | .integer | .integerText | .fraction | .size | .notFinite => true
  | .number | .numberText | .boolean | .booleanLike | .literal _ => true
  | _ => false

namespace Convert

variable {m : Mismatch}

theorem isOfScalar_of_text (h : Convert.text v = .error m) : m.isOfScalar = true := by
  unfold Convert.text at h
  split at h <;> cases h
  rfl

theorem isOfScalar_of_integer (h : Convert.integer v = .error m) : m.isOfScalar = true := by
  unfold Convert.integer at h
  split at h
  · cases h
  · cases h
  · split at h
    · cases h
      rfl
    · split at h
      · cases h
        rfl
      · split at h <;> cases h
        rfl
  · split at h <;> cases h
    rfl
  · cases h
    rfl

theorem isOfScalar_of_number (h : Convert.number v = .error m) : m.isOfScalar = true := by
  unfold Convert.number at h
  split at h
  · split at h <;> cases h
    rfl
  · dsimp only at h
    split at h <;> cases h
    rfl
  · cases h
  · split at h
    · split at h <;> cases h
      rfl
    · cases h
      rfl
  · cases h
    rfl

theorem isOfScalar_of_truth (h : Convert.truth v = .error m) : m.isOfScalar = true := by
  unfold Convert.truth Convert.truthOfInt at h
  grind [Mismatch.isOfScalar]

theorem isOfScalar_of_literal {values : List Literal} (h : Convert.literal values v = .error m) :
    m.isOfScalar = true := by
  unfold Convert.literal at h
  grind [Mismatch.isOfScalar]

end Convert

/-! ## Options -/

/-- The best value is the best so far or comes from one of the options. -/
theorem of_chooseBest {best : Option Taken} {issues : List Issue} {js : List (String × Judgement)}
    {t : Taken} (h : chooseBest best issues js = .ok t) :
    best = some t ∨ ∃ q ∈ js, q.2 = .ok t := by
  induction js generalizing best issues with
  | nil =>
    unfold chooseBest at h
    split at h <;> cases h
    exact .inl rfl
  | cons q rest ih =>
    obtain ⟨label, j⟩ := q
    have hlater {best' : Option Taken} {issues' : List Issue}
        (h : chooseBest best' issues' rest = .ok t)
        (hb : best' = some t → best = some t ∨ j = .ok t) :
        best = some t ∨ ∃ q ∈ (label, j) :: rest, q.2 = .ok t := by
      rcases ih h with hbest | ⟨q, hq, hqt⟩
      · exact (hb hbest).imp id fun hj => ⟨_, List.mem_cons_self, hj⟩
      · exact .inr ⟨q, List.mem_cons_of_mem _ hq, hqt⟩
    unfold chooseBest at h
    split at h
    · rename_i t'
      split at h
      · exact .inr ⟨_, List.mem_cons_self, h⟩
      · split at h
        · exact hlater h fun hb => .inr (congrArg _ (Option.some.inj hb))
        · refine hlater h fun hb => ?_
          split at hb
          · exact .inr (congrArg _ (Option.some.inj hb))
          · exact .inl hb
    · split at h
      · cases h
      · exact hlater h .inl

theorem of_judgeChoice {js : List (String × Judgement)} {t : Taken} (h : judgeChoice js = .ok t) :
    ∃ q ∈ js, q.2 = .ok t := by
  unfold judgeChoice at h
  split at h
  · exact ⟨_, List.mem_singleton_self _, h⟩
  · exact (of_chooseBest h).resolve_left nofun

theorem mem_judgeOptions {parts : PartJudges} {options : List FieldType} {q : String × Judgement}
    (h : q ∈ judgeOptions types v parts options) : ∃ o ∈ options, q.2 = judge types v parts o := by
  induction options with
  | nil => cases h
  | cons o os ih =>
    unfold judgeOptions at h
    split at h
    · obtain ⟨o', ho', he⟩ := ih h
      exact ⟨o', List.mem_cons_of_mem _ ho', he⟩
    · rcases List.mem_cons.1 h with rfl | h
      · exact ⟨o, List.mem_cons_self, rfl⟩
      · obtain ⟨o', ho', he⟩ := ih h
        exact ⟨o', List.mem_cons_of_mem _ ho', he⟩

/-- A type takes a value as one of its options does. -/
theorem exists_option_of_judgement {type : FieldType} (h : judgement types v type = .ok t) :
    ∃ o ∈ type.options, judgement types v o = .ok t := by
  cases type with
  | choice os =>
    rw [judgement_eq] at h
    unfold judge at h
    split at h
    · rename_i hnull
      exact ⟨.null, FieldType.any_same_iff.1 hnull, h⟩
    · obtain ⟨q, hq, hqt⟩ := of_judgeChoice h
      obtain ⟨o, ho, he⟩ := mem_judgeOptions hq
      refine ⟨o, ho, ?_⟩
      rw [judgement_eq, ← he]
      exact hqt
  | _ => exact ⟨_, List.mem_singleton_self _, h⟩

/-- What a type takes, one that is no choice takes alike. -/
theorem exists_plain_of_judgement {type : FieldType} (h : judgement types v type = .ok t) :
    ∃ o : FieldType, o.isChoice = false ∧ judgement types v o = .ok t := by
  cases type with
  | choice os =>
    obtain ⟨o, ho, hot⟩ := exists_option_of_judgement h
    exact exists_plain_of_judgement hot
  | _ => exact ⟨_, rfl, h⟩
termination_by sizeOf type
decreasing_by
  subst_vars
  have hmem : o ∈ os := ho
  have hlt := List.sizeOf_lt_of_mem hmem
  rw [FieldType.choice.sizeOf_spec]
  omega

/-! ## Scalars -/

theorem of_judgeScalar {α : Type} {wrap : α → Value} {r : Except Mismatch (α × Exactness)}
    (h : judgeScalar wrap r = .ok t) : ∃ a e, r = .ok (a, e) ∧ t = ⟨wrap a, e, none⟩ := by
  unfold judgeScalar at h
  split at h <;> cases h
  exact ⟨_, _, rfl, rfl⟩

/-- Numbers that are taken are finite. -/
theorem isFinite_of_number {x : Binary64} {e : Exactness} (h : Convert.number v = .ok (x, e)) :
    x.isFinite = true := by
  cases v with
  | bool b =>
    cases h
    cases b <;> decide +kernel
  | int n =>
    unfold Convert.number at h
    dsimp only at h
    split at h <;> cases h
    assumption
  | float y =>
    unfold Convert.number at h
    dsimp only at h
    split at h <;> cases h
    assumption
  | str s =>
    unfold Convert.number at h
    dsimp only at h
    split at h
    · split at h <;> cases h
      assumption
    · cases h
  | _ => cases h

/-- A literal that is taken is one of the literals. -/
theorem mem_of_literal {values : List Literal} {l : Literal} {e : Exactness}
    (h : Convert.literal values v = .ok (l, e)) : l ∈ values := by
  unfold Convert.literal at h
  split at h
  · rename_i hl
    cases h
    exact List.mem_of_find?_eq_some hl
  · extract_lets hasInt huge at h
    split at h
    · cases h
    · split at h
      · rename_i hl
        cases h
        exact List.mem_reverse.1 (List.mem_of_find?_eq_some hl)
      · cases h

/-! ## Records and values of unions -/

/-- A model makes records. -/
theorem exists_record_of_judgeModel {id : TypeId} {v : Value} {parts : PartJudges}
    (h : judgeModel types id v parts = .ok t) : ∃ values, t.value = .record id values := by
  unfold judgeModel at h
  split at h
  · cases h
  · split at h
    · split at h <;> cases h
      rename_i he
      exact ⟨_, congrArg (Value.record · _) he⟩
    · unfold judgeFields at h
      split at h <;> cases h
      exact ⟨_, rfl⟩
    · cases h

/-- A union makes values of it. -/
theorem exists_choice_of_judgeUnion {id : TypeId} {v : Value} {parts : PartJudges}
    (h : judgeUnion types id v parts = .ok t) : ∃ tag payload, t.value = .choice id tag payload := by
  unfold judgeUnion at h
  dsimp only at h
  split at h
  · cases h
  · split at h
    · split at h <;> cases h
      rename_i he
      exact ⟨_, _, congrArg (Value.choice · _ _) he⟩
    · split at h <;> cases h
      exact ⟨_, _, rfl⟩
    · cases h

theorem exists_record_of_judgement {id : TypeId} {j : Json}
    (h : judgement types (.ofJson j) (.model id) = .ok t) :
    ∃ values, t.value = .record id values := by
  rw [judgement_model] at h
  exact exists_record_of_judgeModel h

/-! ## Lists -/

/-- Values taken one by one, together under some keys. -/
def TakenParts.ofKeys (keys : List String) (ts : List Taken) : TakenParts :=
  ⟨keys.zipWith (fun key t => (key, t.value)) ts,
    ts.foldr (fun t e => t.exactness.min e) .exact,
    ts.foldr (fun t n => Taken.addCounts t.fieldCount n) none⟩

/-- Parts are taken together when each of them is taken. -/
theorem judgeParts_eq_ok_iff {parts : List (String × String × Judgement)} {p : TakenParts} :
    judgeParts parts = .ok p ↔ ∃ ts, List.Forall₂ (fun q t => q.2.2 = .ok t) parts ts ∧
      p = .ofKeys (parts.map fun q => q.2.1) ts := by
  induction parts generalizing p with
  | nil => simp [judgeParts, TakenParts.ofKeys, eq_comm]
  | cons q rest ih =>
    obtain ⟨step, key, j⟩ := q
    rw [judgeParts_cons_eq_ok_iff]
    constructor
    · rintro ⟨t, p', hj, hp', rfl⟩
      obtain ⟨ts, hts, rfl⟩ := ih.1 hp'
      exact ⟨t :: ts, .cons hj hts, rfl⟩
    · rintro ⟨_, hts, rfl⟩
      cases hts with
      | cons hj hts => exact ⟨_, _, hj, ih.2 ⟨_, hts, rfl⟩, rfl⟩

theorem forall₂_itemParts_iff {item : FieldType} {start : Nat} {items : List Judge}
    {ts : List Taken} :
    List.Forall₂ (fun q t => q.2.2 = .ok t) (itemParts item start items) ts ↔
      List.Forall₂ (fun j t => j item = .ok t) items ts := by
  induction items generalizing start ts with
  | nil => simp [itemParts]
  | cons j js ih => simp [itemParts, List.forall₂_cons_left_iff, ih]

/-- Items taken one by one, as one value. -/
def Taken.ofItems (wrap : List Value → Value) (least : Exactness) (ts : List Taken) : Taken :=
  ⟨wrap (ts.map Taken.value), least.min (ts.foldr (fun t e => t.exactness.min e) .exact),
    ts.foldr (fun t n => Taken.addCounts t.fieldCount n) none⟩

/-- A list is taken when each item is. -/
theorem judgeItems_eq_ok_iff {wrap : List Value → Value} {least : Exactness} {item : FieldType}
    {items : List Judge} : judgeItems wrap least item items = .ok t ↔
      ∃ ts, List.Forall₂ (fun j t => j item = .ok t) items ts ∧ t = .ofItems wrap least ts := by
  have hvalues {ts : List Taken} (h : List.Forall₂ (fun j t => j item = .ok t) items ts) :
      (((itemParts item 0 items).map fun q => q.2.1).zipWith
        (fun key t => (key, t.value)) ts).map Prod.snd = ts.map Taken.value := by
    generalize 0 = start
    induction h generalizing start with
    | nil => rfl
    | cons _ _ ih => simp [itemParts, ih]
  unfold judgeItems
  constructor
  · intro h
    cases hp : judgeParts (itemParts item 0 items) with
    | error is =>
      rw [hp] at h
      cases h
    | ok p =>
      rw [hp] at h
      obtain ⟨ts, hts, rfl⟩ := judgeParts_eq_ok_iff.1 hp
      rw [forall₂_itemParts_iff] at hts
      cases h
      exact ⟨ts, hts, by simp only [TakenParts.ofKeys, Taken.ofItems, hvalues hts]⟩
  · rintro ⟨ts, hts, rfl⟩
    rw [judgeParts_eq_ok_iff.2 ⟨ts, forall₂_itemParts_iff.2 hts, rfl⟩]
    simp only [Except.map, TakenParts.ofKeys, Taken.ofItems, hvalues hts]

/-- A list of JSON values is taken when each of them is. -/
theorem judgeItems_ofItems_eq_ok_iff {wrap : List Value → Value} {least : Exactness}
    {item : FieldType} {items : List Json} :
    judgeItems wrap least item (itemJudgements types (Value.ofItems items)) = .ok t ↔
      ∃ ts, List.Forall₂ (fun x t => judgement types (.ofJson x) item = .ok t) items ts ∧
        t = .ofItems wrap least ts := by
  rw [judgeItems_eq_ok_iff, itemJudgements_eq_map, Value.ofItems_eq_map, List.map_map]
  simp only [List.forall₂_map_left_iff]
  rfl

/-! ## Unions -/

theorem mem_of_select {keys : List String} {variants : List Variant} {w : Variant}
    (h : (select keys variants).2 = some w) : w ∈ variants := by
  induction variants with
  | nil => cases h
  | cons v vs ih =>
    unfold select at h
    split at h
    · exact List.mem_cons_of_mem _ (ih h)
    · cases h
      exact List.mem_cons_self

theorem dispatchOver_eq_matched_iff {variants : List Variant} {keys : List String}
    {made : Variant → Except DecodeError Value} {w : Variant} {payload : Value} :
    (dispatchOver variants keys made).outcome = .matched w payload ↔
      (select (sortedNames keys) variants).2 = some w ∧ made w = .ok payload := by
  unfold dispatchOver
  dsimp only
  cases (select (sortedNames keys) variants).2 with
  | none => simp
  | some v =>
    rw [Option.some.injEq]
    constructor
    · intro h
      dsimp only at h
      split at h
      · rename_i a hv
        cases h
        exact ⟨rfl, hv⟩
      · cases h
    · rintro ⟨rfl, hw⟩
      dsimp only
      rw [hw]

theorem dispatchOver_eq_failed_iff {variants : List Variant} {keys : List String}
    {made : Variant → Except DecodeError Value} {w : Variant} {e : DecodeError} :
    (dispatchOver variants keys made).outcome = .failed w e ↔
      (select (sortedNames keys) variants).2 = some w ∧ made w = .error e := by
  unfold dispatchOver
  dsimp only
  cases (select (sortedNames keys) variants).2 with
  | none => simp
  | some v =>
    rw [Option.some.injEq]
    constructor
    · intro h
      dsimp only at h
      split at h
      · cases h
      · rename_i e hv
        cases h
        exact ⟨rfl, hv⟩
    · rintro ⟨rfl, hw⟩
      dsimp only
      rw [hw]

/-- What a dispatch matched is a record of the model of a variant. -/
theorem exists_record_of_dispatchWith {u : UnionType} {v : Value} {parts : PartJudges} {w : Variant}
    {payload : Value} (h : (dispatchWith types u v parts).outcome = .matched w payload) :
    w ∈ u.variants ∧ ∃ values, payload = .record w.type values := by
  obtain ⟨hselect, hmade⟩ := dispatchOver_eq_matched_iff.1 h
  refine ⟨(List.mem_filter.1 (mem_of_select hselect)).1, ?_⟩
  unfold materializeWith at hmade
  split at hmade
  · split at hmade
    · rename_i t ht
      cases hmade
      exact exists_record_of_judgeModel ht
    · split at hmade <;> cases hmade
  · cases hmade

/-- What a dispatch matched is what the model of the variant makes of the object. -/
theorem materialize_of_matched {u : UnionType} {entries : List (String × Value)} {v : Variant}
    {payload : Value} (h : (dispatch types u entries).outcome = .matched v payload) :
    materialize types v.type (.dict entries) = .ok payload := by
  rw [dispatch_eq] at h
  exact (dispatchOver_eq_matched_iff.1 h).2

/-- A union takes an object that a dispatch matches. -/
theorem judgement_union_of_matched {id : TypeId} {u : UnionType} {members : Entries Json}
    {w : Variant} {payload : Value} (hu : types.union? id = some u)
    (hd : (dispatch types u (Value.ofMembers members)).outcome = .matched w payload) :
    judgement types (.ofJson (.obj members)) (.union id) =
      .ok (.exact (.choice id w.tag payload)) := by
  rw [judgement_eq]
  unfold judge judgeUnion
  rw [hu]
  dsimp only [Value.ofJson]
  unfold dispatch at hd
  rw [hd]

/-- It takes nothing else. -/
theorem exists_matched_of_judgement {id : TypeId} {j : Json}
    (h : judgement types (.ofJson j) (.union id) = .ok t) :
    ∃ u members w payload, types.union? id = some u ∧ j = .obj members ∧
      (dispatch types u (Value.ofMembers members)).outcome = .matched w payload ∧
      t = .exact (.choice id w.tag payload) := by
  rw [judgement_eq] at h
  unfold judge judgeUnion at h
  dsimp only at h
  cases hu : types.union? id with
  | none =>
    rw [hu] at h
    cases h
  | some u =>
    rw [hu] at h
    cases j with
    | obj members =>
      dsimp only [Value.ofJson] at h
      split at h
      · rename_i w payload hd
        cases h
        exact ⟨u, members, w, payload, rfl, rfl, hd, rfl⟩
      · cases h
      · cases h
      · cases h
    | _ => cases h

end ShapeSum
