import ShapeSum.Proofs.Decode.Choosing
import ShapeSum.Proofs.Decode.Returning
import ShapeSum.Proofs.Schema.Reach
import ShapeSum.Proofs.Types.Apart

/-!
# Decoding the parts of what was dumped

A type *repeats* at a JSON value when it takes the dump of whatever it makes of it, and
makes the same of it again when the JSON value is finite (`FieldType.RepeatsAt`).  A scalar
is dumped as a scalar of its own kind, which is taken exactly the second time, and lists and
records are taken part by part.

Infinities do not come back, for they are dumped as null (`Json.redump`).  And a field that
is found under its attribute is dumped under its property.  So it must not be another
field's property that it is found under, or that another field is found under then
(`Value.straysNowhere`).
-/

namespace ShapeSum

variable {types : Types} {t : Taken} {type : FieldType} {j : Json}

/-! ## Finite data -/

namespace Json

mutual

/-- Whether all doubles in a value are finite. -/
def isFinite : Json → Bool
  | .float x => x.isFinite
  | .arr items => itemsAreFinite items
  | .obj members => membersAreFinite members
  | _ => true

/-- `isFinite` on all items. -/
def itemsAreFinite : List Json → Bool
  | [] => true
  | x :: xs => isFinite x && itemsAreFinite xs

/-- `isFinite` on all members. -/
def membersAreFinite : List (String × Json) → Bool
  | [] => true
  | (_, x) :: ms => isFinite x && membersAreFinite ms

end

theorem itemsAreFinite_iff {items : List Json} :
    itemsAreFinite items = true ↔ ∀ x ∈ items, x.isFinite = true := by
  induction items with
  | nil => simp [itemsAreFinite]
  | cons x xs ih => rw [itemsAreFinite, Bool.and_eq_true, ih, List.forall_mem_cons]

theorem membersAreFinite_iff {members : List (String × Json)} :
    membersAreFinite members = true ↔ ∀ p ∈ members, p.2.isFinite = true := by
  induction members with
  | nil => simp [membersAreFinite]
  | cons p ms ih => rw [membersAreFinite, Bool.and_eq_true, ih, List.forall_mem_cons]

end Json

mutual

/-- Finite data is dumped as it is. -/
theorem toJson_ofJson (j : Json) (h : j.isFinite = true) :
    (Value.ofJson j).toJson types .set = j := by
  cases j with
  | float x => exact if_pos h
  | arr items => exact congrArg Json.arr (itemsToJson_ofItems items h)
  | obj members => exact congrArg Json.obj (entriesToJson_ofMembers members h)
  | _ => rfl

theorem itemsToJson_ofItems (items : List Json) (h : Json.itemsAreFinite items = true) :
    Value.itemsToJson types .set (Value.ofItems items) = items := by
  cases items with
  | nil => rfl
  | cons x xs =>
    rw [Json.itemsAreFinite, Bool.and_eq_true] at h
    exact congrArg₂ List.cons (toJson_ofJson x h.1) (itemsToJson_ofItems xs h.2)

theorem entriesToJson_ofMembers (members : List (String × Json))
    (h : Json.membersAreFinite members = true) :
    Value.entriesToJson types .set (Value.ofMembers members) = members := by
  cases members with
  | nil => rfl
  | cons p ms =>
    obtain ⟨k, x⟩ := p
    rw [Json.membersAreFinite, Bool.and_eq_true] at h
    exact congrArg₂ List.cons (congrArg (k, ·) (toJson_ofJson x h.1))
      (entriesToJson_ofMembers ms h.2)

end

/-- What is dumped for data that was decoded as it is. -/
def Json.redump (types : Types) (j : Json) : Json := (Value.ofJson j).toJson types .set

theorem Json.redump_arr (items : List Json) :
    (Json.arr items).redump types = .arr (items.map (Json.redump types)) := by
  refine congrArg Json.arr ?_
  rw [Value.itemsToJson_eq_map, Value.ofItems_eq_map, List.map_map]
  rfl

theorem Json.redump_obj (members : Entries Json) :
    (Json.obj members).redump types =
      .obj (members.map fun p => (p.1, p.2.redump types)) := by
  refine congrArg Json.obj ?_
  rw [Value.entriesToJson_eq_map, Value.ofMembers_eq_map, List.map_map]
  rfl

/-! ## Fields that stray -/

/-- A field strays in an object: its property is missing, and its attribute is the property of a
field that finds an entry. -/
def Field.strays (f : Field) (fields : List Field) (members : Entries Json) : Bool :=
  !Entries.has members f.property &&
    fields.any fun g => g.property == f.name && (g.find? members).isSome

namespace Value

/-- Whether every field of a record finds its entries under its own property. -/
def isPlainlyNamed (types : Types) : Value → Json → Bool
  | .record id _, .obj members => decide (∀ f ∈ types.fieldsOf id, ¬f.Borrows members)
  | _, _ => true

mutual

/-- Whether no field of a record in a value strays in the object that the record was made from, and
every field of a payload found its entry under its own property. -/
def straysNowhere (types : Types) : Value → Json → Bool
  | .list vs, .arr js => itemsStrayNowhere types vs js
  | .tuple vs, .arr js => itemsStrayNowhere types vs js
  | .record id values, .obj members =>
    (types.fieldsOf id).all (!·.strays (types.fieldsOf id) members) &&
      fieldsStrayNowhere types (types.fieldsOf id) members values
  | .choice _ _ payload, j => payload.isPlainlyNamed types j && straysNowhere types payload j
  | _, _ => true

/-- `straysNowhere` on items. -/
def itemsStrayNowhere (types : Types) : List Value → List Json → Bool
  | v :: vs, j :: js => straysNowhere types v j && itemsStrayNowhere types vs js
  | _, _ => true

/-- `straysNowhere` on the values of fields and the entries that the fields found. -/
def fieldsStrayNowhere (types : Types) (fields : List Field) (members : Entries Json) :
    List (String × Value) → Bool
  | [] => true
  | (n, v) :: rest =>
    (((fields.find? (·.name == n)).bind (·.find? members)).all fun p =>
      straysNowhere types v p.2) && fieldsStrayNowhere types fields members rest

end

end Value

/-! ## Types that repeat -/

/-- What a type takes is dumped as something that it takes as well, and of finite data it makes the
same again. -/
def FieldType.RepeatsAt (type : FieldType) (types : Types) (j : Json) : Prop :=
  ∀ t, judgement types (.ofJson j) type = .ok t → t.value.straysNowhere types j = true →
    ∃ t', judgement types (.ofJson (t.value.toJson types .set)) type = .ok t' ∧
      (j.isFinite = true → t.Repeats t')

/-- A type repeats where the dump is the data. -/
theorem repeats_of_dump_eq (ht : judgement types (.ofJson j) type = .ok t)
    (h : t.value.toJson types .set = j) :
    ∃ t', judgement types (.ofJson (t.value.toJson types .set)) type = .ok t' ∧
      (j.isFinite = true → t.Repeats t') :=
  ⟨t, h.symm ▸ ht, fun _ => t.repeats_refl⟩

/-! ### Scalars -/

/-- Whether a type is for scalars. -/
def FieldType.isScalar : FieldType → Bool
  | .text => true
  | .integer => true
  | .number => true
  | .boolean => true
  | .null => true
  | .literal _ => true
  | _ => false

theorem Convert.eq_of_matchesLiteral {l : Literal} {v : Value}
    (h : Convert.matchesLiteral l v = true) : Value.ofLiteral l = v := by
  unfold Convert.matchesLiteral at h
  split at h <;> simp_all [Value.ofLiteral]

theorem Convert.matchesLiteral_ofLiteral (l : Literal) :
    Convert.matchesLiteral l (Value.ofLiteral l) = true := by
  cases l <;> simp [Convert.matchesLiteral, Value.ofLiteral]

/-- A literal is taken exactly by the literals that it is one of. -/
theorem Convert.literal_ofLiteral {values : List Literal} {l : Literal} (h : l ∈ values) :
    Convert.literal values (Value.ofLiteral l) = .ok (l, .exact) := by
  have hfound : (values.find? (Convert.matchesLiteral · (Value.ofLiteral l))).isSome = true :=
    List.find?_isSome.2 ⟨l, h, Convert.matchesLiteral_ofLiteral l⟩
  obtain ⟨l', hl'⟩ := Option.isSome_iff_exists.1 hfound
  have hmatches : Convert.matchesLiteral l' (Value.ofLiteral l) = true :=
    List.find?_some (p := (Convert.matchesLiteral · (Value.ofLiteral l))) hl'
  have hsame : l' = l := by
    have hv := Convert.eq_of_matchesLiteral hmatches
    cases l <;> cases l' <;> cases hv <;> rfl
  unfold Convert.literal
  rw [hl', hsame]

section Exact

variable {v : Value}

theorem Convert.value_of_integer {n : Int} {e : Exactness} (h : Convert.integer v = .ok (n, e))
    (he : e = .exact) : .int n = v := by
  subst he
  unfold Convert.integer at h
  split at h
  · cases h
    rfl
  · cases h
  · split at h
    · cases h
    · split at h
      · cases h
      · split at h <;> cases h
  · split at h <;> cases h
  · cases h

theorem Convert.value_of_number {x : Binary64} {e : Exactness} (h : Convert.number v = .ok (x, e))
    (he : e = .exact) : .float x = v := by
  subst he
  unfold Convert.number at h
  split at h
  · split at h
    · cases h
      rfl
    · cases h
  · dsimp only at h
    split at h <;> cases h
  · cases h
  · split at h
    · split at h <;> cases h
    · cases h
  · cases h

theorem Convert.value_of_truth {b : Bool} {e : Exactness} (h : Convert.truth v = .ok (b, e))
    (he : e = .exact) : .bool b = v := by
  have hint {n : Int} (h : Convert.truthOfInt n = .ok (b, e)) : e = .lax := by
    unfold Convert.truthOfInt at h
    split at h
    · cases h
      rfl
    · split at h
      · cases h
        rfl
      · split at h <;> cases h
  subst he
  unfold Convert.truth at h
  split at h
  · cases h
    rfl
  · split at h <;> cases h
  · cases hint h
  · split at h
    · cases hint h
    · cases h
  · cases h

/-- Null is taken only for the literal null. -/
theorem Convert.eq_null_of_literal {values : List Literal} {l : Literal} {e : Exactness}
    (h : Convert.literal values .null = .ok (l, e)) : l = .null := by
  unfold Convert.literal at h
  split at h
  · rename_i hl
    cases h
    have hmatches : Convert.matchesLiteral l .null = true :=
      List.find?_some (p := (Convert.matchesLiteral · .null)) hl
    cases l <;> first | rfl | cases hmatches
  · extract_lets hasInt huge at h
    split at h
    · cases h
    · split at h
      · rename_i hl
        cases h
        have hequals : Convert.equalsLiteral l .null = true :=
          List.find?_some (p := (Convert.equalsLiteral · .null)) hl
        cases l <;> first | rfl | cases hequals
      · cases h

end Exact

theorem ofJson_toJson_ofLiteral (l : Literal) :
    Value.ofJson ((Value.ofLiteral l).toJson types .set) = Value.ofLiteral l := by
  cases l <;> rfl

/-- A scalar is dumped as one that its type takes exactly. -/
theorem judgement_dump_of_isScalar (hscalar : type.isScalar = true)
    (ht : judgement types (.ofJson j) type = .ok t) :
    judgement types (.ofJson (t.value.toJson types .set)) type = .ok (.exact t.value) ∧
      t.fieldCount = none := by
  rw [judgement_eq] at ht ⊢
  cases type with
  | text =>
    rw [judge] at ht
    obtain ⟨s, e, -, rfl⟩ := of_judgeScalar ht
    exact ⟨rfl, rfl⟩
  | integer =>
    rw [judge] at ht
    obtain ⟨n, e, -, rfl⟩ := of_judgeScalar ht
    exact ⟨rfl, rfl⟩
  | number =>
    rw [judge] at ht
    obtain ⟨x, e, hx, rfl⟩ := of_judgeScalar ht
    have hfinite := isFinite_of_number hx
    rw [Value.toJson, if_pos hfinite, Value.ofJson, judge, Convert.number, if_pos hfinite]
    exact ⟨rfl, rfl⟩
  | boolean =>
    rw [judge] at ht
    obtain ⟨b, e, -, rfl⟩ := of_judgeScalar ht
    exact ⟨rfl, rfl⟩
  | null =>
    unfold judge at ht
    split at ht <;> cases ht
    exact ⟨rfl, rfl⟩
  | literal values =>
    rw [judge] at ht
    obtain ⟨l, e, hl, rfl⟩ := of_judgeScalar ht
    dsimp only
    rw [ofJson_toJson_ofLiteral, judge, Convert.literal_ofLiteral (mem_of_literal hl)]
    exact ⟨rfl, rfl⟩
  | _ => cases hscalar

theorem repeatsAt_of_isScalar (hscalar : type.isScalar = true) : type.RepeatsAt types j := by
  intro t ht _
  obtain ⟨hdump, hcount⟩ := judgement_dump_of_isScalar hscalar ht
  exact ⟨_, hdump, fun _ => t.repeats_exact hcount⟩

/-! ### Data of any kind -/

theorem repeatsAt_any : FieldType.any.RepeatsAt types j := by
  have hany (j : Json) : judgement types (.ofJson j) .any = .ok ⟨.ofJson j, .lax, none⟩ := by
    rw [judgement_eq, judge]
  intro t ht _
  cases (hany j).symm.trans ht
  refine ⟨_, hany _, fun hj => ?_⟩
  rw [toJson_ofJson j hj]
  exact Taken.repeats_refl _

/-- What the type for objects takes is the data. -/
theorem value_of_object {v : Value} (h : judgement types v .object = .ok t) :
    t.value = v ∧ t.fieldCount = none := by
  rw [judgement_eq] at h
  unfold judge at h
  split at h <;> cases h <;> exact ⟨rfl, rfl⟩

theorem repeatsAt_object : FieldType.object.RepeatsAt types j := by
  intro t ht _
  rw [(value_of_object ht).1]
  cases j with
  | obj members =>
    have hagain : ∃ t', judgement types (.ofJson ((Json.obj members).redump types)) .object =
        .ok t' := by
      rw [Json.redump_obj, judgement_eq]
      cases members <;> exact ⟨_, rfl⟩
    obtain ⟨t', ht'⟩ := hagain
    refine ⟨t', ht', fun hj => ?_⟩
    rw [Json.redump, toJson_ofJson _ hj] at ht'
    cases ht.symm.trans ht'
    exact t.repeats_refl
  | _ =>
    rw [judgement_eq] at ht
    cases ht

/-! ### Lists -/

theorem Exactness.rank_min_le {a a' b b' : Exactness} (ha : a.rank ≤ a'.rank)
    (hb : b.rank ≤ b'.rank) : (a.min b).rank ≤ (a'.min b').rank := by
  unfold Exactness.min
  split <;> split <;> omega

/-- Items that are taken again make a list that is taken again. -/
theorem Taken.Repeats.ofItems {wrap : List Value → Value} {least : Exactness}
    {ts ts' : List Taken} (h : List.Forall₂ Taken.Repeats ts ts') :
    (Taken.ofItems wrap least ts).Repeats (.ofItems wrap least ts') := by
  have hitems : ts'.map Taken.value = ts.map Taken.value ∧
      (ts.foldr (fun (t : Taken) e => t.exactness.min e) Exactness.exact).rank ≤
        (ts'.foldr (fun (t : Taken) e => t.exactness.min e) Exactness.exact).rank ∧
      ts'.foldr (fun t n => Taken.addCounts t.fieldCount n) none =
        ts.foldr (fun t n => Taken.addCounts t.fieldCount n) none := by
    induction h with
    | nil => exact ⟨rfl, Nat.le_refl _, rfl⟩
    | cons ht _ ih =>
      obtain ⟨hvalues, hrank, hcount⟩ := ih
      refine ⟨?_, Exactness.rank_min_le ht.rank hrank, ?_⟩
      · rw [List.map_cons, List.map_cons, ht.value, hvalues]
      · rw [List.foldr_cons, List.foldr_cons, ht.count, hcount]
  exact ⟨congrArg wrap hitems.1, Exactness.rank_min_le (Nat.le_refl _) hitems.2.1, hitems.2.2⟩

/-- A list is taken again when its items are, and in the same way when they are finite. -/
theorem repeats_items {item : FieldType} {items : List Json} {ts : List Taken}
    (hitem : ∀ x ∈ items, item.RepeatsAt types x)
    (hts : List.Forall₂ (fun x t => judgement types (.ofJson x) item = .ok t) items ts)
    (hs : Value.itemsStrayNowhere types (ts.map Taken.value) items = true)
    (wrap : List Value → Value) (least : Exactness) :
    ∃ t', judgeItems wrap least item (itemJudgements types (Value.ofItems
        (Value.itemsToJson types .set (ts.map Taken.value)))) = .ok t' ∧
      ((Json.arr items).isFinite = true → (Taken.ofItems wrap least ts).Repeats t') := by
  obtain ⟨ts', hts', hrepeats⟩ : ∃ ts', List.Forall₂ (fun t t' =>
      judgement types (.ofJson (t.value.toJson types .set)) item = .ok t') ts ts' ∧
      (Json.itemsAreFinite items = true → List.Forall₂ Taken.Repeats ts ts') := by
    induction hts with
    | nil => exact ⟨[], .nil, fun _ => .nil⟩
    | @cons x t xs ts hx _ ih =>
      rw [List.map_cons, Value.itemsStrayNowhere, Bool.and_eq_true] at hs
      obtain ⟨t', ht', hr⟩ := hitem x List.mem_cons_self t hx hs.1
      obtain ⟨ts', hts', hrs⟩ := ih (fun x hx => hitem x (List.mem_cons_of_mem _ hx)) hs.2
      refine ⟨t' :: ts', .cons ht' hts', fun hfinite => ?_⟩
      rw [Json.itemsAreFinite, Bool.and_eq_true] at hfinite
      exact .cons (hr hfinite.1) (hrs hfinite.2)
  refine ⟨_, judgeItems_ofItems_eq_ok_iff.2 ⟨ts', ?_, rfl⟩,
    fun hfinite => .ofItems (hrepeats hfinite)⟩
  rw [Value.itemsToJson_eq_map, List.map_map, List.forall₂_map_left_iff]
  exact hts'

theorem judgement_list (types : Types) (item : FieldType) (items : List Json) :
    judgement types (.ofJson (.arr items)) (.list item) =
      judgeItems .list .exact item (itemJudgements types (Value.ofItems items)) := by
  rw [judgement_eq]
  unfold judge
  rfl

theorem judgement_tuple (types : Types) (item : FieldType) (items : List Json) :
    judgement types (.ofJson (.arr items)) (.tuple item) =
      judgeItems .tuple .lax item (itemJudgements types (Value.ofItems items)) := by
  rw [judgement_eq]
  unfold judge
  rfl

theorem repeatsAt_list {item : FieldType} {items : List Json}
    (hitem : ∀ x ∈ items, item.RepeatsAt types x) :
    (FieldType.list item).RepeatsAt types (.arr items) := by
  intro t ht hs
  rw [judgement_list] at ht
  obtain ⟨ts, hts, rfl⟩ := judgeItems_ofItems_eq_ok_iff.1 ht
  obtain ⟨t', ht', hr⟩ := repeats_items hitem hts hs .list .exact
  exact ⟨t', ht', hr⟩

theorem repeatsAt_tuple {item : FieldType} {items : List Json}
    (hitem : ∀ x ∈ items, item.RepeatsAt types x) :
    (FieldType.tuple item).RepeatsAt types (.arr items) := by
  intro t ht hs
  rw [judgement_tuple] at ht
  obtain ⟨ts, hts, rfl⟩ := judgeItems_ofItems_eq_ok_iff.1 ht
  obtain ⟨t', ht', hr⟩ := repeats_items hitem hts hs .tuple .lax
  exact ⟨t', ht', hr⟩

/-! ### Records -/

/-- In the dump of a record, the property of a field has what the field has. -/
theorem get?_dumpFields {fields : List Field} {dumped : List (String × Json)} {f : Field}
    (hn : (fields.map Field.property).Nodup) (hf : f ∈ fields) :
    Entries.get? (Value.dumpFields fields .set dumped) f.property =
      Entries.get? dumped f.name := by
  have hsame {x : Json} (h : Entries.get? (Value.dumpFields fields .set dumped) f.property =
      some x) : Entries.get? dumped f.name = some x := by
    obtain ⟨g, hg, hproperty, hx⟩ := exists_field_of_dumpFields h
    cases List.inj_on_of_nodup_map hn hg hf hproperty
    exact hx
  cases hget : Entries.get? (Value.dumpFields fields .set dumped) f.property with
  | some x => exact (hsame hget).symm
  | none =>
    cases hx : Entries.get? dumped f.name with
    | none => rfl
    | some x =>
      have hhas := has_dumpFields hf (by rw [Entries.has, hx]; rfl)
      rw [Entries.has, hget] at hhas
      cases hhas

/-- The value of a field strays nowhere if no field of its record does. -/
theorem straysNowhere_of_field {fields : List Field} {members : Entries Json}
    {values : List (String × Value)} (hn : (fields.map Field.name).Nodup)
    (h : Value.fieldsStrayNowhere types fields members values = true) {f : Field} (hf : f ∈ fields)
    {key : String} {x : Json} (hfind : f.find? members = some (key, x)) {v : Value}
    (hv : Entries.get? values f.name = some v) : v.straysNowhere types x = true := by
  induction values with
  | nil => cases hv
  | cons p rest ih =>
    obtain ⟨n, w⟩ := p
    rw [Value.fieldsStrayNowhere, Bool.and_eq_true] at h
    rw [Entries.get?] at hv
    split at hv
    · rename_i hname
      cases hv
      have hfound : fields.find? (·.name == n) = some f := by
        have hsome : (fields.find? (·.name == n)).isSome = true :=
          List.find?_isSome.2 ⟨f, hf, beq_iff_eq.2 hname.symm⟩
        obtain ⟨g, hg⟩ := Option.isSome_iff_exists.1 hsome
        have hgn : (g.name == n) = true := List.find?_some (p := fun g : Field => g.name == n) hg
        rw [hg, List.inj_on_of_nodup_map hn (List.mem_of_find?_eq_some hg) hf
          ((beq_iff_eq.1 hgn).trans hname)]
      have hall := h.1
      rw [hfound, Option.bind_some, hfind, Option.all_some] at hall
      exact hall
    · exact ih h.2 hv

/-- A field finds entries in both of two objects or in none, and when it takes that of the first
object, it takes that of the second one, under a condition in the same way. -/
def Field.TakesAgain (f : Field) (same : Prop) (entries entries' : List (String × Judge)) : Prop :=
  f.find? entries = none ∧ f.find? entries' = none ∨
    ∃ key j key' j', f.find? entries = some (key, j) ∧ f.find? entries' = some (key', j') ∧
      ∀ t, j f.type = .ok t → ∃ t', j' f.type = .ok t' ∧ (same → t.Repeats t')

/-- Fields that find entries that are taken again make a record again. -/
theorem judgeParts_repeats {fields : List Field} {same : Prop}
    {entries entries' : List (String × Judge)} {p : TakenParts}
    (h : ∀ f ∈ fields, f.TakesAgain same entries entries')
    (hp : judgeParts (fieldParts entries fields) = .ok p) :
    ∃ p', judgeParts (fieldParts entries' fields) = .ok p' ∧
      (same → p'.values = p.values ∧ p'.fieldCount = p.fieldCount) := by
  induction fields generalizing p with
  | nil => exact ⟨p, hp, fun _ => ⟨rfl, rfl⟩⟩
  | cons f fields ih =>
    have hrest := fun f hf => h f (List.mem_cons_of_mem _ hf)
    unfold fieldParts at hp ⊢
    rcases h f List.mem_cons_self with ⟨hnone, hnone'⟩ | ⟨key, j, key', j', hfind, hfind', hj⟩
    · rw [hnone] at hp
      rw [hnone']
      dsimp only at hp ⊢
      split at hp
      · obtain ⟨t, p', ht, -, -⟩ := judgeParts_cons hp
        cases ht
      · rename_i hrequired
        rw [if_neg hrequired]
        exact ih hrest hp
    · rw [hfind] at hp
      rw [hfind']
      obtain ⟨t, q, ht, hq, rfl⟩ := judgeParts_cons_eq_ok_iff.1 hp
      obtain ⟨t', ht', hr⟩ := hj t ht
      obtain ⟨q', hq', hsame⟩ := ih hrest hq
      refine ⟨_, judgeParts_cons_eq_ok_iff.2 ⟨t', q', ht', hq', rfl⟩, fun hs => ?_⟩
      obtain ⟨hvalues, hcount⟩ := hsame hs
      rw [hvalues, hcount, (hr hs).value, (hr hs).count]
      exact ⟨rfl, rfl⟩

/-- What a field finds in the dump of a record: its own value under its property. -/
theorem find?_dumpFields {fields : List Field} {members : Entries Json}
    {values : List (String × Value)} (hn : (fields.map Field.property).Nodup)
    (htaken : FieldsTaken (entryJudgements types (Value.ofMembers members)) fields values)
    (hstrays : ∀ f ∈ fields, f.strays fields members = false) {f : Field} (hf : f ∈ fields) :
    f.find? (Value.dumpFields fields .set (Value.entriesToJson types .set values)) =
      (Entries.get? values f.name).map fun v => (f.property, v.toJson types .set) := by
  unfold Field.find?
  rw [get?_dumpFields hn hf, Value.get?_entriesToJson]
  cases hget : Entries.get? values f.name with
  | some v => rfl
  | none =>
    -- A field that has nothing finds nothing under its attribute either, or it would stray.
    rw [Option.map_none, Option.map_none, Option.map_eq_none_iff]
    cases hname : Entries.get? (Value.dumpFields fields .set
        (Value.entriesToJson types .set values)) f.name with
    | none => rfl
    | some x =>
      obtain ⟨g, hg, hproperty, hx⟩ := exists_field_of_dumpFields hname
      have hfound : (g.find? members).isSome = true := by
        have hhas := htaken.has_name hg
        rw [Field.find?_entryJudgements, Option.isSome_map, Entries.has] at hhas
        rw [Value.get?_entriesToJson, Option.map_eq_some_iff] at hx
        obtain ⟨v, hv, -⟩ := hx
        rw [← hhas, hv]
        rfl
      have hmissing : Entries.has members f.property = false := by
        have hhas := htaken.has_name hf
        rw [Field.find?_entryJudgements, Option.isSome_map, Entries.has, hget,
          Field.isSome_find?] at hhas
        exact (Bool.or_eq_false_iff.1 hhas.symm).1
      have hstray := hstrays f hf
      rw [Field.strays, hmissing, Bool.not_false, Bool.true_and] at hstray
      have hany : (fields.any fun g => g.property == f.name && (g.find? members).isSome) = true :=
        List.any_eq_true.2 ⟨g, hg, by rw [hproperty, beq_self_eq_true, hfound]; rfl⟩
      rw [hany] at hstray
      cases hstray

/-- A field that found an entry finds one in the dump that is taken again. -/
theorem repeats_of_find? {m : Model} (hc : m.Clear) {members : Entries Json}
    {values : List (String × Value)}
    (htaken : FieldsTaken (entryJudgements types (Value.ofMembers members)) m.fields values)
    (hstrays : ∀ f ∈ m.fields, f.strays m.fields members = false)
    (hinside : Value.fieldsStrayNowhere types m.fields members values = true)
    (hmembers : ∀ p ∈ members, ∀ type : FieldType, type.Apart → type.RepeatsAt types p.2)
    {f : Field} (hf : f ∈ m.fields) :
    f.TakesAgain ((Json.obj members).isFinite = true)
      (entryJudgements types (Value.ofMembers members)) (entryJudgements types (Value.ofMembers
        (Value.dumpFields m.fields .set (Value.entriesToJson types .set values)))) := by
  unfold Field.TakesAgain
  have hfound := htaken.found f hf
  have habsent := htaken.absent f hf
  rw [Field.find?_entryJudgements] at hfound habsent
  rw [Field.find?_entryJudgements, Field.find?_entryJudgements,
    find?_dumpFields hc.properties htaken hstrays hf]
  cases hmember : f.find? members with
  | none =>
    rw [hmember] at habsent
    rw [habsent rfl]
    exact .inl ⟨rfl, rfl⟩
  | some found =>
    obtain ⟨key, x⟩ := found
    rw [hmember] at hfound
    obtain ⟨t, ht, hv⟩ := hfound key _ rfl
    rw [hv]
    refine .inr ⟨_, _, _, _, rfl, rfl, fun u hu => ?_⟩
    cases ht.symm.trans hu
    have hmem := Entries.mem_of_get? (Field.find?_eq_some hmember).1
    obtain ⟨t', ht', hr⟩ := hmembers (key, x) hmem f.type (hc.types f hf) t ht
      (straysNowhere_of_field hc.names hinside hf hmember hv)
    exact ⟨t', ht', fun hfinite => hr (Json.membersAreFinite_iff.1 hfinite (key, x) hmem)⟩

/-- A record is taken again when the entries of its object are. -/
theorem repeatsAt_model (hclear : types.Clear) {id : TypeId} {members : Entries Json}
    (hmembers : ∀ p ∈ members, ∀ type : FieldType, type.Apart → type.RepeatsAt types p.2) :
    (FieldType.model id).RepeatsAt types (.obj members) := by
  intro t ht hs
  obtain ⟨m, p, hm, hp, hx, rfl⟩ := judgement_model_eq_ok_iff.1 ht
  have hc := hclear id m hm
  have hfields : types.fieldsOf id = m.fields := by rw [Types.fieldsOf, hm]
  have htaken := fieldsTaken_of_judgeParts hc.names hp
  simp only [Value.straysNowhere, hfields, Bool.and_eq_true, List.all_eq_true,
    Bool.not_eq_true'] at hs
  obtain ⟨hstrays, hinside⟩ := hs
  have hfind {f : Field} (hf : f ∈ m.fields) := find?_dumpFields hc.properties htaken hstrays hf
  obtain ⟨p', hp', hsame⟩ := judgeParts_repeats
    (fun f hf => repeats_of_find? hc htaken hstrays hinside hmembers hf) hp
  have hextra : extraIssues m.fields (entryJudgements types (Value.ofMembers (Value.dumpFields
      m.fields .set (Value.entriesToJson types .set p.values)))) = [] := by
    refine (extraIssues_eq_nil_iff types).2 fun k hk => ?_
    obtain ⟨x, hget⟩ := Option.isSome_iff_exists.1 hk
    obtain ⟨f, hf, rfl, hx⟩ := exists_field_of_dumpFields hget
    refine ⟨f, hf, x, ?_⟩
    rw [Value.get?_entriesToJson, Option.map_eq_some_iff] at hx
    obtain ⟨v, hv, rfl⟩ := hx
    rw [hfind hf, hv]
    rfl
  have hagain := judgement_model_eq_ok_iff.2 ⟨m, p', hm, hp', hextra, rfl⟩
  rw [← hfields, ← Value.toJson] at hagain
  refine ⟨_, hagain, fun hfinite => ?_⟩
  obtain ⟨hvalues, hcount⟩ := hsame hfinite
  rw [hvalues, hcount]
  exact Taken.repeats_refl _

end ShapeSum
