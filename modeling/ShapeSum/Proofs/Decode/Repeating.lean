import ShapeSum.Proofs.Decode.Containers

/-!
# Decoding what was dumped

Over clear models, every type takes the dump of a value that it made, and makes the same of
it when the value was made from finite data (`repeatsAt`).  A union dispatches the dump to
the same variant, since it has the keys of the object.  In a choice the same option decides
on finite data, since no other one is for the same containers, and no other one takes the
same scalars exactly.  On any data it takes the dump, and the other options come to a
verdict on it as they did on the data.
-/

namespace ShapeSum

variable {types : Types} {t : Taken} {type : FieldType} {j : Json}

/-! ## Unions -/

/-- An object is dispatched to the same variant again after it was dumped, and to the same payload
when it is finite. -/
theorem matched_dump (hclear : types.Clear) {u : UnionType} {members : Entries Json} {w : Variant}
    {payload : Value} (hmodel : (FieldType.model w.type).RepeatsAt types (.obj members))
    (hd : (dispatch types u (Value.ofMembers members)).outcome = .matched w payload)
    (hs : payload.straysNowhere types (.obj members) = true)
    (hnamed : payload.isPlainlyNamed types (.obj members) = true) :
    ∃ members' payload', payload.toJson types .set = .obj members' ∧
      (dispatch types u (Value.ofMembers members')).outcome = .matched w payload' ∧
      ((Json.obj members).isFinite = true → payload' = payload) := by
  obtain ⟨hcomplete, t, ht, rfl⟩ := materialize_eq_ok_iff.1 (materialize_of_matched hd)
  obtain ⟨t', ht', hr⟩ := hmodel t ht hs
  obtain ⟨m, -, hm, -⟩ := judgement_model_eq_ok_iff.1 ht
  have hn : ((types.fieldsOf w.type).map Field.name).Nodup := by
    rw [Types.fieldsOf, hm]
    exact (hclear _ m hm).names
  obtain ⟨values, hv, htaken, hused⟩ := record_of_judgement hn ht
  -- Where every field has its own property, the dump has the keys of the object.
  rw [hv, Value.isPlainlyNamed, decide_eq_true_eq] at hnamed
  obtain ⟨members', hdump, hkeys, -⟩ := (returns_record_iff htaken hused).2 hnamed
  have hvalue : t.value.toJson types .set = .obj members' := by rw [hv, Value.toJson, hdump]
  refine ⟨members', t'.value, hvalue, ?_, fun hfinite => (hr hfinite).value⟩
  rw [dispatch_eq, dispatchOver_eq_matched_iff] at hd ⊢
  have hsorted : sortedNames (Entries.keys (Value.ofMembers members')) =
      sortedNames (Entries.keys (Value.ofMembers members)) := by
    rw [Value.keys_ofMembers, Value.keys_ofMembers, sortedNames_eq_iff]
    intro k
    rw [← Entries.has_iff_mem_keys, hkeys, Entries.has_iff_mem_keys]
  rw [hsorted]
  rw [hvalue] at ht'
  exact ⟨hd.1, materialize_eq_ok_iff.2 ⟨hcomplete, t', ht', rfl⟩⟩

theorem repeatsAt_union (hclear : types.Clear) {id : TypeId}
    (hmodel : ∀ id, (FieldType.model id).RepeatsAt types j) :
    (FieldType.union id).RepeatsAt types j := by
  intro t ht hs
  obtain ⟨u, members, w, payload, hu, rfl, hd, rfl⟩ := exists_matched_of_judgement ht
  have hs : (Value.choice id w.tag payload).straysNowhere types (.obj members) = true := hs
  rw [Value.straysNowhere, Bool.and_eq_true] at hs
  obtain ⟨members', payload', hdump, hd', hsame⟩ :=
    matched_dump hclear (hmodel w.type) hd hs.2 hs.1
  refine ⟨.exact (.choice id w.tag payload'), ?_, fun hfinite => ?_⟩
  · show judgement types (.ofJson (payload.toJson types .set)) _ = _
    rw [hdump]
    exact judgement_union_of_matched hu hd'
  · rw [hsame hfinite]
    exact Taken.repeats_refl _

/-! ## Choices -/

/-- A scalar that is taken exactly is kept, unless it is taken for a literal. -/
theorem value_of_exact (hchoice : type.isChoice = false) (hliteral : type.isLiteral = false)
    (hj : j.container? = none) (h : judgement types (.ofJson j) type = .ok t)
    (hexact : t.exactness = .exact) :
    t.value = .ofJson j := by
  by_cases hany : type = .any
  · subst hany
    rw [judgement_eq, judge] at h
    cases h
    rfl
  have hcontainer := (container?_of_judgement hchoice hany h).symm.trans hj
  rw [judgement_eq] at h
  cases type with
  | text =>
    rw [judge] at h
    obtain ⟨s, e, hs, rfl⟩ := of_judgeScalar h
    cases j with
    | str s' =>
      cases hs
      rfl
    | _ => cases hs
  | integer =>
    rw [judge] at h
    obtain ⟨n, e, hn, rfl⟩ := of_judgeScalar h
    exact Convert.value_of_integer hn hexact
  | number =>
    rw [judge] at h
    obtain ⟨x, e, hx, rfl⟩ := of_judgeScalar h
    exact Convert.value_of_number hx hexact
  | boolean =>
    rw [judge] at h
    obtain ⟨b, e, hb, rfl⟩ := of_judgeScalar h
    exact Convert.value_of_truth hb hexact
  | null =>
    unfold judge at h
    split at h
    · rename_i hv
      cases h
      exact hv.symm
    · cases h
  | literal values => cases hliteral
  | any => exact absurd rfl hany
  | choice os => cases hchoice
  | _ => cases hcontainer

/-- What is made of null is null. -/
theorem value_of_null (hchoice : type.isChoice = false)
    (h : judgement types .null type = .ok t) : t.value = .null ∧ t.fieldCount = none := by
  by_cases hany : type = .any
  · subst hany
    rw [judgement_eq, judge] at h
    cases h
    exact ⟨rfl, rfl⟩
  have hcontainer := (container?_of_judgement (j := .null) hchoice hany h).symm
  rw [judgement_eq] at h
  cases type with
  | null =>
    unfold judge at h
    cases h
    exact ⟨rfl, rfl⟩
  | literal values =>
    rw [judge] at h
    obtain ⟨l, e, hl, rfl⟩ := of_judgeScalar h
    refine ⟨?_, rfl⟩
    cases Convert.eq_null_of_literal hl
    rfl
  | any => exact absurd rfl hany
  | choice os => cases hchoice
  | text => cases h
  | integer => cases h
  | number => cases h
  | boolean => cases h
  | _ => cases hcontainer

/-- The judgement of several options is that of the best. -/
theorem judgeChoice_eq_chooseBest {js : List (String × Judgement)} (h : js.length ≠ 1) :
    judgeChoice js = chooseBest none [] js := by
  unfold judgeChoice
  split
  · exact absurd rfl h
  · rfl

/-- A scalar that an option took is taken by the same option again. -/
theorem chooseBest_dump_of_isScalar {os : List FieldType} (hos : FieldType.OptionsApart os)
    {o : FieldType} (ho : o ∈ FieldType.others os) (hscalar : o.isScalar = true)
    (ht : judgement types (.ofJson j) o = .ok t) :
    chooseBest none [] ((FieldType.others os).map fun o =>
      (o.label types.nameOf, judgement types (.ofJson (t.value.toJson types .set)) o)) =
      .ok (.exact t.value) := by
  obtain ⟨hagain, -⟩ := judgement_dump_of_isScalar hscalar ht
  have hmem := (FieldType.mem_others.1 ho).1
  have hcontainer : (t.value.toJson types .set).container? = none := by
    rw [container?_of_judgement (hos.flat o hmem) (by rintro rfl; cases hscalar) hagain]
    cases o <;> first | rfl | cases hscalar
  refine chooseBest_of_exact ⟨_, List.mem_map_of_mem ho, hagain⟩ ?_ ?_
  · refine List.forall_mem_map.2 fun o' ho' => ?_
    refine decided_of_container? (hos.flat o' (FieldType.mem_others.1 ho').1) fun c _ => ?_
    rw [hcontainer]
    nofun
  refine List.forall_mem_map.2 fun o' ho' t' ht' hexact => ?_
  obtain ⟨hmem', hnull'⟩ := FieldType.mem_others.1 ho'
  by_cases hl : o.isLiteral = true
  · -- Literals are the only option.
    cases (hos.literal o hmem hl o' hmem').resolve_right hnull'
    cases hagain.symm.trans ht'
    rfl
  · by_cases hl' : o'.isLiteral = true
    · have he := (hos.literal o' hmem' hl' o hmem).resolve_right (FieldType.mem_others.1 ho).2
      exact absurd (he ▸ hl') hl
    · rw [value_of_exact (hos.flat o' hmem') (Bool.eq_false_iff.2 hl') hcontainer ht' hexact]
      exact (value_of_exact (hos.flat o hmem) (Bool.eq_false_iff.2 hl) hcontainer hagain rfl).symm

/-- A container that an option took, as a value that is not the data, is taken by the same option
again. -/
theorem chooseBest_dump_of_container {os : List FieldType} (hos : FieldType.OptionsApart os)
    {o : FieldType} (ho : o ∈ FieldType.others os) {c : FieldType.Container}
    (hc : o.container? = some c) {t' : Taken} (ht : judgement types (.ofJson j) o = .ok t)
    (ht' : judgement types (.ofJson (t.value.toJson types .set)) o = .ok t') (hr : t.Repeats t')
    (hne : t.value ≠ .ofJson j)
    (hchosen : chooseBest none [] ((FieldType.others os).map fun o =>
      (o.label types.nameOf, judgement types (.ofJson j) o)) = .ok t) :
    chooseBest none [] ((FieldType.others os).map fun o =>
      (o.label types.nameOf, judgement types (.ofJson (t.value.toJson types .set)) o)) =
      .ok t' := by
  have hmem := (FieldType.mem_others.1 ho).1
  have hnotAny : o ≠ .any := by
    rintro rfl
    cases hc
  have hsame {x : Json} {u u' : Taken} (hx : judgement types (.ofJson x) o = .ok u)
      {o' : FieldType} (ho' : o' ∈ FieldType.others os) (hany : o' ≠ .any)
      (hx' : judgement types (.ofJson x) o' = .ok u') : o' = o := by
    have hmem' := (FieldType.mem_others.1 ho').1
    have hcontainer := (container?_of_judgement (hos.flat o hmem) hnotAny hx).symm.trans
      (container?_of_judgement (hos.flat o' hmem') hany hx')
    exact hos.container o' hmem' o hmem c (hcontainer.symm.trans hc) hc
  have hloose (x : Json) : Taken.Loose ⟨.ofJson x, .lax, none⟩ := ⟨rfl, rfl⟩
  have hany (x : Json) : judgement types (.ofJson x) .any = .ok ⟨.ofJson x, .lax, none⟩ := by
    rw [judgement_eq, judge]
  refine chooseBest_twice (hloose j) (hloose (t.value.toJson types .set)) hr
    (fun he => hne (congrArg Taken.value he)) ?_
    .none hchosen
  rw [List.forall₂_map_left_iff, List.forall₂_map_right_iff, List.forall₂_same]
  intro o' ho'
  by_cases ho'any : o' = .any
  · subst ho'any
    dsimp only
    rw [hany, hany]
    exact .loose
  · by_cases he : o' = o
    · subst he
      dsimp only
      rw [ht, ht']
      exact .found
    · cases h₁ : judgement types (.ofJson j) o' with
      | ok u => exact absurd (hsame ht ho' ho'any h₁) he
      | error is =>
        cases h₂ : judgement types (.ofJson (t.value.toJson types .set)) o' with
        | ok u => exact absurd (hsame ht' ho' ho'any h₂) he
        | error is' =>
          have hmem' := (FieldType.mem_others.1 ho').1
          refine .refused (decided_of_container? (hos.flat o' hmem') (fun c' hc' hx => he ?_) _ h₂)
          have hcontainer := container?_of_judgement (hos.flat o hmem) hnotAny ht'
          exact hos.container o' hmem' o hmem c' hc' (hcontainer.symm.trans hx)

/-- A choice decides for the same option again on finite data. -/
theorem exists_repeats_choice (hj : j.isFinite = true) {os : List FieldType}
    (hos : FieldType.OptionsApart os) (hoptions : ∀ o ∈ os, o.RepeatsAt types j)
    (ht : judgement types (.ofJson j) (.choice os) = .ok t)
    (hs : t.value.straysNowhere types j = true) :
    ∃ t', judgement types (.ofJson (t.value.toJson types .set)) (.choice os) = .ok t' ∧
      t.Repeats t' := by
  by_cases hsame : t.value = .ofJson j
  · rw [hsame, toJson_ofJson j hj]
    exact ⟨t, ht, t.repeats_refl⟩
  have hnull : Value.ofJson j = .null → .null ∉ os := by
    intro hnull hmem
    rw [hnull, judgement_choice_null hmem] at ht
    cases ht
    exact hsame hnull.symm
  rw [judgement_choice hnull] at ht
  obtain ⟨_, hq, hot⟩ := of_judgeChoice ht
  obtain ⟨o, ho, rfl⟩ := List.mem_map.1 hq
  have hmem := (FieldType.mem_others.1 ho).1
  obtain ⟨t', ht', hr⟩ := hoptions o hmem t hot hs
  have hr := hr hj
  by_cases hnull' : Value.ofJson (t.value.toJson types .set) = .null ∧ .null ∈ os
  · -- A value that is dumped as null is null.
    rw [hnull'.1] at ht' ⊢
    obtain ⟨hvalue, hcount⟩ := value_of_null (hos.flat o hmem) ht'
    refine ⟨_, judgement_choice_null hnull'.2, hr.value ▸ hvalue.symm, t.exactness.rank_le, ?_⟩
    rw [← hr.count, hcount]
    rfl
  rw [judgement_choice fun h hmem => hnull' ⟨h, hmem⟩]
  by_cases hone : (FieldType.others os).length = 1
  · obtain ⟨o', ho'⟩ := List.length_eq_one_iff.1 hone
    rw [ho'] at ho ⊢
    cases List.mem_singleton.1 ho
    exact ⟨t', ht', hr⟩
  · rw [judgeChoice_eq_chooseBest (by rwa [List.length_map])] at ht ⊢
    cases hc : o.container? with
    | some c => exact ⟨t', chooseBest_dump_of_container hos ho hc hot ht' hr hsame ht, hr⟩
    | none =>
      have hscalar : o.isScalar = true := by
        cases o with
        | any =>
          rw [judgement_eq, judge] at hot
          cases hot
          exact absurd rfl hsame
        | choice os => cases hos.flat _ hmem
        | _ => first | rfl | cases hc
      exact ⟨_, chooseBest_dump_of_isScalar hos ho hscalar hot,
        t.repeats_exact (judgement_dump_of_isScalar hscalar hot).2⟩

/-- A choice takes what is dumped for a value that it made of any data. -/
theorem exists_choice_dump (hclear : types.Clear) {os : List FieldType}
    (hos : FieldType.OptionsApart os) (hapart : ∀ o ∈ os, o.Apart)
    (hoptions : ∀ o ∈ os, o.RepeatsAt types j)
    (ht : judgement types (.ofJson j) (.choice os) = .ok t)
    (hs : t.value.straysNowhere types j = true) :
    ∃ t', judgement types (.ofJson (t.value.toJson types .set)) (.choice os) = .ok t' := by
  have hdecided : Decided (judgement types (.ofJson j) (.choice os)) := ht ▸ decided_ok t
  by_cases hnull' : Value.ofJson (t.value.toJson types .set) = .null ∧ .null ∈ os
  · rw [hnull'.1]
    exact ⟨_, judgement_choice_null hnull'.2⟩
  have hnull : Value.ofJson j = .null → .null ∉ os := by
    intro hnull hmem
    rw [hnull, judgement_choice_null hmem] at ht
    cases ht
    exact hnull' ⟨rfl, hmem⟩
  rw [judgement_choice hnull] at ht
  obtain ⟨_, hq, hot⟩ := of_judgeChoice ht
  obtain ⟨o, ho, rfl⟩ := List.mem_map.1 hq
  have hmem := (FieldType.mem_others.1 ho).1
  obtain ⟨t', ht', -⟩ := hoptions o hmem t hot hs
  rw [judgement_choice fun h hmem => hnull' ⟨h, hmem⟩]
  refine exists_judgeChoice ⟨_, List.mem_map_of_mem ho, t', ht'⟩
    (List.forall_mem_map.2 fun o' ho' => ?_)
  have hmem' := (FieldType.mem_others.1 ho').1
  by_cases hany : o = .any
  · -- The data is the value, so verdicts on it are verdicts on the dump.
    subst hany
    rw [judgement_eq, judge] at hot
    cases hot
    exact decidesAgain hclear j o' (hapart o' hmem') (decided_option hos hdecided ho')
  · by_cases hc : ∃ c, o'.container? = some c ∧
        (t.value.toJson types .set).container? = some c
    · obtain ⟨c, hoc, hjc⟩ := hc
      have hoc' := (container?_of_judgement (hos.flat o hmem) hany ht').symm.trans hjc
      cases hos.container o' hmem' o hmem c hoc hoc'
      rw [ht']
      exact decided_ok t'
    · exact decided_of_container? (hos.flat o' hmem') fun c hoc hjc => hc ⟨c, hoc, hjc⟩

theorem repeatsAt_choice (hclear : types.Clear) {os : List FieldType}
    (hos : FieldType.OptionsApart os) (hapart : ∀ o ∈ os, o.Apart)
    (hoptions : ∀ o ∈ os, o.RepeatsAt types j) : (FieldType.choice os).RepeatsAt types j := by
  intro t ht hs
  by_cases hj : j.isFinite = true
  · obtain ⟨t', ht', hr⟩ := exists_repeats_choice hj hos hoptions ht hs
    exact ⟨t', ht', fun _ => hr⟩
  · obtain ⟨t', ht'⟩ := exists_choice_dump hclear hos hapart hoptions ht hs
    exact ⟨t', ht', fun hj' => absurd hj' hj⟩

/-! ## All types -/

/-- Over clear models, every type whose options are apart takes the dump of a value that it made, and
makes the same of it when the value was made from finite data. -/
theorem repeatsAt (hclear : types.Clear) (j : Json) (type : FieldType) (htype : type.Apart) :
    type.RepeatsAt types j := by
  induction j using Json.induct generalizing type with
  | parts j ih =>
    have hmodel (id : TypeId) : (FieldType.model id).RepeatsAt types j := by
      intro t ht
      obtain ⟨members, rfl⟩ := exists_members_of_takes_model ⟨t, ht⟩
      exact repeatsAt_model hclear (fun p hp type htype => ih p.2 (.member hp) type htype) t ht
    have hitems {item : FieldType} {items : List Json} (he : j = .arr items) (hitem : item.Apart) :
        ∀ x ∈ items, item.RepeatsAt types x := by
      subst he
      exact fun x hx => ih x (.item hx) item hitem
    have hplain {o : FieldType} (ho : o.Apart) (hchoice : o.isChoice = false) :
        o.RepeatsAt types j := by
      cases ho with
      | any => exact repeatsAt_any
      | object => exact repeatsAt_object
      | model id => exact hmodel id
      | union id => exact repeatsAt_union hclear hmodel
      | named name =>
        intro t ht
        rw [judgement_eq, judge] at ht
        cases ht
      | list hitem =>
        intro t ht
        obtain ⟨items, rfl⟩ := exists_items_of_container?
          (container?_of_judgement hchoice (fun he => by cases he) ht)
        exact repeatsAt_list (hitems rfl hitem) t ht
      | tuple hitem =>
        intro t ht
        obtain ⟨items, rfl⟩ := exists_items_of_container?
          (container?_of_judgement hchoice (fun he => by cases he) ht)
        exact repeatsAt_tuple (hitems rfl hitem) t ht
      | choice _ _ => cases hchoice
      | _ => exact repeatsAt_of_isScalar rfl
    cases htype with
    | choice hos hoptions =>
      exact repeatsAt_choice hclear hos hoptions fun o ho => hplain (hoptions o ho) (hos.flat o ho)
    | _ =>
      refine hplain ?_ rfl
      constructor <;> assumption

end ShapeSum
