import ShapeSum.Proofs.Decode.Choosing
import ShapeSum.Proofs.Decode.Shape

/-!
# Verdicts

What speaks against a value is a verdict on it, unless an issue is about a model that was
never completed.  A value is *decided* when it is taken or there is a verdict (`Decided`).
Lists and objects are decided exactly when their parts are, and an object is decided by a
union exactly when the model decides that it is dispatched to (`decided_union_iff`).

A choice is decided when all its options are, and then it takes what one of them takes
(`exists_judgeChoice`).  The converse holds as long as no option takes the value for sure,
since such a one ends the choice (`decided_of_chooseBest`).
-/

namespace ShapeSum

variable {types : Types} {α : Type} {best : Option Taken} {issues : List Issue}
  {js : List (String × Judgement)}

/-! ## Models that were never completed -/

theorem undefinedIn?_append (is js : List Issue) :
    undefinedIn? (is ++ js) = (undefinedIn? is).or (undefinedIn? js) :=
  List.findSome?_append

@[simp] theorem undefinedIn?_under (step : String) (is : List Issue) :
    undefinedIn? (is.map (Issue.under step)) = undefinedIn? is := by
  rw [undefinedIn?, List.findSome?_map]
  rfl

theorem undefinedIn?_extraIssues (fields : List Field) (entries : List (String × Judge)) :
    undefinedIn? (extraIssues fields entries) = none := by
  refine List.findSome?_eq_none_iff.2 fun i hi => ?_
  obtain ⟨k, -, -, rfl⟩ := mem_extraIssues.1 hi
  rfl

/-- What speaks against a value, if anything does, is a verdict. -/
def Decided (r : Except (List Issue) α) : Prop := ∀ is, r = .error is → undefinedIn? is = none

theorem decided_ok (a : α) : Decided (.ok a : Except (List Issue) α) := nofun

theorem decided_error_iff {is : List Issue} :
    Decided (.error is : Except (List Issue) α) ↔ undefinedIn? is = none := by
  refine ⟨fun h => h is rfl, fun h is' he => ?_⟩
  cases he
  exact h

/-- A value is decided when no issue is about such a model. -/
theorem decided_iff_issuesOf {r : Except (List Issue) α} :
    Decided r ↔ undefinedIn? (issuesOf r) = none := by
  cases r with
  | ok a => exact iff_of_true (decided_ok a) rfl
  | error is => exact decided_error_iff

theorem decided_singleton {m : Mismatch} (hm : m.undefined? = none) :
    Decided (.error [⟨[], m⟩] : Except (List Issue) α) :=
  decided_error_iff.2 (by simp [undefinedIn?, hm])

theorem decided_judgeScalar {wrap : α → Value} {r : Except Mismatch (α × Exactness)}
    (hr : ∀ {m}, r = .error m → m.isOfScalar = true) : Decided (judgeScalar wrap r) := by
  unfold judgeScalar
  split
  · exact decided_ok _
  · rename_i m
    have hm := hr rfl
    exact decided_singleton (by cases m <;> first | rfl | cases hm)

/-! ## Parts -/

theorem decided_judgeParts_iff {parts : List (String × String × Judgement)} :
    Decided (judgeParts parts) ↔ ∀ p ∈ parts, Decided p.2.2 := by
  rw [decided_iff_issuesOf, issuesOf_judgeParts]
  induction parts with
  | nil => exact iff_of_true rfl (List.forall_mem_nil _)
  | cons p rest ih =>
    rw [List.flatMap_cons, undefinedIn?_append, Option.or_eq_none_iff, ih, undefinedIn?_under,
      ← decided_iff_issuesOf, List.forall_mem_cons]

theorem decided_judgeItems_iff {wrap : List Value → Value} {least : Exactness} {item : FieldType}
    {items : List Judge} :
    Decided (judgeItems wrap least item items) ↔ ∀ j ∈ items, Decided (j item) := by
  have hissues : issuesOf (judgeItems wrap least item items) =
      issuesOf (judgeParts (itemParts item 0 items)) := by
    unfold judgeItems
    cases judgeParts (itemParts item 0 items) <;> rfl
  rw [decided_iff_issuesOf, hissues, ← decided_iff_issuesOf, decided_judgeParts_iff]
  clear hissues
  generalize 0 = start
  induction items generalizing start with
  | nil => exact iff_of_true (List.forall_mem_nil _) (List.forall_mem_nil _)
  | cons j js ih =>
    rw [itemParts, List.forall_mem_cons, List.forall_mem_cons]
    exact and_congr_right fun _ => ih (start + 1)

theorem decided_judgeFields_iff {id : TypeId} {m : Model} {entries : List (String × Judge)} :
    Decided (judgeFields id m entries) ↔
      ∀ f ∈ m.fields, ∀ key j, f.find? entries = some (key, j) → Decided (j f.type) := by
  rw [decided_iff_issuesOf, issuesOf_judgeFields, undefinedIn?_append, undefinedIn?_extraIssues,
    Option.or_none, ← decided_iff_issuesOf, decided_judgeParts_iff]
  constructor
  · intro h f hf key j hfind
    exact h (key, f.name, j f.type) (mem_fieldParts.2 ⟨f, hf, .inl ⟨key, j, hfind, rfl⟩⟩)
  · intro h p hp
    obtain ⟨f, hf, ⟨key, j, hfind, rfl⟩ | ⟨-, -, rfl⟩⟩ := mem_fieldParts.1 hp
    · exact h f hf key j hfind
    · exact decided_singleton rfl

/-! ## Data -/

theorem decided_ofItems_iff {wrap : List Value → Value} {least : Exactness} {item : FieldType}
    {items : List Json} :
    Decided (judgeItems wrap least item (itemJudgements types (Value.ofItems items))) ↔
      ∀ x ∈ items, Decided (judgement types (.ofJson x) item) := by
  rw [decided_judgeItems_iff, itemJudgements_eq_map, Value.ofItems_eq_map, List.map_map]
  exact List.forall_mem_map

/-- No value is undecided where there is no model. -/
theorem decided_model_of_none {id : TypeId} (hm : types.model? id = none) (v : Value) :
    Decided (judgement types v (.model id)) := by
  rw [judgement_model]
  unfold judgeModel
  rw [hm]
  exact decided_singleton rfl

/-- An object is decided by a model when the entries that its fields find are. -/
theorem decided_model_iff {id : TypeId} {m : Model} (hm : types.model? id = some m)
    {members : Entries Json} :
    Decided (judgement types (.ofJson (.obj members)) (.model id)) ↔
      ∀ f ∈ m.fields, ∀ key x, f.find? members = some (key, x) →
        Decided (judgement types (.ofJson x) f.type) := by
  rw [Value.ofJson, judgement_dict hm, decided_judgeFields_iff]
  simp only [Field.find?_entryJudgements, Option.map_eq_some_iff, Prod.exists, Prod.mk.injEq]
  constructor
  · intro h f hf key x hfind
    exact h f hf key _ ⟨key, x, hfind, rfl, rfl⟩
  · rintro h f hf _ _ ⟨key, x, hfind, rfl, rfl⟩
    exact h f hf key x hfind

/-- No value is undecided where there is no union. -/
theorem decided_union_of_none {id : TypeId} (hu : types.union? id = none) (v : Value) :
    Decided (judgement types v (.union id)) := by
  rw [judgement_eq]
  unfold judge judgeUnion
  rw [hu]
  exact decided_singleton rfl

/-- An object is decided by a union when it is decided by the model that it is dispatched to. -/
theorem decided_union_iff {id : TypeId} {u : UnionType} (hu : types.union? id = some u)
    {entries : List (String × Value)} :
    Decided (judgement types (.dict entries) (.union id)) ↔
      ∀ w, (select (sortedNames (Entries.keys entries)) u.tagged).2 = some w →
        Decides types w.type (.dict entries) := by
  have hd := dispatch_eq types u entries
  unfold dispatch dispatchOver at hd
  rw [judgement_eq]
  unfold judge judgeUnion
  dsimp only at hd ⊢
  rw [hu]
  dsimp only
  rw [hd]
  cases (select (sortedNames (Entries.keys entries)) u.tagged).2 with
  | none => exact iff_of_true (decided_singleton rfl) nofun
  | some v =>
    simp only [Option.some.injEq, forall_eq']
    cases hv : materialize types v.type (.dict entries) with
    | ok payload => exact iff_of_true (decided_ok _) (decides_of_materialize hv)
    | error e =>
      rw [← isVerdict_of_materialize hv]
      cases e with
      | rejected name is => exact iff_of_true (decided_singleton rfl) trivial
      | incomplete name =>
        refine iff_of_false (fun h => ?_) not_false
        cases h _ rfl

/-! ## Choices -/

theorem decided_chooseBest (hi : undefinedIn? issues = none) (h : ∀ q ∈ js, Decided q.2) :
    Decided (chooseBest best issues js) := by
  induction js generalizing best issues with
  | nil =>
    unfold chooseBest
    split
    · exact decided_ok _
    · exact decided_error_iff.2 hi
  | cons q js ih =>
    obtain ⟨label, j⟩ := q
    obtain ⟨hq, hrest⟩ := List.forall_mem_cons.1 h
    cases j with
    | ok t =>
      by_cases hsure : t.Sure
      · rw [chooseBest_cons_of_sure hsure]
        exact decided_ok t
      · rw [chooseBest_cons_of_not_sure hsure]
        exact ih hi hrest
    | error is =>
      have his : undefinedIn? is = none := hq is rfl
      rw [chooseBest_cons_error his]
      exact ih (by simp [undefinedIn?_append, hi, his]) hrest

theorem decided_judgeChoice (h : ∀ q ∈ js, Decided q.2) : Decided (judgeChoice js) := by
  unfold judgeChoice
  split
  · exact h _ List.mem_cons_self
  · exact decided_chooseBest rfl h

/-- All options that are looked at come to a verdict when the choice does. -/
theorem decided_of_chooseBest (h : Decided (chooseBest best issues js))
    (hsure : ∀ q ∈ js, ∀ t, q.2 = .ok t → ¬t.Sure) : ∀ q ∈ js, Decided q.2 := by
  induction js generalizing best issues with
  | nil => exact List.forall_mem_nil _
  | cons q js ih =>
    obtain ⟨label, j⟩ := q
    obtain ⟨hq, hrest⟩ := List.forall_mem_cons.1 hsure
    cases j with
    | ok t =>
      rw [chooseBest_cons_of_not_sure (hq t rfl)] at h
      exact List.forall_mem_cons.2 ⟨decided_ok t, ih h hrest⟩
    | error is =>
      have his : undefinedIn? is = none := by
        by_contra hsome
        unfold chooseBest at h
        dsimp only at h
        rw [if_pos (Option.isSome_iff_ne_none.2 hsome)] at h
        exact hsome (h is rfl)
      rw [chooseBest_cons_error his] at h
      exact List.forall_mem_cons.2 ⟨decided_error_iff.2 his, ih h hrest⟩

theorem decided_of_judgeChoice (h : Decided (judgeChoice js))
    (hsure : ∀ q ∈ js, ∀ t, q.2 = .ok t → ¬t.Sure) : ∀ q ∈ js, Decided q.2 := by
  unfold judgeChoice at h
  split at h
  · exact List.forall_mem_singleton.2 h
  · exact decided_of_chooseBest h hsure

/-- A choice takes a value that one of its options takes, if all options come to a verdict. -/
theorem exists_chooseBest (hsome : best.isSome = true ∨ ∃ q ∈ js, ∃ t, q.2 = .ok t)
    (hverdict : ∀ q ∈ js, Decided q.2) : ∃ t, chooseBest best issues js = .ok t := by
  induction js generalizing best issues with
  | nil =>
    obtain ⟨b, rfl⟩ := Option.isSome_iff_exists.1 (hsome.resolve_right (by simp))
    exact ⟨b, rfl⟩
  | cons q js ih =>
    obtain ⟨label, j⟩ := q
    obtain ⟨hq, hverdicts⟩ := List.forall_mem_cons.1 hverdict
    cases j with
    | error is =>
      rw [chooseBest_cons_error (hq is rfl)]
      refine ih (hsome.imp_right ?_) hverdicts
      rintro ⟨q, hq, t, ht⟩
      rcases List.mem_cons.1 hq with rfl | hq
      · cases ht
      · exact ⟨q, hq, t, ht⟩
    | ok t =>
      by_cases hsure : t.Sure
      · exact ⟨t, chooseBest_cons_of_sure hsure⟩
      · rw [chooseBest_cons_of_not_sure hsure]
        exact ih (.inl rfl) hverdicts

theorem exists_judgeChoice (hsome : ∃ q ∈ js, ∃ t, q.2 = .ok t)
    (hverdict : ∀ q ∈ js, Decided q.2) : ∃ t, judgeChoice js = .ok t := by
  unfold judgeChoice
  split
  · obtain ⟨q, hq, ht⟩ := hsome
    cases List.mem_singleton.1 hq
    exact ht
  · exact exists_chooseBest (.inr hsome) hverdict

end ShapeSum
