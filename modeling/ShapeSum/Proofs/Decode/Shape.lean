import ShapeSum.Proofs.Decode.Taking
import ShapeSum.Proofs.Generation.Depiction
import ShapeSum.Proofs.Value.Distinct

/-!
# Missing and extra fields

The descriptor of a model names the keys that an object must and may have, and the
model looks for its fields among the keys itself.  For an object whose keys are all
names of fields the two agree, but for one thing: the model also finds a required
field under its attribute (`shape_agrees`).

An issue at the top of an object has a path of one step.  The types of the entries
add such issues as well, so most of the work is to see that none of them is about a
missing or an extra field: those issues always lie one step deeper.
-/

namespace ShapeSum

variable {types : Types} {s : Generation}

/-! ## The issues of a judgement -/

/-- Whether a mismatch is about the keys of an object. -/
def Mismatch.isOfKeys : Mismatch → Bool
  | .missing => true
  | .extra => true
  | _ => false

/-- The issues that speak against a value. -/
def issuesOf {α : Type} : Except (List Issue) α → List Issue
  | .ok _ => []
  | .error is => is

@[simp] theorem issuesOf_ok {α : Type} (a : α) : issuesOf (.ok a) = [] := rfl

@[simp] theorem issuesOf_error {α : Type} (is : List Issue) :
    issuesOf (.error is : Except (List Issue) α) = is := rfl

/-- Every issue about keys has a path. -/
def KeysInside (is : List Issue) : Prop := ∀ i ∈ is, i.mismatch.isOfKeys = true → i.path ≠ []

theorem keysInside_nil : KeysInside [] := fun _ hi => nomatch hi

theorem keysInside_singleton {path : List String} {m : Mismatch} (hm : m.isOfKeys = false) :
    KeysInside [⟨path, m⟩] := by
  intro i hi hk
  obtain rfl := List.mem_singleton.1 hi
  rw [hm] at hk
  cases hk

theorem keysInside_append {is js : List Issue} (hi : KeysInside is) (hj : KeysInside js) :
    KeysInside (is ++ js) := by
  intro i hm
  rcases List.mem_append.1 hm with hm | hm
  · exact hi i hm
  · exact hj i hm

theorem keysInside_under (step : String) (is : List Issue) :
    KeysInside (is.map (Issue.under step)) := by
  intro i hi _
  obtain ⟨j, -, rfl⟩ := List.mem_map.1 hi
  exact List.cons_ne_nil _ _

/-- The issues of parts are those of each part, a step deeper. -/
theorem issuesOf_judgeParts (parts : List (String × String × Judgement)) :
    issuesOf (judgeParts parts) =
      parts.flatMap fun q => (issuesOf q.2.2).map (Issue.under q.1) := by
  induction parts with
  | nil => rfl
  | cons q rest ih =>
    obtain ⟨step, key, j⟩ := q
    rw [List.flatMap_cons, ← ih]
    cases j <;> cases hr : judgeParts rest <;> simp [judgeParts, hr]

theorem keysInside_judgeParts (parts : List (String × String × Judgement)) :
    KeysInside (issuesOf (judgeParts parts)) := by
  intro i hi
  rw [issuesOf_judgeParts] at hi
  obtain ⟨q, -, hi⟩ := List.mem_flatMap.1 hi
  exact keysInside_under q.1 _ i hi

/-- The issues of an object are those of its fields, and its extra keys. -/
theorem issuesOf_judgeFields (id : TypeId) (m : Model) (entries : List (String × Judge)) :
    issuesOf (judgeFields id m entries) =
      issuesOf (judgeParts (fieldParts entries m.fields)) ++ extraIssues m.fields entries := by
  unfold judgeFields
  cases judgeParts (fieldParts entries m.fields) with
  | error is => rfl
  | ok p => cases extraIssues m.fields entries <;> rfl

theorem mem_extraIssues {fields : List Field} {entries : List (String × Judge)} {i : Issue} :
    i ∈ extraIssues fields entries ↔ ∃ k ∈ Entries.keys entries,
      (∀ f ∈ fields, ∀ j, f.find? entries ≠ some (k, j)) ∧ i = ⟨[k], .extra⟩ := by
  simp only [extraIssues, List.mem_map, List.mem_filter, Entries.keys, Bool.not_eq_true',
    List.contains_eq_mem, decide_eq_false_iff_not, List.mem_filterMap, Prod.exists]
  grind

/-! ## Issues about keys lie inside -/

section Inside

variable {v : Value} {parts : PartJudges}

theorem isOfKeys_of_isOfScalar {m : Mismatch} (h : m.isOfScalar = true) : m.isOfKeys = false := by
  cases m <;> first | rfl | cases h

theorem keysInside_judgeScalar {α : Type} {wrap : α → Value} {r : Except Mismatch (α × Exactness)}
    (h : ∀ {m}, r = .error m → m.isOfScalar = true) :
    KeysInside (issuesOf (judgeScalar wrap r)) := by
  unfold judgeScalar
  split
  · exact keysInside_nil
  · exact keysInside_singleton (isOfKeys_of_isOfScalar (h rfl))

theorem keysInside_judgeItems (wrap : List Value → Value) (least : Exactness) (item : FieldType)
    (items : List Judge) : KeysInside (issuesOf (judgeItems wrap least item items)) := by
  have hparts := keysInside_judgeParts (itemParts item 0 items)
  unfold judgeItems
  cases hp : judgeParts (itemParts item 0 items) with
  | error is =>
    rw [hp] at hparts
    exact hparts
  | ok p => exact keysInside_nil

theorem keysInside_judgeModel (id : TypeId) :
    KeysInside (issuesOf (judgeModel types id v parts)) := by
  unfold judgeModel
  split
  · exact keysInside_singleton rfl
  · split
    · split
      · exact keysInside_nil
      · exact keysInside_singleton rfl
    · rw [issuesOf_judgeFields]
      refine keysInside_append (keysInside_judgeParts _) fun i hi _ => ?_
      obtain ⟨k, -, -, rfl⟩ := mem_extraIssues.1 hi
      exact List.cons_ne_nil _ _
    · exact keysInside_singleton rfl

theorem keysInside_judgeUnion (id : TypeId) :
    KeysInside (issuesOf (judgeUnion types id v parts)) := by
  unfold judgeUnion
  dsimp only
  split
  · exact keysInside_singleton rfl
  · split
    · split
      · exact keysInside_nil
      · exact keysInside_singleton rfl
    · split
      · exact keysInside_nil
      · exact keysInside_singleton rfl
      · exact keysInside_singleton rfl
      · exact keysInside_singleton rfl
    · exact keysInside_singleton rfl

/-- The issues of several options are those so far and those of the options, a step deeper. -/
theorem keysInside_chooseBest {best : Option Taken} {issues : List Issue} (hi : KeysInside issues)
    {js : List (String × Judgement)} (hjs : ∀ q ∈ js, KeysInside (issuesOf q.2)) :
    KeysInside (issuesOf (chooseBest best issues js)) := by
  induction js generalizing best issues with
  | nil =>
    unfold chooseBest
    split
    · exact keysInside_nil
    · exact hi
  | cons q rest ih =>
    obtain ⟨label, j⟩ := q
    obtain ⟨hj, hrest⟩ := List.forall_mem_cons.1 hjs
    unfold chooseBest
    split
    · split
      · exact keysInside_nil
      · split <;> exact ih hi hrest
    · split
      · exact hj
      · exact ih (keysInside_append hi (keysInside_under _ _)) hrest

theorem keysInside_judgeChoice {js : List (String × Judgement)}
    (h : ∀ q ∈ js, KeysInside (issuesOf q.2)) : KeysInside (issuesOf (judgeChoice js)) := by
  unfold judgeChoice
  split
  · exact h _ (List.mem_singleton_self _)
  · exact keysInside_chooseBest keysInside_nil h

mutual

/-- No type complains about missing or extra keys of the value itself. -/
theorem keysInside_judge (types : Types) (v : Value) (parts : PartJudges) (type : FieldType) :
    KeysInside (issuesOf (judge types v parts type)) := by
  cases type with
  | text => exact keysInside_judgeScalar Convert.isOfScalar_of_text
  | integer => exact keysInside_judgeScalar Convert.isOfScalar_of_integer
  | number => exact keysInside_judgeScalar Convert.isOfScalar_of_number
  | boolean => exact keysInside_judgeScalar Convert.isOfScalar_of_truth
  | literal values => exact keysInside_judgeScalar Convert.isOfScalar_of_literal
  | null =>
    unfold judge
    split
    · exact keysInside_nil
    · exact keysInside_singleton rfl
  | any => exact keysInside_nil
  | object =>
    unfold judge
    split
    · exact keysInside_nil
    · exact keysInside_nil
    · exact keysInside_singleton rfl
  | list item =>
    unfold judge
    split
    · exact keysInside_judgeItems _ _ _ _
    · exact keysInside_singleton rfl
  | tuple item =>
    unfold judge
    split
    · exact keysInside_judgeItems _ _ _ _
    · exact keysInside_judgeItems _ _ _ _
    · exact keysInside_singleton rfl
  | model id => exact keysInside_judgeModel id
  | union id => exact keysInside_judgeUnion id
  | named name => exact keysInside_singleton rfl
  | choice os =>
    unfold judge
    split
    · exact keysInside_nil
    · exact keysInside_judgeChoice (keysInside_judgeOptions types _ _ os)

theorem keysInside_judgeOptions (types : Types) (v : Value) (parts : PartJudges)
    (options : List FieldType) :
    ∀ q ∈ judgeOptions types v parts options, KeysInside (issuesOf q.2) := by
  cases options with
  | nil => exact fun _ hq => nomatch hq
  | cons o os =>
    unfold judgeOptions
    split
    · exact keysInside_judgeOptions types v parts os
    · exact List.forall_mem_cons.2
        ⟨keysInside_judge types v parts o, keysInside_judgeOptions types v parts os⟩

end

theorem keysInside_judgement (types : Types) (v : Value) (type : FieldType) :
    KeysInside (issuesOf (judgement types v type)) := by
  rw [judgement_eq]
  exact keysInside_judge types v _ type

end Inside

/-! ## What fields find -/

/-- What a field finds does not depend on what the entries are. -/
theorem Field.find?_map {α β : Type} (f : Field) (g : α → β) (entries : Entries α) :
    f.find? (entries.map fun p => (p.1, g p.2)) = (f.find? entries).map fun p => (p.1, g p.2) := by
  unfold Field.find?
  rw [Entries.get?_map, Entries.get?_map]
  cases Entries.get? entries f.property with
  | some a => rfl
  | none => cases Entries.get? entries f.name <;> rfl

theorem Field.find?_eq_none_iff {α : Type} (f : Field) (entries : Entries α) :
    f.find? entries = none ↔
      f.property ∉ Entries.keys entries ∧ f.name ∉ Entries.keys entries := by
  rw [← Option.not_isSome_iff_eq_none, Field.isSome_find?]
  simp [← Entries.has_iff_mem_keys]

/-- The parts of an object are what fields found, and the required fields that found nothing. -/
theorem mem_fieldParts {entries : List (String × Judge)} {fields : List Field}
    {part : String × String × Judgement} :
    part ∈ fieldParts entries fields ↔ ∃ f ∈ fields,
      (∃ key j, f.find? entries = some (key, j) ∧ part = (key, f.name, j f.type)) ∨
      (f.find? entries = none ∧ f.required = true ∧
        part = (f.property, f.name, .error [⟨[], .missing⟩])) := by
  induction fields with
  | nil => simp [fieldParts]
  | cons f fs ih =>
    rw [List.exists_mem_cons_iff, ← ih, fieldParts]
    split
    · rename_i key j hfind
      simp [hfind]
    · rename_i hfind
      split <;> rename_i hreq <;> simp [hfind, hreq]

section Keys

variable {id : TypeId} {m : Model} {entries : List (String × Value)}

theorem judgement_dict (hm : types.model? id = some m) (entries : List (String × Value)) :
    judgement types (.dict entries) (.model id) =
      judgeFields id m (entryJudgements types entries) := by
  rw [judgement, judge, judgeModel, hm]

/-- The issues about keys at the top of an object are the required fields that find nothing and the
keys that no field finds. -/
theorem keyIssue_iff (hm : types.model? id = some m) {k : String} {mismatch : Mismatch}
    (hk : mismatch.isOfKeys = true) :
    ⟨[k], mismatch⟩ ∈ issuesOf (judgement types (.dict entries) (.model id)) ↔
      (mismatch = .missing ∧
        ∃ f ∈ m.fields, f.property = k ∧ f.required = true ∧ f.find? entries = none) ∨
      (mismatch = .extra ∧ k ∈ Entries.keys entries ∧
        ∀ f ∈ m.fields, ∀ x, f.find? entries ≠ some (k, x)) := by
  have hfind (f : Field) : f.find? (entryJudgements types entries) =
      (f.find? entries).map fun p => (p.1, judgement types p.2) := by
    rw [entryJudgements_eq_map]
    exact f.find?_map _ entries
  have hkeys : Entries.keys (entryJudgements types entries) = Entries.keys entries := by
    rw [entryJudgements_eq_map, Entries.keys, List.map_map]
    rfl
  rw [judgement_dict hm, issuesOf_judgeFields, issuesOf_judgeParts, List.mem_append,
    List.mem_flatMap, mem_extraIssues, hkeys]
  refine or_congr ⟨?_, ?_⟩ ⟨?_, ?_⟩
  · rintro ⟨q, hq, hi⟩
    obtain ⟨i, hissue, he⟩ := List.mem_map.1 hi
    obtain ⟨f, hf, ⟨key, j, hfound, rfl⟩ | ⟨hnone, hreq, rfl⟩⟩ := mem_fieldParts.1 hq
    · -- The type of a field does not complain about the keys of its entry itself.
      rw [hfind] at hfound
      obtain ⟨⟨key', x⟩, -, hj⟩ := Option.map_eq_some_iff.1 hfound
      cases hj
      obtain ⟨path, mismatch⟩ := i
      cases he
      exact absurd rfl (keysInside_judgement types x f.type _ hissue hk)
    · obtain rfl := List.mem_singleton.1 hissue
      cases he
      rw [hfind, Option.map_eq_none_iff] at hnone
      exact ⟨rfl, f, hf, rfl, hreq, hnone⟩
  · rintro ⟨rfl, f, hf, rfl, hreq, hnone⟩
    refine ⟨_, mem_fieldParts.2 ⟨f, hf, .inr ⟨?_, hreq, rfl⟩⟩,
      List.mem_map.2 ⟨_, List.mem_singleton_self _, rfl⟩⟩
    rw [hfind, hnone]
    rfl
  · rintro ⟨k', hk', hnone, he⟩
    cases he
    refine ⟨rfl, hk', fun f hf x hx => hnone f hf (judgement types x) ?_⟩
    rw [hfind, hx]
    rfl
  · rintro ⟨rfl, hk', hnone⟩
    refine ⟨k, hk', fun f hf j hj => ?_, rfl⟩
    rw [hfind] at hj
    obtain ⟨⟨key', x⟩, hx, he⟩ := Option.map_eq_some_iff.1 hj
    cases he
    exact hnone f hf x hx

end Keys

/-! ## Fields and their names in JSON -/

theorem Field.wire_of_isEmpty {f : Field} (h : f.property.isEmpty = true) : f.wire = f.name :=
  if_pos h

theorem Field.wire_of_not_isEmpty {f : Field} (h : ¬f.property.isEmpty = true) :
    f.wire = f.property :=
  if_neg h

theorem Field.wire_ne_empty {f : Field} (h : f.name ≠ "") : f.wire ≠ "" := by
  by_cases hempty : f.property.isEmpty = true
  · rw [wire_of_isEmpty hempty]
    exact h
  · rw [wire_of_not_isEmpty hempty]
    exact fun he => hempty (String.isEmpty_iff.2 he)

/-- The keys of an object are names of fields in JSON. -/
def Knows (fields : List Field) (keys : List String) : Prop := ∀ k ∈ keys, k ∈ fields.map Field.wire

section Wires

variable {α : Type} {fields : List Field} {entries : Entries α} {f : Field}

theorem Knows.empty_not_mem {keys : List String} (h : Knows fields keys)
    (hnames : ∀ f ∈ fields, f.name ≠ "") : "" ∉ keys := by
  intro hk
  obtain ⟨g, hg, he⟩ := List.mem_map.1 (h "" hk)
  exact Field.wire_ne_empty (hnames g hg) he

/-- A field finds nothing exactly when neither its name in JSON nor its attribute is a key. -/
theorem Knows.find?_eq_none_iff (h : Knows fields (Entries.keys entries))
    (hnames : ∀ f ∈ fields, f.name ≠ "") :
    f.find? entries = none ↔
      f.wire ∉ Entries.keys entries ∧ f.name ∉ Entries.keys entries := by
  rw [Field.find?_eq_none_iff]
  by_cases hempty : f.property.isEmpty = true
  · rw [Field.wire_of_isEmpty hempty, String.isEmpty_iff.1 hempty]
    simp only [h.empty_not_mem hnames, not_false_eq_true, true_and, and_self]
  · rw [Field.wire_of_not_isEmpty hempty]

/-- A field whose name in JSON is a key finds its entry there. -/
theorem Knows.exists_find?_eq_some (h : Knows fields (Entries.keys entries))
    (hnames : ∀ f ∈ fields, f.name ≠ "") (hf : f.wire ∈ Entries.keys entries) :
    ∃ x, f.find? entries = some (f.wire, x) := by
  obtain ⟨x, hx⟩ := Option.isSome_iff_exists.1 ((Entries.has_iff_mem_keys _ _).2 hf)
  refine ⟨x, ?_⟩
  unfold Field.find?
  by_cases hempty : f.property.isEmpty = true
  · have hnone : Entries.get? entries f.property = none := by
      rw [← Option.not_isSome_iff_eq_none, String.isEmpty_iff.1 hempty]
      exact fun hsome => h.empty_not_mem hnames ((Entries.has_iff_mem_keys _ _).1 hsome)
    rw [Field.wire_of_isEmpty hempty] at hx ⊢
    rw [hnone]
    exact congrArg (Option.map _) hx
  · rw [Field.wire_of_not_isEmpty hempty] at hx ⊢
    rw [hx]

end Wires

/-! ## Descriptors and models -/

/-- Making the value of a model of an object reports a mismatch of one of its keys. -/
def Reports (r : Except DecodeError Value) (key : String) (mismatch : Mismatch) : Prop :=
  ∃ name issues, r = .error (.rejected name issues) ∧ ⟨[key], mismatch⟩ ∈ issues

theorem mem_issuesOf_of_reports {id : TypeId} {v : Value} {k : String} {mismatch : Mismatch}
    (h : Reports (materialize types id v) k mismatch) :
    ⟨[k], mismatch⟩ ∈ issuesOf (judgement types v (.model id)) := by
  obtain ⟨name, issues, he, hi⟩ := h
  obtain ⟨-, -, hj, -⟩ := materialize_eq_rejected_iff.1 he
  rw [hj]
  exact hi

/-- What a model does not take does not become a value of it. -/
theorem exists_error_of_mem_issuesOf {id : TypeId} {v : Value} {i : Issue}
    (h : i ∈ issuesOf (judgement types v (.model id))) :
    ∃ e, materialize types id v = .error e := by
  cases hm : materialize types id v with
  | error e => exact ⟨e, rfl⟩
  | ok payload =>
    obtain ⟨-, t, ht, -⟩ := materialize_eq_ok_iff.1 hm
    rw [ht] at h
    cases h

/-- A required field is missing from some keys: its name in JSON is none of them. -/
def Descriptor.Misses (d : Descriptor) (keys : List String) (f : Field) : Prop :=
  f.required = true ∧ f.wire ∈ d.missingFrom keys

theorem Model.misses_iff {m : Model} {typeName emptyTag : String} {source : Option String}
    {d : Descriptor} (hd : m.descriptor typeName source emptyTag = .ok d) {f : Field}
    (hf : f ∈ m.fields) (keys : List String) :
    d.Misses keys f ↔ f.required = true ∧ f.wire ∉ keys := by
  have hrequired : d.required = sortedNames ((m.fields.filter Field.required).map Field.wire) := by
    unfold Model.descriptor Descriptor.make at hd
    split at hd <;> cases hd
    rfl
  refine and_congr_right fun hreq => ?_
  have hmem : f.wire ∈ d.required := by
    rw [hrequired, mem_sortedNames]
    exact List.mem_map_of_mem (List.mem_filter.2 ⟨hf, hreq⟩)
  simp [Descriptor.missingFrom, hmem]

/-- For an object whose keys are names of fields, a model of a reachable state and its descriptor
agree.  No key is reported as extra, and a field is reported as missing exactly when it is required
and neither its name in JSON nor its attribute is a key.  So nothing is reported when the descriptor
misses nothing, and nothing is made of the object when the descriptor misses a field that is not
found under its attribute. -/
theorem shape_agrees (hs : Reachable s) {id : TypeId} {m : Model} (hm : s.types.model? id = some m)
    {typeName emptyTag : String} {source : Option String} {d : Descriptor}
    (hd : m.descriptor typeName source emptyTag = .ok d) (entries : List (String × Value))
    (hk : Knows m.fields (Entries.keys entries)) :
    (d.missingFrom (Entries.keys entries) = [] → ∀ k mismatch, mismatch.isOfKeys = true →
      ¬Reports (materialize s.types id (.dict entries)) k mismatch) ∧
    (∀ k, ⟨[k], .extra⟩ ∉ issuesOf (judgement s.types (.dict entries) (.model id))) ∧
    (∀ k, ⟨[k], .missing⟩ ∈ issuesOf (judgement s.types (.dict entries) (.model id)) ↔
      ∃ f ∈ m.fields, f.property = k ∧ d.Misses (Entries.keys entries) f ∧
        f.name ∉ Entries.keys entries) ∧
    ∀ f ∈ m.fields, d.Misses (Entries.keys entries) f → f.name ∉ Entries.keys entries →
      ∃ e, materialize s.types id (.dict entries) = .error e := by
  obtain ⟨g, hg⟩ := hs.depicted m (Types.mem_of_model? hm)
  have hnames : ∀ f ∈ m.fields, f.name ≠ "" := fun f hf => hg.name_ne_empty hf
  have hextra (k : String) :
      ⟨[k], .extra⟩ ∉ issuesOf (judgement s.types (.dict entries) (.model id)) := by
    intro hi
    obtain ⟨he, -⟩ | ⟨-, hkey, hnone⟩ := (keyIssue_iff hm rfl).1 hi
    · cases he
    · obtain ⟨f, hf, rfl⟩ := List.mem_map.1 (hk k hkey)
      obtain ⟨x, hx⟩ := hk.exists_find?_eq_some hnames hkey
      exact hnone f hf x hx
  have hmissing (k : String) :
      ⟨[k], .missing⟩ ∈ issuesOf (judgement s.types (.dict entries) (.model id)) ↔
        ∃ f ∈ m.fields, f.property = k ∧ d.Misses (Entries.keys entries) f ∧
          f.name ∉ Entries.keys entries := by
    rw [keyIssue_iff hm rfl]
    constructor
    · rintro (⟨-, f, hf, hp, hreq, hnone⟩ | ⟨he, -⟩)
      · obtain ⟨hwire, hname⟩ := (hk.find?_eq_none_iff hnames).1 hnone
        exact ⟨f, hf, hp, (Model.misses_iff hd hf _).2 ⟨hreq, hwire⟩, hname⟩
      · cases he
    · rintro ⟨f, hf, hp, hmiss, hname⟩
      obtain ⟨hreq, hwire⟩ := (Model.misses_iff hd hf _).1 hmiss
      exact .inl ⟨rfl, f, hf, hp, hreq, (hk.find?_eq_none_iff hnames).2 ⟨hwire, hname⟩⟩
  refine ⟨fun hnil k mismatch hof hr => ?_, hextra, hmissing, fun f hf hmiss hname => ?_⟩
  · have hi := mem_issuesOf_of_reports hr
    cases mismatch with
    | missing =>
      obtain ⟨f, -, -, hmiss, -⟩ := (hmissing k).1 hi
      rw [Descriptor.Misses, hnil] at hmiss
      exact nomatch hmiss.2
    | extra => exact hextra k hi
    | _ => cases hof
  · exact exists_error_of_mem_issuesOf ((hmissing _).2 ⟨f, hf, rfl, hmiss, hname⟩)

/-! ## A required field that is found under its attribute -/

/-- A fragment with two required properties, one of which has the other one as its attribute. -/
def bothRequired : Json :=
  .obj [("type", .str "object"), ("properties", .obj [
    ("_id", .obj [("type", .str "string")]), ("id", .obj [("type", .str "string")])]),
    ("required", .arr [.str "_id", .str "id"])]

/-- The state after the fragment was compiled. -/
def requiredState : Generation :=
  ((compileModel { config := {} } "Record" ⟨bothRequired, "memory:///schema.json", ""⟩).run
    { store := (Store.empty fun _ => .unavailable "").add "memory:///schema.json"
        bothRequired }).2

theorem reachable_requiredState : Reachable requiredState := .compiled _ _ _ (.fresh _)

instance (fields : List Field) (keys : List String) : Decidable (Knows fields keys) :=
  inferInstanceAs (Decidable (∀ k ∈ keys, k ∈ fields.map Field.wire))

instance (d : Descriptor) (keys : List String) (f : Field) : Decidable (d.Misses keys f) :=
  inferInstanceAs (Decidable (f.required = true ∧ f.wire ∈ d.missingFrom keys))

/-- A model in a table with its descriptor, and a property of both. -/
theorem exists_descriptor {id : TypeId} {typeName emptyTag : String}
    {p : Model → Descriptor → Bool}
    (h : (types.model? id).any (fun m =>
      (m.descriptor typeName none emptyTag).toOption.any (p m)) = true) :
    ∃ m d, types.model? id = some m ∧ m.descriptor typeName none emptyTag = .ok d ∧
      p m d = true := by
  obtain ⟨m, hm, hd⟩ := (Option.any_eq_true _ _).1 h
  obtain ⟨d, hd, hp⟩ := (Option.any_eq_true _ _).1 hd
  exact ⟨m, d, hm, eq_ok_of_toOption hd, hp⟩

/-- The property that is an attribute is missed by the descriptor and by the model. -/
theorem shape_agrees_requiredState : ∃ m d, requiredState.types.model? 0 = some m ∧
    m.descriptor "Record" none "EMPTY" = .ok d ∧ d.missingFrom ["_id"] = ["id"] ∧
    ∃ e, materialize requiredState.types 0 (.dict [("_id", .str "x")]) = .error e := by
  have h : (requiredState.types.model? 0).any (fun m =>
      (m.descriptor "Record" none "EMPTY").toOption.any fun d =>
        decide (d.missingFrom ["_id"] = ["id"] ∧ Knows m.fields ["_id"] ∧
          ∃ f ∈ m.fields, d.Misses ["_id"] f ∧ f.name ∉ ["_id"])) = true := by
    decide +kernel
  obtain ⟨m, d, hm, hd, hp⟩ := exists_descriptor h
  obtain ⟨hmissing, hk, f, hf, hmiss, hname⟩ := of_decide_eq_true hp
  obtain ⟨-, -, -, hfails⟩ :=
    shape_agrees reachable_requiredState hm hd [("_id", .str "x")] hk
  exact ⟨m, d, hm, hd, hmissing, hfails f hf hmiss hname⟩

/-- The property that has it as its attribute is missed by the descriptor, but not by the model. -/
theorem exists_missing_taken : ∃ m d payload, Reachable requiredState ∧
    requiredState.types.model? 0 = some m ∧ m.descriptor "Record" none "EMPTY" = .ok d ∧
    Knows m.fields ["id"] ∧ d.missingFrom ["id"] = ["_id"] ∧
    materialize requiredState.types 0 (.dict [("id", .str "x")]) = .ok payload := by
  have h : (requiredState.types.model? 0).any (fun m =>
      (m.descriptor "Record" none "EMPTY").toOption.any fun d =>
        decide (Knows m.fields ["id"] ∧ d.missingFrom ["id"] = ["_id"])) = true := by
    decide +kernel
  have htaken : (materialize requiredState.types 0
      (.dict [("id", .str "x")])).toOption.isSome = true := by
    decide +kernel
  obtain ⟨m, d, hm, hd, hp⟩ := exists_descriptor h
  obtain ⟨hk, hmissing⟩ := of_decide_eq_true hp
  obtain ⟨payload, hpayload⟩ := Option.isSome_iff_exists.1 htaken
  exact ⟨m, d, payload, reachable_requiredState, hm, hd, hk, hmissing,
    eq_ok_of_toOption hpayload⟩

end ShapeSum
