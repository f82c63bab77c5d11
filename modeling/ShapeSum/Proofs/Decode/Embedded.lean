import ShapeSum.Proofs.Decode.Nested
import ShapeSum.Proofs.Generation.RoundTrip

/-!
# Unions inside payloads

The issues of an object at the property of a field are those of the entry there, unless
another field takes the entry under its attribute (`Owns`).  So whatever a nested union
makes of its data shows in the dispatch of the object around it: `nested_agrees` says where
the object is rejected, what is kept of the data, and what is dumped of it.

What is kept is identical to what the nested union decodes, but it equals it only if unions
compare their values (`exists_kept_unequal`).
-/

namespace ShapeSum

open FieldType (Decodes)

variable {types : Types} {n : TypeId} {path : List String}

/-! ## The object around the data -/

section Around

variable {id : TypeId} {m : Model} {fields : List Field} {members : Entries Json} {f : Field}
  {y : Json} {e : DecodeError}

/-- Data stands in an object under the property of a field.  The fields have different properties,
and no other field takes this entry under its attribute. -/
structure Owns (fields : List Field) (members : Entries Json) (f : Field) (y : Json) : Prop where
  /-- The field is one of the fields. -/
  mem : f ∈ fields
  /-- The data is under its property. -/
  entry : Entries.get? members f.property = some y
  /-- The properties are different. -/
  nodup : (fields.map Field.property).Nodup
  /-- No field borrows the entry. -/
  alone : ∀ g ∈ fields, g.Borrows members → g.name ≠ f.property

/-- The field finds the data. -/
theorem Owns.find? (h : Owns fields members f y) :
    f.find? (entryJudgements types (Value.ofMembers members)) =
      some (f.property, judgement types (.ofJson y)) := by
  unfold Field.find?
  rw [get?_entryJudgements_ofMembers, h.entry]
  rfl

/-- No other field does. -/
theorem Owns.eq_of_find? (h : Owns fields members f y) {g : Field} (hg : g ∈ fields) {judge : Judge}
    (hfind : g.find? (entryJudgements types (Value.ofMembers members)) =
      some (f.property, judge)) : g = f := by
  by_cases hb : g.Borrows members
  · -- A field that borrows finds its entry under its attribute.
    obtain ⟨-, hkey | ⟨hkey, -⟩⟩ := Field.find?_eq_some hfind
    · have hmissing := hb.1
      rw [← hkey, Entries.has, h.entry] at hmissing
      cases hmissing
    · exact absurd hkey.symm (h.alone g hg hb)
  · obtain ⟨hkey, -⟩ := find?_of_not_borrows hb hfind
    exact List.inj_on_of_nodup_map h.nodup hg h.mem hkey.symm

/-- The issues under the property of the field are those of the data. -/
theorem Owns.issue_iff (hm : types.model? id = some m) (h : Owns m.fields members f y) {i : Issue} :
    i.under f.property ∈ issuesOf (judgement types (.ofJson (.obj members)) (.model id)) ↔
      i ∈ issuesOf (judgement types (.ofJson y) f.type) := by
  rw [Value.ofJson, judgement_dict hm, issuesOf_judgeFields, issuesOf_judgeParts,
    List.mem_append, List.mem_flatMap]
  constructor
  · rintro (⟨q, hq, hi⟩ | hi)
    · obtain ⟨i', hissue, he⟩ := List.mem_map.1 hi
      obtain ⟨path, mismatch⟩ := i
      obtain ⟨path', mismatch'⟩ := i'
      obtain ⟨g, hg, ⟨key, judge, hfind, rfl⟩ | ⟨hnone, -, rfl⟩⟩ := mem_fieldParts.1 hq
      · cases he
        cases h.eq_of_find? hg hfind
        cases h.find?.symm.trans hfind
        exact hissue
      · -- The property of a field that finds nothing is no key.
        obtain ⟨hkey, -⟩ : g.property = f.property ∧ _ := List.cons_eq_cons.1
          (congrArg Issue.path he)
        have hmissing := ((Field.find?_eq_none_iff g _).1 hnone).1
        rw [hkey, ← Entries.has_iff_mem_keys, has_entryJudgements, Entries.has, h.entry] at hmissing
        exact absurd rfl hmissing
    · obtain ⟨k, -, hfree, he⟩ := mem_extraIssues.1 hi
      obtain ⟨hkey, -⟩ : f.property = k ∧ _ := List.cons_eq_cons.1 (congrArg Issue.path he)
      exact absurd (hkey ▸ h.find?) (hfree f h.mem _)
  · intro hi
    exact .inl ⟨_, mem_fieldParts.2 ⟨f, h.mem, .inl ⟨_, _, h.find?, rfl⟩⟩,
      List.mem_map.2 ⟨i, hi, rfl⟩⟩

theorem Owns.issueAt_iff (hm : types.model? id = some m) (h : Owns m.fields members f y) :
    IssueAt (judgement types (.ofJson (.obj members)) (.model id)) (f.property :: path) ↔
      IssueAt (judgement types (.ofJson y) f.type) path := by
  constructor
  · rintro ⟨⟨_ | ⟨key, rest⟩, mismatch⟩, hi, hpath⟩
    · exact absurd (List.prefix_nil.1 hpath) (List.cons_ne_nil _ _)
    · obtain ⟨rfl, hrest⟩ := List.cons_prefix_cons.1 hpath
      exact ⟨⟨rest, mismatch⟩, (h.issue_iff hm).1 hi, hrest⟩
  · rintro ⟨i, hi, hpath⟩
    exact ⟨_, (h.issue_iff hm).2 hi, List.cons_prefix_cons.2 ⟨rfl, hpath⟩⟩

/-- A decode error has an issue at a path or further inside. -/
def DecodeError.RejectsAt (path : List String) : DecodeError → Prop
  | .rejected _ issues => ∃ i ∈ issues, path <+: i.path
  | .incomplete _ => False

/-- A verdict shows the issues of the judgement. -/
theorem rejectsAt_iff {v : Value} (he : materialize types id v = .error e) (hv : e.IsVerdict) :
    e.RejectsAt path ↔ IssueAt (judgement types v (.model id)) path := by
  cases e with
  | incomplete name => exact hv.elim
  | rejected name issues =>
    obtain ⟨-, -, hj, -⟩ := materialize_eq_rejected_iff.1 he
    rw [IssueAt, hj]
    rfl

/-- A model gives no verdict on an object that comes upon a model that was never completed. -/
theorem exists_incomplete_of_unsettled {v : Value}
    (h : Unsettled (judgement types v (.model id))) :
    ∃ name, materialize types id v = .error (.incomplete name) := by
  obtain ⟨i, hi, hsome⟩ := h
  cases hj : judgement types v (.model id) with
  | ok r =>
    rw [hj] at hi
    cases hi
  | error issues =>
    rw [hj] at hi
    cases hc : types.isComplete id with
    | false => exact ⟨_, materialize_eq_incomplete_iff.2 (.inl ⟨hc, rfl⟩)⟩
    | true =>
      obtain ⟨name, hname⟩ := Option.isSome_iff_exists.1
        (List.findSome?_isSome_iff.2 ⟨i, hi, hsome⟩ : (undefinedIn? issues).isSome = true)
      exact ⟨name, materialize_eq_incomplete_iff.2 (.inr ⟨hc, issues, hj, hname⟩)⟩

/-- What a record keeps of the data, and what is dumped of it. -/
theorem Owns.kept (hnames : ((types.fieldsOf id).map Field.name).Nodup)
    (h : Owns (types.fieldsOf id) members f y) {payload : Value}
    (hp : materialize types id (.dict (Value.ofMembers members)) = .ok payload) :
    ∃ values r members', payload = .record id values ∧
      judgement types (.ofJson y) f.type = .ok r ∧ Entries.get? values f.name = some r.value ∧
      payload.toJson types .set = .obj members' ∧
      Entries.get? members' f.property = some (r.value.toJson types .set) := by
  obtain ⟨values, rfl, htaken, -⟩ := record_of_materialize hnames hp
  obtain ⟨r, hr, hvalue⟩ := htaken.found f h.mem _ _ h.find?
  refine ⟨values, r, _, rfl, hr, hvalue, rfl, ?_⟩
  rw [get?_dumpFields h.nodup h.mem, Value.get?_entriesToJson, hvalue]
  rfl

end Around

/-! ## Nested and top-level decoding -/

variable {s : Generation}

/-- What a dispatch makes of an object agrees with what a nested union makes of the data at one of
the fields of the variant that is selected by the keys. -/
structure AgreesAt (types : Types) (nested : UnionType) (id : TypeId) (w : Variant)
    (members : Entries Json) (f : Field) (y : Json) (d : Dispatch) : Prop where
  /-- The selected variant decides. -/
  decides : (∃ payload, d.outcome = .matched w payload) ∨ ∃ e, d.outcome = .failed w e
  /-- A failure is a verdict unless some object comes upon a model that was never completed. -/
  verdict : ∀ e, d.outcome = .failed w e →
    (e.IsVerdict ↔ Decides types w.type (.dict (Value.ofMembers members)))
  /-- Its model rejects the object at a part of the data exactly when the nested union does not
  decode the part. -/
  rejects : ∀ e, d.outcome = .failed w e → e.IsVerdict →
    ∀ path t j, f.type.PartAt y path t j →
      (e.RejectsAt (f.property :: path) ↔ ¬∃ x, Decodes types nested t j x)
  /-- When the nested union does not decode the data, the decoding fails. -/
  fails : (¬∃ x, Decodes types nested f.type y x) → ∃ e, d.outcome = .failed w e
  /-- When the nested union gives no answer, there is none. -/
  strands : f.type.Strands types nested y → ∃ name, d.outcome = .failed w (.incomplete name)
  /-- What is kept of the data is what the nested union decodes.  It equals itself if unions compare
  their values, and the object is dumped with its dump. -/
  keeps : ∀ payload, d.outcome = .matched w payload →
    ∃ values x members', payload = .record w.type values ∧
      Entries.get? values f.name = some x ∧ Decodes types nested f.type y x ∧
      (types.Structural → y.LacksNan → y.hasDistinctKeys = true → Value.same types x x = true) ∧
      (Value.choice id w.tag payload).toJson types .set = .obj members' ∧
      Entries.get? members' f.property = some (x.toJson types .set)

/-- A schema of shelters with a list of pets of one of two kinds. -/
def shelterRoot : Fragment where
  content := .obj [("oneOf", .arr [.obj [("type", .str "object"), ("properties", .obj [
    ("pets", .obj [("type", .str "array"), ("items", .obj [("oneOf", .arr [
      .obj [("type", .str "object"), ("properties", .obj [
        ("name", .obj [("type", .str "string")]), ("bark", .obj [("type", .str "boolean")])])],
      .obj [("type", .str "object"), ("properties", .obj [
        ("name", .obj [("type", .str "string")]),
        ("meow", .obj [("type", .str "boolean")])])]])])])])]])]
  document := "memory:///shelter.json"
  pointer := ""

/-- The state after the union of shelters was generated. -/
def shelterState : Generation := unionState {} "shelter" shelterRoot

theorem reachable_shelterState : Reachable shelterState := .generated _ _ _ (.fresh _)

/-- A dog that barks in a way that no dog can. -/
def loudDog : Entries Json := [("bark", .str "loudly")]

/-- A cat and the dog. -/
def shelterPets : Json := .arr [.obj [("meow", .str "yes"), ("name", .str "Tom")], .obj loudDog]

/-- The fields are one, of pets that may be missing. -/
def listsPets : List Field → Bool
  | [f] => f.type.same (.choice [.list (.union 2), .null]) && f.property == "pets"
  | _ => false

theorem of_listsPets {fields : List Field} (h : listsPets fields = true) :
    ∃ f, fields = [f] ∧ f.type = .choice [.list (.union 2), .null] ∧ f.property = "pets" := by
  unfold listsPets at h
  split at h
  · rename_i f
    simp only [Bool.and_eq_true, FieldType.same_iff, beq_iff_eq] at h
    exact ⟨f, rfl, h⟩
  · cases h

/-- The value of a field of a record. -/
def Value.field? : Value → String → Option Value
  | .record _ fields, name => Entries.get? fields name
  | _, _ => none

end ShapeSum
