import Mathlib.Data.List.Forall2
import ShapeSum.Proofs.Decode.Fields
import ShapeSum.Proofs.Types.Outline

/-!
# What a model takes

A model takes an object when every field suits it and every key is found by a field.
A field suits an object when its type takes the entry that it finds, or when it finds
none and is not required (`takes_model_iff`).  What a field finds depends on its
outline only.  So two models of one outline take the same data as soon as their fields
have, one by one, types that do (`takeAlike_model`).
-/

namespace ShapeSum

variable {types types' : Types} {members : Entries Json}

/-- A type takes JSON data. -/
def FieldType.Takes (t : FieldType) (types : Types) (j : Json) : Prop :=
  ∃ taken, judgement types (.ofJson j) t = .ok taken

/-- Two types, over a table each, take the same data. -/
def TakeAlike (types : Types) (t : FieldType) (types' : Types) (t' : FieldType) : Prop :=
  ∀ j, t.Takes types j ↔ t'.Takes types' j

/-- A field suits an object: its type takes the entry that it finds, or it finds none and is not
required. -/
structure Field.Suits (f : Field) (types : Types) (members : Entries Json) : Prop where
  /-- The entry that it finds is taken. -/
  found : ∀ {key j}, f.find? members = some (key, j) → f.type.Takes types j
  /-- It may find none. -/
  absent : f.find? members = none → f.required = false

/-! ## Parts that are taken -/

/-- Parts can be taken together exactly when each can be taken. -/
theorem exists_judgeParts_iff {parts : List (String × String × Judgement)} :
    (∃ p, judgeParts parts = .ok p) ↔ ∀ q ∈ parts, ∃ t, q.2.2 = .ok t := by
  induction parts with
  | nil => exact ⟨fun _ _ hq => (nomatch hq), fun _ => ⟨_, rfl⟩⟩
  | cons q rest ih =>
    obtain ⟨step, key, j⟩ := q
    rw [List.forall_mem_cons, ← ih]
    constructor
    · rintro ⟨p, hp⟩
      obtain ⟨t, p', ht, hp', -⟩ := judgeParts_cons hp
      exact ⟨⟨t, ht⟩, p', hp'⟩
    · rintro ⟨⟨t, ht⟩, p, hp⟩
      cases ht
      unfold judgeParts
      rw [hp]
      exact ⟨_, rfl⟩

/-- What a field finds among judgements is the judgement of what it finds among the members. -/
theorem Field.find?_entryJudgements (f : Field) (types : Types) (members : Entries Json) :
    f.find? (entryJudgements types (Value.ofMembers members)) =
      (f.find? members).map fun p => (p.1, judgement types (.ofJson p.2)) := by
  unfold Field.find?
  rw [get?_entryJudgements_ofMembers, get?_entryJudgements_ofMembers]
  cases Entries.get? members f.property with
  | some j => rfl
  | none => cases Entries.get? members f.name <;> rfl

/-- The parts of the fields can be taken exactly when the fields suit the object. -/
theorem fieldParts_taken_iff {fields : List Field} :
    (∀ q ∈ fieldParts (entryJudgements types (Value.ofMembers members)) fields,
      ∃ t, q.2.2 = .ok t) ↔ ∀ f ∈ fields, f.Suits types members := by
  induction fields with
  | nil => exact ⟨fun _ _ hf => (nomatch hf), fun _ _ hq => (nomatch hq)⟩
  | cons f fields ih =>
    rw [List.forall_mem_cons, ← ih]
    rw [fieldParts, Field.find?_entryJudgements]
    cases hfind : f.find? members with
    | some found =>
      obtain ⟨key, j⟩ := found
      dsimp only [Option.map_some]
      rw [List.forall_mem_cons]
      refine and_congr_left fun _ => ⟨fun ht => ⟨fun {key' j'} h => ?_, fun h => ?_⟩,
        fun h => h.found hfind⟩
      · rw [hfind] at h
        cases h
        exact ht
      · rw [hfind] at h
        cases h
    | none =>
      dsimp only [Option.map_none]
      split
      · rename_i hreq
        rw [List.forall_mem_cons]
        refine and_congr_left fun _ => ⟨fun ⟨t, ht⟩ => (nomatch ht), fun h => ?_⟩
        rw [h.absent hfind] at hreq
        cases hreq
      · rename_i hreq
        refine ⟨fun h => ⟨⟨fun h' => ?_, fun _ => Bool.eq_false_iff.2 hreq⟩, h⟩, And.right⟩
        rw [hfind] at h'
        cases h'

/-- No key is left over exactly when every key is found by a field. -/
theorem extraIssues_eq_nil_iff (types : Types) {fields : List Field} :
    extraIssues fields (entryJudgements types (Value.ofMembers members)) = [] ↔
      ∀ k, Entries.has members k = true → ∃ f ∈ fields, ∃ j, f.find? members = some (k, j) := by
  have hfind (f : Field) (k : String) :
      (∃ j, f.find? (entryJudgements types (Value.ofMembers members)) = some (k, j)) ↔
        ∃ j, f.find? members = some (k, j) := by
    rw [Field.find?_entryJudgements]
    cases f.find? members with
    | none => exact ⟨fun ⟨_, h⟩ => (nomatch h), fun ⟨_, h⟩ => (nomatch h)⟩
    | some found => simp [Prod.ext_iff]
  constructor
  · intro h k hk
    obtain ⟨f, hf, hj⟩ := found_of_extraIssues h ((has_entryJudgements types members k).trans hk)
    exact ⟨f, hf, (hfind f k).1 hj⟩
  · intro h
    unfold extraIssues
    dsimp only
    rw [List.map_eq_nil_iff, List.filter_eq_nil_iff]
    intro p hp
    have hk : Entries.has members p.1 = true := by
      rw [← has_entryJudgements types, Entries.has_iff_mem_keys]
      exact List.mem_map_of_mem hp
    obtain ⟨f, hf, hj⟩ := h p.1 hk
    obtain ⟨j, hj⟩ := (hfind f p.1).2 hj
    rw [Bool.not_eq_true', Bool.not_eq_false, List.contains_iff_mem]
    exact List.mem_map.2 ⟨(p.1, j), List.mem_filterMap.2 ⟨f, hf, hj⟩, rfl⟩

/-! ## Objects that a model takes -/

variable {id id' : TypeId} {m m' : Model}

/-- A model takes the objects that all its fields suit and whose keys are all found. -/
theorem takes_model_iff (hm : types.model? id = some m) :
    (FieldType.model id).Takes types (.obj members) ↔ (∀ f ∈ m.fields, f.Suits types members) ∧
      ∀ k, Entries.has members k = true → ∃ f ∈ m.fields, ∃ j, f.find? members = some (k, j) := by
  rw [← fieldParts_taken_iff, ← exists_judgeParts_iff, ← extraIssues_eq_nil_iff types]
  unfold FieldType.Takes
  constructor
  · rintro ⟨t, ht⟩
    obtain ⟨m', p, hm', hp, hx, -⟩ := judgement_model_eq_ok_iff.1 ht
    cases hm.symm.trans hm'
    exact ⟨⟨p, hp⟩, hx⟩
  · rintro ⟨⟨p, hp⟩, hx⟩
    exact ⟨_, judgement_model_eq_ok_iff.2 ⟨m, p, hm, hp, hx, rfl⟩⟩

/-- A model takes nothing but objects. -/
theorem exists_members_of_takes_model {j : Json} (h : (FieldType.model id).Takes types j) :
    ∃ members, j = .obj members := by
  obtain ⟨t, ht⟩ := h
  cases j with
  | obj members => exact ⟨members, rfl⟩
  | _ =>
    rw [judgement_model] at ht
    unfold judgeModel at ht
    split at ht <;> cases ht

/-! ## Models of one outline -/

/-- What a field finds depends on its outline only. -/
theorem Field.find?_congr {α : Type} {f f' : Field} (h : f.outline = f'.outline)
    (entries : Entries α) : f.find? entries = f'.find? entries := by
  have hname : f.name = f'.name := congrArg FieldOutline.name h
  have hproperty : f.property = f'.property := congrArg FieldOutline.property h
  unfold find?
  rw [hname, hproperty]

/-- Fields of one outline whose types take the same data suit the same objects. -/
theorem Field.Suits.congr {f f' : Field} (h : f.Suits types members) (ho : f.outline = f'.outline)
    (ht : TakeAlike types f.type types' f'.type) : f'.Suits types' members := by
  have hrequired : f.required = f'.required := congrArg FieldOutline.required ho
  have hsame : f.find? members = f'.find? members := find?_congr ho members
  exact ⟨fun {_ j} hfind => (ht j).1 (h.found (hsame.trans hfind)),
    fun hfind => hrequired ▸ h.absent (hsame.trans hfind)⟩

/-- In lists side by side, every item on the right has one on the left. -/
theorem exists_left_of_forall₂ {α β : Type} {R : α → β → Prop} {xs : List α} {ys : List β}
    (h : List.Forall₂ R xs ys) {y : β} (hy : y ∈ ys) : ∃ x ∈ xs, R x y := by
  induction h with
  | nil => cases hy
  | cons hxy _ ih =>
    rcases List.mem_cons.1 hy with rfl | hy
    · exact ⟨_, List.mem_cons_self, hxy⟩
    · obtain ⟨x, hx, hr⟩ := ih hy
      exact ⟨x, List.mem_cons_of_mem _ hx, hr⟩

/-- Every item on the left has one on the right. -/
theorem exists_right_of_forall₂ {α β : Type} {R : α → β → Prop} {xs : List α} {ys : List β}
    (h : List.Forall₂ R xs ys) {x : α} (hx : x ∈ xs) : ∃ y ∈ ys, R x y :=
  exists_left_of_forall₂ (R := fun y x => R x y) (.flip h) hx

/-- When every item has a counterpart, there is a list of them side by side. -/
theorem exists_forall₂ {α β : Type} {R : α → β → Prop} {xs : List α}
    (h : ∀ x ∈ xs, ∃ y, R x y) : ∃ ys, List.Forall₂ R xs ys := by
  induction xs with
  | nil => exact ⟨[], .nil⟩
  | cons x xs ih =>
    obtain ⟨⟨y, hy⟩, hxs⟩ := List.forall_mem_cons.1 h
    obtain ⟨ys, hys⟩ := ih hxs
    exact ⟨y :: ys, .cons hy hys⟩

/-- If the fields of two models are alike one by one, what one model takes is taken by the other. -/
theorem FieldType.Takes.of_fields (hm : types.model? id = some m)
    (hm' : types'.model? id' = some m')
    (hf : List.Forall₂ (fun f f' : Field => f.outline = f'.outline ∧
      TakeAlike types f.type types' f'.type) m.fields m'.fields)
    {j : Json} (h : (FieldType.model id).Takes types j) : (FieldType.model id').Takes types' j := by
  obtain ⟨members, rfl⟩ := exists_members_of_takes_model h
  obtain ⟨hsuits, hused⟩ := (takes_model_iff hm).1 h
  refine (takes_model_iff hm').2 ⟨fun f' hf' => ?_, fun k hk => ?_⟩
  · obtain ⟨f, hmem, ho, ht⟩ := exists_left_of_forall₂ hf hf'
    exact (hsuits f hmem).congr ho ht
  · obtain ⟨f, hmem, j, hj⟩ := hused k hk
    obtain ⟨f', hmem', ho, -⟩ := exists_left_of_forall₂ hf.flip hmem
    exact ⟨f', hmem', j, Field.find?_congr ho members ▸ hj⟩

/-- Two models of one outline take the same data if the types of their fields do, field by field. -/
theorem takeAlike_model (hm : types.model? id = some m) (hm' : types'.model? id' = some m')
    (ho : m.outline = m'.outline)
    (ht : List.Forall₂ (fun f f' : Field => TakeAlike types f.type types' f'.type)
      m.fields m'.fields) : TakeAlike types (.model id) types' (.model id') := by
  have hfields : List.Forall₂ (fun f f' : Field => f.outline = f'.outline ∧
      TakeAlike types f.type types' f'.type) m.fields m'.fields := by
    unfold Model.outline at ho
    generalize m.fields = fields, m'.fields = fields' at ho ht ⊢
    induction ht with
    | nil => exact .nil
    | cons ht _ ih =>
      obtain ⟨ho, hrest⟩ := List.cons.inj ho
      exact .cons ⟨ho, ht⟩ (ih hrest)
  have hback : List.Forall₂ (fun f' f : Field => f'.outline = f.outline ∧
      TakeAlike types' f'.type types f.type) m'.fields m.fields :=
    List.Forall₂.flip (hfields.imp fun _ _ h => ⟨h.1.symm, fun j => (h.2 j).symm⟩)
  exact fun _ => ⟨.of_fields hm hm' hfields, .of_fields hm' hm hback⟩

end ShapeSum
