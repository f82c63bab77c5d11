import ShapeSum.Generation.Generate
import ShapeSum.Proofs.Types.Outline
import ShapeSum.Proofs.Types.Settled

/-!
# Types without names

A type that was found for a property may hold the names of models that were not made yet.
What is made of types has no other names than they have.  A model is *resolved* when no
name is left in its fields; where all models are, each of them is complete.
-/

namespace ShapeSum

namespace FieldType

variable {t o : FieldType} {ts : List FieldType} {n : String}

theorem mem_namesOfAll : n ∈ namesOfAll ts ↔ ∃ t ∈ ts, n ∈ t.names := by
  induction ts with
  | nil => simp [namesOfAll]
  | cons t ts ih => simp [namesOfAll, ih]

theorem mem_names_of_option (ho : o ∈ t.options) (hn : n ∈ o.names) : n ∈ t.names := by
  cases t with
  | choice os => exact mem_namesOfAll.2 ⟨o, ho, hn⟩
  | _ =>
    cases List.mem_singleton.1 ho
    exact hn

theorem exists_mem_names_of_alternatives (h : n ∈ (alternatives ts).names) :
    ∃ t ∈ ts, n ∈ t.names := by
  have hoption : ∃ o ∈ distinct [] (ts.flatMap options), n ∈ o.names := by
    unfold alternatives at h
    split at h
    · rename_i o ho
      exact ⟨o, ho ▸ List.mem_singleton_self o, h⟩
    · exact mem_namesOfAll.1 h
  obtain ⟨o, ho, hn⟩ := hoption
  obtain ⟨t, ht, ho⟩ := List.mem_flatMap.1 (mem_distinct.1 ho).1
  exact ⟨t, ht, mem_names_of_option ho hn⟩

theorem mem_names_of_optional (h : n ∈ t.optional.names) : n ∈ t.names := by
  obtain ⟨u, hu, hn⟩ := exists_mem_names_of_alternatives h
  rcases List.mem_cons.1 hu with rfl | hu
  · exact hn
  · cases List.mem_singleton.1 hu
    cases hn

theorem exists_mem_names_of_ofOptions (h : n ∈ (ofOptions ts).names) : ∃ t ∈ ts, n ∈ t.names := by
  unfold ofOptions at h
  split at h
  · exact ⟨_, List.mem_singleton_self _, h⟩
  · exact exists_mem_names_of_alternatives h

/-- Types without names are put in the places of names. -/
theorem mem_names_of_resolve {lookup : String → Option FieldType}
    (hlookup : ∀ m t, lookup m = some t → t.names = []) (t : FieldType)
    (h : n ∈ (t.resolve lookup).names) : n ∈ t.names := by
  match t with
  | .named m =>
    rw [resolve] at h
    cases hm : lookup m with
    | none =>
      rw [hm] at h
      exact h
    | some u =>
      rw [hm, Option.getD_some, hlookup m u hm] at h
      cases h
  | .list t =>
    rw [resolve] at h
    exact mem_names_of_resolve hlookup t h
  | .tuple t =>
    rw [resolve] at h
    exact mem_names_of_resolve hlookup t h
  | .choice os =>
    rw [resolve, resolveAll_eq_map] at h
    obtain ⟨u, hu, hn⟩ := exists_mem_names_of_alternatives h
    obtain ⟨o, ho, rfl⟩ := List.mem_map.1 hu
    exact mem_namesOfAll.2 ⟨o, ho, mem_names_of_resolve hlookup o hn⟩
  | .text | .integer | .number | .boolean | .null | .any | .object | .literal _ | .model _
  | .union _ => exact h

end FieldType

/-! ## Models without names -/

/-- No name is left in the fields of a model. -/
def Model.IsResolved (m : Model) : Prop := ∀ f ∈ m.fields, f.type.names = []

/-- A model whose names could be resolved is resolved. -/
theorem Model.isResolved_of_settle {names : Namespace} {m m' : Model}
    (h : m.settle names = .ok m') : m'.IsResolved := by
  unfold settle at h
  dsimp only at h
  split at h
  · cases h
  · rename_i hnone
    cases h
    intro f hf
    exact List.flatMap_eq_nil_iff.1 (List.head?_eq_none_iff.1 hnone) f hf

namespace Types

variable {types : Types}

/-- All models are resolved. -/
def Resolved (types : Types) : Prop := ∀ {id m}, types.model? id = some m → m.IsResolved

theorem Resolved.names_eq_nil (h : types.Resolved) {id : TypeId} {f : Field}
    (hf : f ∈ types.fieldsOf id) : f.type.names = [] := by
  unfold fieldsOf at hf
  split at hf
  · rename_i m hm
    exact h hm f hf
  · cases hf

/-- Where all models are resolved, each of them is complete. -/
theorem Resolved.isComplete (h : types.Resolved) (id : TypeId) : types.isComplete id = true := by
  refine List.all_eq_true.2 fun i _ => List.all_eq_true.2 fun f hf => ?_
  rw [h.names_eq_nil hf]
  rfl

end Types

end ShapeSum
