import ShapeSum.Proofs.Generation.Upkeep

/-!
# Models depict fragments

Every model of a reachable state depicts a fragment, so its attributes are distinct.
Nothing that happens to names in between can change that.
-/

namespace ShapeSum

variable {s : Generation}

/-- Every model depicts a fragment. -/
def Types.Depicted (types : Types) : Prop := ∀ m, .model m ∈ types → ∃ f, m.Depicts f

theorem Types.mem_of_model? {types : Types} {id : TypeId} {m : Model}
    (h : types.model? id = some m) : .model m ∈ types := by
  unfold model? at h
  split at h
  · rename_i m' hm
    cases h
    exact List.mem_of_getElem? hm
  · cases h

/-- Generation keeps up that models depict fragments. -/
theorem upkeep_depicted (mode : Mode) (view : String → Fetch) :
    Upkeep mode view fun s => s.store.view = view ∧ s.types.Depicted where
  documents hs := hs.1
  frame hs hv _ _ ht := ⟨hv.trans hs.1, ht ▸ hs.2⟩
  model hs hf := by
    refine ⟨hs.1, fun m hm => ?_⟩
    rcases List.mem_append.1 hm with hm | hm
    · exact hs.2 m hm
    · cases List.mem_singleton.1 hm
      exact ⟨_, hf⟩
  declare hs _ _ _ := hs
  settle hs hm hset := by
    refine ⟨hs.1, fun m' hm' => ?_⟩
    rcases List.mem_or_eq_of_mem_set hm' with hm' | hm'
    · exact hs.2 m' hm'
    · cases hm'
      obtain ⟨f, hf⟩ := hs.2 _ (Types.mem_of_model? hm)
      exact ⟨f, hf.trans (congrArg Except.ok (Model.outline_of_settle hset).symm)⟩
  reserve hs _ := hs
  union hs _ := by
    refine ⟨hs.1, fun m hm => ?_⟩
    rcases List.mem_append.1 hm with hm | hm
    · exact hs.2 m hm
    · cases List.mem_singleton.1 hm
  keep hs _ _ _ := hs

/-- Every model of a reachable state depicts a fragment. -/
theorem Reachable.depicted (h : Reachable s) : s.types.Depicted := by
  induction h with
  | fresh store => exact fun _ hm => nomatch hm
  | anew store names h ih => exact ih
  | stored store h ih => exact ih
  | renamed names h ih => exact ih
  | generated mode base f h ih =>
    exact (upholds_generate (upkeep_depicted mode _) base f _ ⟨rfl, ih⟩).1.2
  | compiled mode name f h ih =>
    exact (upholds_compileModel (upkeep_depicted mode _) name f _ ⟨rfl, ih⟩).1.2

/-- The attributes of a model of a reachable state are distinct. -/
theorem Reachable.nodup_names (h : Reachable s) (id : TypeId) :
    ((s.types.fieldsOf id).map Field.name).Nodup := by
  unfold Types.fieldsOf
  cases hm : s.types.model? id with
  | none => exact .nil
  | some m =>
    obtain ⟨f, hf⟩ := h.depicted m (Types.mem_of_model? hm)
    exact hf.nodup_names

end ShapeSum
