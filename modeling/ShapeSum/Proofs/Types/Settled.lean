import Mathlib.Data.List.Nodup
import ShapeSum.Types.FieldType

/-!
# Settled types

A choice of types is held flat and without repetitions.  A type is *settled* when this
holds for all choices in it and no name is left in it.  The operations that make types
out of types keep them settled, and resolving names leaves a settled type as it is
(`Settled.resolve_eq`).
-/

namespace ShapeSum.FieldType

variable {t o : FieldType} {ts os seen : List FieldType}

/-! ## Sameness -/

mutual

theorem same_iff (a b : FieldType) : same a b = true ↔ a = b := by
  cases a <;> cases b <;> simp [same, same_iff, sameAll_iff]

theorem sameAll_iff (as bs : List FieldType) : sameAll as bs = true ↔ as = bs := by
  cases as <;> cases bs <;> simp [sameAll, same_iff, sameAll_iff]

end

@[simp] theorem any_same_iff : ts.any (same t) = true ↔ t ∈ ts := by
  simp [List.any_eq_true, same_iff]

/-! ## Repetitions -/

theorem mem_distinct : o ∈ distinct seen ts ↔ o ∈ ts ∧ o ∉ seen := by
  induction ts generalizing seen with
  | nil => simp [distinct]
  | cons t ts ih =>
    unfold distinct
    split
    · rename_i h
      rw [any_same_iff] at h
      rw [ih, List.mem_cons]
      constructor
      · rintro ⟨hmem, hnew⟩
        exact ⟨.inr hmem, hnew⟩
      · rintro ⟨rfl | hmem, hnew⟩
        · exact absurd h hnew
        · exact ⟨hmem, hnew⟩
    · rename_i h
      rw [any_same_iff] at h
      rw [List.mem_cons, ih, List.mem_cons, List.mem_cons, not_or]
      constructor
      · rintro (rfl | ⟨hmem, -, hnew⟩)
        · exact ⟨.inl rfl, h⟩
        · exact ⟨.inr hmem, hnew⟩
      · rintro ⟨rfl | hmem, hnew⟩
        · exact .inl rfl
        · by_cases he : o = t
          · exact .inl he
          · exact .inr ⟨hmem, he, hnew⟩

theorem nodup_distinct (seen ts : List FieldType) : (distinct seen ts).Nodup := by
  induction ts generalizing seen with
  | nil => exact List.nodup_nil
  | cons t ts ih =>
    unfold distinct
    split
    · exact ih seen
    · refine List.nodup_cons.2 ⟨fun h => ?_, ih _⟩
      exact (mem_distinct.1 h).2 List.mem_cons_self

/-- Nothing is left out of a list without repetitions. -/
theorem distinct_of_nodup (h : ts.Nodup) (hnew : ∀ t ∈ ts, t ∉ seen) : distinct seen ts = ts := by
  induction ts generalizing seen with
  | nil => rfl
  | cons t ts ih =>
    obtain ⟨ht, hts⟩ := List.nodup_cons.1 h
    have hseen : ¬seen.any (same t) = true := by
      rw [any_same_iff]
      exact hnew t List.mem_cons_self
    rw [distinct, if_neg hseen, ih hts]
    intro o ho hmem
    rcases List.mem_cons.1 hmem with rfl | hmem
    · exact ht ho
    · exact hnew o (List.mem_cons_of_mem _ ho) hmem

/-! ## Flat types -/

/-- Whether a type is a choice. -/
def isChoice : FieldType → Bool
  | .choice _ => true
  | _ => false

theorem options_of_not_isChoice (h : t.isChoice = false) : t.options = [t] := by
  cases t with
  | choice os => cases h
  | _ => rfl

theorem flatMap_options (h : ∀ t ∈ ts, t.isChoice = false) : ts.flatMap options = ts := by
  induction ts with
  | nil => rfl
  | cons t ts ih =>
    rw [List.flatMap_cons, options_of_not_isChoice (h t List.mem_cons_self),
      ih fun o ho => h o (List.mem_cons_of_mem _ ho)]
    rfl

/-- No option of a type is a choice. -/
def IsFlat (t : FieldType) : Prop := ∀ o ∈ t.options, o.isChoice = false

/-- The options of a choice of flat types are those of the types, without repetitions. -/
theorem options_alternatives (h : ∀ t ∈ ts, t.IsFlat) :
    (alternatives ts).options = distinct [] (ts.flatMap options) := by
  unfold alternatives
  split
  · rename_i t ht
    have hmem : t ∈ ts.flatMap options := (mem_distinct.1 (ht ▸ List.mem_singleton_self t)).1
    obtain ⟨u, hu, ho⟩ := List.mem_flatMap.1 hmem
    rw [ht, options_of_not_isChoice (h u hu t ho)]
  · rfl

theorem mem_options_alternatives (h : ∀ t ∈ ts, t.IsFlat) :
    o ∈ (alternatives ts).options ↔ ∃ t ∈ ts, o ∈ t.options := by
  rw [options_alternatives h, mem_distinct]
  simp

/-- The options of an optional type are those of the type and null. -/
theorem mem_options_optional (h : t.IsFlat) :
    o ∈ t.optional.options ↔ o ∈ t.options ∨ o = .null := by
  have hflat : ∀ u ∈ [t, .null], u.IsFlat := by
    intro u hu
    rcases List.mem_cons.1 hu with rfl | hu
    · exact h
    · cases List.mem_singleton.1 hu
      intro o ho
      cases List.mem_singleton.1 ho
      rfl
  rw [optional, mem_options_alternatives hflat]
  simp [options]

/-! ## Settled types -/

/-- Choices are flat, without repetitions and no choices of one, and no name is left. -/
inductive Settled : FieldType → Prop
  | text : Settled .text
  | integer : Settled .integer
  | number : Settled .number
  | boolean : Settled .boolean
  | null : Settled .null
  | any : Settled .any
  | object : Settled .object
  | literal (values : List Literal) : Settled (.literal values)
  | model (id : TypeId) : Settled (.model id)
  | union (id : TypeId) : Settled (.union id)
  | list {t : FieldType} : Settled t → Settled (.list t)
  | tuple {t : FieldType} : Settled t → Settled (.tuple t)
  | choice {os : List FieldType} : (∀ o ∈ os, Settled o) → (∀ o ∈ os, o.isChoice = false) →
      os.Nodup → os.length ≠ 1 → Settled (.choice os)

theorem Settled.isFlat (h : t.Settled) : t.IsFlat := by
  cases h with
  | choice _ hflat _ _ => exact hflat
  | _ =>
    intro o ho
    cases List.mem_singleton.1 ho
    rfl

theorem Settled.option (h : t.Settled) (ho : o ∈ t.options) : o.Settled := by
  cases h with
  | choice hos _ _ _ => exact hos o ho
  | _ =>
    cases List.mem_singleton.1 ho
    constructor <;> assumption

theorem Settled.alternatives (h : ∀ t ∈ ts, t.Settled) : (alternatives ts).Settled := by
  have hoptions : ∀ o ∈ distinct [] (ts.flatMap options), o.Settled ∧ o.isChoice = false := by
    intro o ho
    obtain ⟨t, ht, ho⟩ := List.mem_flatMap.1 (mem_distinct.1 ho).1
    exact ⟨(h t ht).option ho, (h t ht).isFlat o ho⟩
  unfold FieldType.alternatives
  split
  · rename_i t ht
    exact (hoptions t (ht ▸ List.mem_singleton_self t)).1
  · rename_i hone
    refine .choice (fun o ho => (hoptions o ho).1) (fun o ho => (hoptions o ho).2)
      (nodup_distinct _ _) fun hl => ?_
    obtain ⟨t, ht⟩ := List.length_eq_one_iff.1 hl
    exact hone t ht

theorem Settled.optional (h : t.Settled) : t.optional.Settled := by
  refine .alternatives fun o ho => ?_
  rcases List.mem_cons.1 ho with rfl | ho
  · exact h
  · cases List.mem_singleton.1 ho
    exact .null

theorem resolveAll_eq_map (lookup : String → Option FieldType) (ts : List FieldType) :
    resolveAll lookup ts = ts.map (resolve lookup) := by
  induction ts with
  | nil => rfl
  | cons t ts ih => rw [resolveAll, ih, List.map_cons]

/-- Nothing is left to be resolved. -/
theorem Settled.resolve_eq (h : t.Settled) (lookup : String → Option FieldType) :
    t.resolve lookup = t := by
  induction h with
  | list _ ih => rw [resolve, ih]
  | tuple _ ih => rw [resolve, ih]
  | @choice os _ hflat hnodup hone ih =>
    have hos : resolveAll lookup os = os := by
      rw [resolveAll_eq_map]
      exact (List.map_congr_left ih).trans (List.map_id' os)
    have hdistinct : distinct [] (os.flatMap options) = os := by
      rw [flatMap_options hflat]
      exact distinct_of_nodup hnodup fun _ _ => List.not_mem_nil
    rw [resolve, hos, FieldType.alternatives, hdistinct]
    split
    · exact absurd rfl hone
    · rfl
  | _ => rfl

end ShapeSum.FieldType
