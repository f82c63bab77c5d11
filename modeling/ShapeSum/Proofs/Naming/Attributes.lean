import ShapeSum.Naming.Attribute
import ShapeSum.Proofs.Naming.Unique

/-!
# Attribute names are distinct

Each candidate for an attribute name is one underscore longer than the one before, so
among one more candidates than there are taken names one is not taken.  The names that
are given to properties in turn are therefore all different.
-/

namespace ShapeSum

theorem isSearch_firstUntaken (taken : List String) :
    IsSearch id taken "_" (firstUntaken taken) :=
  ⟨fun _ => rfl, fun _ _ => rfl⟩

/-- The search for an attribute name ends at one that is not taken when there are enough tries. -/
theorem firstUntaken_not_mem {taken : List String} (tries : Nat) (name : String)
    (h : (takenFrom taken name.toList.length).length ≤ tries) :
    firstUntaken taken tries name ∉ taken :=
  (isSearch_firstUntaken taken).not_mem (fun name => by simp) tries name h

/-- The attribute name for a property is not taken. -/
theorem attributeName_not_mem (property : String) (taken : List String) :
    attributeName property taken ∉ taken :=
  firstUntaken_not_mem taken.length _ (List.length_filter_le _ _)

/-- The attribute names of properties are distinct, and none of them was taken. -/
theorem nodup_attributeNames (taken properties : List String) :
    (attributeNames taken properties).Nodup ∧
      ∀ a ∈ attributeNames taken properties, a ∉ taken := by
  induction properties generalizing taken with
  | nil => exact ⟨.nil, fun _ h => nomatch h⟩
  | cons p ps ih =>
    obtain ⟨hnodup, hfree⟩ := ih (taken ++ [attributeName p taken])
    have hnot (a : String) (ha : a ∈ attributeNames (taken ++ [attributeName p taken]) ps) :
        a ∉ taken ∧ a ≠ attributeName p taken := by
      have hmem := hfree a ha
      rw [List.mem_append, List.mem_singleton, not_or] at hmem
      exact hmem
    constructor
    · exact List.nodup_cons.2 ⟨fun h => (hnot _ h).2 rfl, hnodup⟩
    · intro a ha
      rcases List.mem_cons.1 ha with rfl | ha
      · exact attributeName_not_mem p taken
      · exact (hnot a ha).1

theorem length_attributeNames (taken properties : List String) :
    (attributeNames taken properties).length = properties.length := by
  induction properties generalizing taken with
  | nil => rfl
  | cons p ps ih => simp [attributeNames, ih]

/-! ## Attribute names are not empty -/

theorem attributeChars_ne_nil (property : List Char) : attributeChars property ≠ [] := by
  unfold attributeChars
  extract_lets name prefixed
  clear_value name
  have hprefixed : prefixed ≠ [] := by
    subst prefixed
    split
    · decide
    · split
      · simp
      · exact List.cons_ne_nil _ _
  split
  · exact List.append_ne_nil_of_left_ne_nil hprefixed _
  · exact hprefixed

theorem firstUntaken_ne_empty {taken : List String} (tries : Nat) {name : String}
    (h : name ≠ "") : firstUntaken taken tries name ≠ "" := by
  induction tries generalizing name with
  | zero => exact h
  | succ tries ih =>
    unfold firstUntaken
    split
    · refine ih fun he => ?_
      have hlength := congrArg String.length he
      simp at hlength
    · exact h

/-- No property gets an empty attribute name. -/
theorem attributeName_ne_empty (property : String) (taken : List String) :
    attributeName property taken ≠ "" := by
  refine firstUntaken_ne_empty _ fun he => attributeChars_ne_nil property.toList ?_
  exact String.ofList_eq_empty_iff.1 he

theorem ne_empty_of_mem_attributeNames {taken properties : List String} {a : String}
    (h : a ∈ attributeNames taken properties) : a ≠ "" := by
  induction properties generalizing taken with
  | nil => cases h
  | cons p ps ih =>
    rcases List.mem_cons.1 h with rfl | h
    · exact attributeName_ne_empty p taken
    · exact ih h

end ShapeSum
