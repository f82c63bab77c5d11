/-!
# Sorted names

A set of names is held as a list in ascending order without repetitions.
`sortedNames_eq_iff` says that the list depends only on which names there are.
-/

namespace ShapeSum

/-- Inserts a name into a sorted list, unless it is there. -/
def insertName (name : String) : List String → List String
  | [] => [name]
  | n :: rest =>
    if name = n then n :: rest
    else if name < n then name :: n :: rest
    else n :: insertName name rest

/-- The distinct names of a list in ascending order. -/
def sortedNames (names : List String) : List String := names.foldr insertName []

theorem mem_insertName (x name : String) (names : List String) :
    x ∈ insertName name names ↔ x = name ∨ x ∈ names := by
  induction names with
  | nil => simp [insertName]
  | cons n rest ih => simp only [insertName]; grind

/-- Sorting keeps the members. -/
theorem mem_sortedNames (x : String) (names : List String) : x ∈ sortedNames names ↔ x ∈ names := by
  induction names with
  | nil => simp [sortedNames]
  | cons n rest ih =>
    simp only [sortedNames, List.foldr_cons, List.mem_cons] at ih ⊢
    rw [mem_insertName, ih]

/-- Inserting keeps a list ascending. -/
theorem pairwise_insertName (name : String) {names : List String}
    (h : names.Pairwise (· < ·)) : (insertName name names).Pairwise (· < ·) := by
  induction names with
  | nil => simp [insertName]
  | cons n rest ih =>
    obtain ⟨hn, hr⟩ := List.pairwise_cons.1 h
    simp only [insertName]
    split
    · exact h
    · split
      · rename_i hlt
        refine List.pairwise_cons.2 ⟨fun x hx => ?_, h⟩
        rcases List.mem_cons.1 hx with rfl | hx
        · exact hlt
        · exact String.lt_trans hlt (hn x hx)
      · rename_i hne hlt
        refine List.pairwise_cons.2 ⟨fun x hx => ?_, ih hr⟩
        rcases (mem_insertName x name rest).1 hx with rfl | hx
        · exact String.not_le.1 fun hle => hne (String.le_antisymm hle (String.not_lt.1 hlt))
        · exact hn x hx

/-- Sorted names ascend strictly, so no name comes twice. -/
theorem pairwise_sortedNames (names : List String) : (sortedNames names).Pairwise (· < ·) := by
  induction names with
  | nil => exact .nil
  | cons n rest ih => exact pairwise_insertName n ih
/-- Ascending lists with the same members are equal. -/
theorem eq_of_pairwise_of_mem {xs ys : List String} (hx : xs.Pairwise (· < ·))
    (hy : ys.Pairwise (· < ·)) (h : ∀ n, n ∈ xs ↔ n ∈ ys) : xs = ys := by
  induction xs generalizing ys with
  | nil =>
    cases ys with
    | nil => rfl
    | cons y ys => exact absurd ((h y).2 (List.mem_cons_self ..)) (by simp)
  | cons x xs ih =>
    obtain ⟨hx, hxs⟩ := List.pairwise_cons.1 hx
    cases ys with
    | nil => exact absurd ((h x).1 (List.mem_cons_self ..)) (by simp)
    | cons y ys =>
      obtain ⟨hy, hys⟩ := List.pairwise_cons.1 hy
      have e : x = y := by
        rcases List.mem_cons.1 ((h x).1 (List.mem_cons_self ..)) with e | hxy
        · exact e
        · rcases List.mem_cons.1 ((h y).2 (List.mem_cons_self ..)) with e | hyx
          · exact e.symm
          · exact absurd (String.lt_trans (hx y hyx) (hy x hxy)) (String.lt_irrefl x)
      subst e
      rw [ih hxs hys fun n => ?_]
      constructor
      · intro hn
        rcases List.mem_cons.1 ((h n).1 (List.mem_cons_of_mem _ hn)) with rfl | hn'
        · exact absurd (hx n hn) (String.lt_irrefl n)
        · exact hn'
      · intro hn
        rcases List.mem_cons.1 ((h n).2 (List.mem_cons_of_mem _ hn)) with rfl | hn'
        · exact absurd (hy n hn) (String.lt_irrefl n)
        · exact hn'

/-- Lists are sorted alike exactly when they have the same members. -/
theorem sortedNames_eq_iff {xs ys : List String} :
    sortedNames xs = sortedNames ys ↔ ∀ n, n ∈ xs ↔ n ∈ ys := by
  constructor
  · intro h n
    rw [← mem_sortedNames, h, mem_sortedNames]
  · intro h
    refine eq_of_pairwise_of_mem (pairwise_sortedNames xs) (pairwise_sortedNames ys) fun n => ?_
    rw [mem_sortedNames, mem_sortedNames, h]
example : sortedNames ["b", "a", "b"] = ["a", "b"] := by decide +kernel

end ShapeSum
