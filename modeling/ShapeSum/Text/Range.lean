/-!
# Ranges of characters

A class of characters is given by closed ranges of code points.  Membership is
a scan of the list, so a closed test reduces to comparisons of numbers.
-/

namespace ShapeSum.Text

/-- Closed ranges of code points. -/
abbrev Ranges := List (Nat × Nat)

/-- Whether a character lies in one of the ranges. -/
def Ranges.has (ranges : Ranges) (c : Char) : Bool :=
  ranges.any fun r => decide (r.1 ≤ c.toNat ∧ c.toNat ≤ r.2)

@[simp] theorem Ranges.has_nil (c : Char) : Ranges.has [] c = false := rfl

theorem Ranges.has_cons (r : Nat × Nat) (rest : Ranges) (c : Char) :
    Ranges.has (r :: rest) c = (decide (r.1 ≤ c.toNat ∧ c.toNat ≤ r.2) || Ranges.has rest c) := rfl

/-- Membership is membership in some listed range. -/
theorem Ranges.has_iff (ranges : Ranges) (c : Char) :
    Ranges.has ranges c = true ↔ ∃ r ∈ ranges, r.1 ≤ c.toNat ∧ c.toNat ≤ r.2 := by
  simp [Ranges.has, List.any_eq_true]

end ShapeSum.Text
