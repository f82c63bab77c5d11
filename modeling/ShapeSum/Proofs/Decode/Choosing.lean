import ShapeSum.Proofs.Decode.Judging
import ShapeSum.Proofs.Decode.Taking

/-!
# Which option a choice decides for

A choice takes null by itself when null is one of its options, and hands every other value
to the other options.  A value that one of them takes exactly decides, if no other value
is taken exactly (`chooseBest_of_exact`).  And where only one option matters beside the one
for everything, it decides again when it takes the value as well as before
(`chooseBest_twice`).
-/

namespace ShapeSum

variable {types : Types} {v : Value} {t t' w w' : Taken} {best best' : Option Taken}
  {issues issues' : List Issue} {js js' : List (String × Judgement)} {os : List FieldType}

/-! ## The options of a choice -/

/-- The options of a choice besides null. -/
def FieldType.others (os : List FieldType) : List FieldType := os.filter (!same · .null)

@[simp] theorem FieldType.mem_others {o : FieldType} : o ∈ others os ↔ o ∈ os ∧ o ≠ .null := by
  simp [others, ← same_iff]

theorem judgeOptions_eq_map (parts : PartJudges) (os : List FieldType) :
    judgeOptions types v parts os = (FieldType.others os).map fun o =>
      (o.label types.nameOf, judge types v parts o) := by
  unfold FieldType.others
  induction os with
  | nil => rfl
  | cons o os ih =>
    unfold judgeOptions
    split
    · rename_i h
      rw [ih, List.filter_cons_of_neg (by simp [h])]
    · rename_i h
      rw [ih, List.filter_cons_of_pos (by simp [h]), List.map_cons]

theorem judgement_choice_null (h : .null ∈ os) :
    judgement types .null (.choice os) = .ok (.exact .null) := by
  rw [judgement_eq]
  unfold judge
  rw [FieldType.any_same_iff.2 h]

/-- What null does not decide is judged by the other options. -/
theorem judgement_choice (h : v = .null → .null ∉ os) :
    judgement types v (.choice os) =
      judgeChoice ((FieldType.others os).map fun o =>
        (o.label types.nameOf, judgement types v o)) := by
  rw [judgement_eq, ← judgeOptions_eq_map]
  conv => lhs; unfold judge
  split
  · rename_i hnull
    exact absurd (FieldType.any_same_iff.1 hnull) (h rfl)
  · rfl

/-! ## One step of a choice -/

/-- A value that is taken exactly and without models ends a choice. -/
structure Taken.Sure (t : Taken) : Prop where
  exactness : t.exactness = .exact
  count : t.fieldCount = none

/-- The better of the best value so far and a new one. -/
def Taken.prefer (best : Option Taken) (t : Taken) : Taken :=
  match best with
  | none => t
  | some b => if t.better b then t else b

theorem chooseBest_cons_of_sure {label : String} (h : t.Sure) :
    chooseBest best issues ((label, .ok t) :: js) = .ok t := by
  unfold chooseBest
  exact if_pos ⟨h.exactness, h.count⟩

theorem chooseBest_cons_of_not_sure {label : String} (h : ¬t.Sure) :
    chooseBest best issues ((label, .ok t) :: js) =
      chooseBest (some (.prefer best t)) issues js := by
  conv => lhs; unfold chooseBest
  refine (if_neg fun hsure => h ⟨hsure.1, hsure.2⟩).trans ?_
  cases best <;> rfl

/-- An option that refuses a value is passed over, if that is a verdict. -/
theorem chooseBest_cons_error {label : String} {is : List Issue} (h : undefinedIn? is = none) :
    chooseBest best issues ((label, .error is) :: js) =
      chooseBest best (issues ++ is.map (Issue.under label)) js := by
  conv => lhs; unfold chooseBest
  dsimp only
  rw [h]
  rfl

/-- What is chosen after an option that refused the value. -/
theorem chooseBest_of_cons_error {label : String} {is : List Issue}
    (h : chooseBest best issues ((label, .error is) :: js) = .ok t) :
    chooseBest best (issues ++ is.map (Issue.under label)) js = .ok t := by
  unfold chooseBest at h
  dsimp only at h
  split at h
  · cases h
  · exact h

/-- A value that is taken exactly decides if no other is, and all options come to a verdict. -/
theorem chooseBest_of_exact (hmem : ∃ q ∈ js, q.2 = .ok (.exact v))
    (hverdict : ∀ q ∈ js, ∀ is, q.2 = .error is → undefinedIn? is = none)
    (hall : ∀ q ∈ js, ∀ t, q.2 = .ok t → t.exactness = .exact → t.value = v) :
    chooseBest best issues js = .ok (.exact v) := by
  induction js generalizing best issues with
  | nil =>
    obtain ⟨q, hq, -⟩ := hmem
    cases hq
  | cons q js ih =>
    obtain ⟨label, j⟩ := q
    have hrest := fun q hq => hall q (List.mem_cons_of_mem _ hq)
    obtain ⟨hq, hverdicts⟩ := List.forall_mem_cons.1 hverdict
    have hlater (hj : j ≠ .ok (.exact v)) : ∃ q ∈ js, q.2 = .ok (.exact v) := by
      obtain ⟨q, hq, he⟩ := hmem
      rcases List.mem_cons.1 hq with rfl | hq
      · exact absurd he hj
      · exact ⟨q, hq, he⟩
    cases j with
    | error is =>
      rw [chooseBest_cons_error (hq is rfl)]
      exact ih (hlater nofun) hverdicts hrest
    | ok t =>
      by_cases hsure : t.Sure
      · have hv := hall _ List.mem_cons_self t rfl hsure.exactness
        obtain ⟨value, exactness, count⟩ := t
        obtain ⟨rfl, rfl⟩ := hsure
        cases hv
        exact chooseBest_cons_of_sure ⟨rfl, rfl⟩
      · rw [chooseBest_cons_of_not_sure hsure]
        refine ih (hlater fun he => ?_) hverdicts hrest
        cases he
        exact hsure ⟨rfl, rfl⟩

/-! ## Values that are taken loosely -/

/-- A value that is taken loosely and without models. -/
structure Taken.Loose (t : Taken) : Prop where
  exactness : t.exactness = .lax
  count : t.fieldCount = none

theorem Taken.Loose.not_sure (hw : w.Loose) : ¬w.Sure := by
  intro hsure
  have he := hw.exactness.symm.trans hsure.exactness
  cases he

theorem Taken.Loose.better (hw : w.Loose) : t.better w = decide (0 < t.exactness.rank) := by
  unfold Taken.better
  rw [hw.exactness, hw.count]
  rfl

theorem Taken.Loose.not_better (hw : w.Loose) (t : Taken) : w.better t = false := by
  unfold Taken.better
  rw [hw.exactness, hw.count]
  split
  · contradiction
  · exact decide_eq_false (Nat.not_lt_zero _)

theorem Taken.not_better_self (t : Taken) : t.better t = false := by
  unfold Taken.better
  split
  · rename_i m n hm hn
    cases hm.symm.trans hn
    simp
  · exact decide_eq_false (Nat.lt_irrefl _)

/-- A value that is taken loosely stays the best when nothing is better. -/
theorem eq_of_chooseBest (hw : w.Loose) (hall : ∀ q ∈ js, ∀ t, q.2 = .ok t → t.better w = false)
    (h : chooseBest (some w) issues js = .ok t) : t = w := by
  induction js generalizing issues with
  | nil =>
    cases h
    rfl
  | cons q js ih =>
    obtain ⟨label, j⟩ := q
    have hrest := fun q hq => hall q (List.mem_cons_of_mem _ hq)
    cases j with
    | error is => exact ih hrest (chooseBest_of_cons_error h)
    | ok u =>
      have hu := hall _ List.mem_cons_self u rfl
      have hsure : ¬u.Sure := by
        intro hsure
        rw [hw.better, hsure.exactness] at hu
        cases hu
      rw [chooseBest_cons_of_not_sure hsure, Taken.prefer, hu, if_neg Bool.false_ne_true] at h
      exact ih hrest h

/-! ## Values that are taken again -/

/-- A value is taken again: it is the same, fits as closely or closer, and has as many fields. -/
structure Taken.Repeats (t t' : Taken) : Prop where
  value : t'.value = t.value
  rank : t.exactness.rank ≤ t'.exactness.rank
  count : t'.fieldCount = t.fieldCount

theorem Taken.repeats_refl (t : Taken) : t.Repeats t := ⟨rfl, Nat.le_refl _, rfl⟩

theorem Exactness.rank_le (e : Exactness) : e.rank ≤ Exactness.exact.rank := by
  cases e <;> decide

theorem Taken.repeats_exact (h : t.fieldCount = none) : t.Repeats (.exact t.value) :=
  ⟨rfl, t.exactness.rank_le, h.symm⟩

theorem Taken.Repeats.sure (h : t.Repeats t') (hsure : t.Sure) : t'.Sure := by
  refine ⟨?_, h.count.trans hsure.count⟩
  have hrank := h.rank
  rw [hsure.exactness] at hrank
  cases he : t'.exactness with
  | exact => rfl
  | _ =>
    rw [he] at hrank
    exact absurd hrank (by decide)

/-- What an option makes of two values when only one option matters beside the one for everything:
the latter takes `w` and `w'`, the former `t` and `t'`.  What refuses the second value has to come to
a verdict. -/
inductive Twice (w w' t t' : Taken) : Judgement → Judgement → Prop
  | refused {is is' : List Issue} : undefinedIn? is' = none →
      Twice w w' t t' (.error is) (.error is')
  | loose : Twice w w' t t' (.ok w) (.ok w')
  | found : Twice w w' t t' (.ok t) (.ok t')

/-- The best values so far in two such choices. -/
inductive Leading (w w' t t' : Taken) : Option Taken → Option Taken → Prop
  | none : Leading w w' t t' none none
  | loose : Leading w w' t t' (some w) (some w')
  | found : Leading w w' t t' (some t) (some t')

theorem Leading.prefer_loose (h : Leading w w' t t' best best') (hw : w.Loose) (hw' : w'.Loose) :
    Leading w w' t t' (some (.prefer best w)) (some (.prefer best' w')) := by
  cases h with
  | none => exact .loose
  | loose =>
    simp only [Taken.prefer, hw.not_better, hw'.not_better]
    exact .loose
  | found =>
    simp only [Taken.prefer, hw.not_better, hw'.not_better]
    exact .found

theorem Leading.prefer_found (h : Leading w w' t t' best best') (hw : w.Loose) (hw' : w'.Loose)
    (hr : t.Repeats t') (hbetter : best = some w → t.better w = true) :
    Leading w w' t t' (some (.prefer best t)) (some (.prefer best' t')) := by
  cases h with
  | none => exact .found
  | loose =>
    have hbetter := hbetter rfl
    have hbetter' : t'.better w' = true := by
      rw [hw.better, decide_eq_true_eq] at hbetter
      rw [hw'.better, decide_eq_true_eq]
      exact Nat.lt_of_lt_of_le hbetter hr.rank
    simp only [Taken.prefer, hbetter, hbetter']
    exact .found
  | found =>
    simp only [Taken.prefer, t.not_better_self, t'.not_better_self]
    exact .found

/-- The option that matters decides again where it takes the value as well as before. -/
theorem chooseBest_twice (hw : w.Loose) (hw' : w'.Loose) (hr : t.Repeats t') (hne : t ≠ w)
    (h : List.Forall₂ (fun q q' : String × Judgement => Twice w w' t t' q.2 q'.2) js js')
    (hbest : Leading w w' t t' best best') (hchosen : chooseBest best issues js = .ok t) :
    chooseBest best' issues' js' = .ok t' := by
  induction h generalizing best best' issues issues' with
  | nil =>
    cases hbest with
    | none => cases hchosen
    | loose =>
      cases hchosen
      exact absurd rfl hne
    | found => rfl
  | @cons q q' js js' hq hjs ih =>
    obtain ⟨label, j⟩ := q
    obtain ⟨label', j'⟩ := q'
    cases hq with
    | refused hverdict =>
      rw [chooseBest_cons_error hverdict]
      exact ih hbest (chooseBest_of_cons_error hchosen)
    | loose =>
      rw [chooseBest_cons_of_not_sure hw.not_sure] at hchosen
      rw [chooseBest_cons_of_not_sure hw'.not_sure]
      exact ih (hbest.prefer_loose hw hw') hchosen
    | found =>
      by_cases hsure' : t'.Sure
      · exact chooseBest_cons_of_sure hsure'
      · rw [chooseBest_cons_of_not_sure fun hsure => hsure' (hr.sure hsure)] at hchosen
        rw [chooseBest_cons_of_not_sure hsure']
        refine ih (hbest.prefer_found hw hw' hr fun he => ?_) hchosen
        -- A value that is not better now is not chosen later.
        by_contra hbetter
        rw [he, Taken.prefer, if_neg hbetter] at hchosen
        refine hne (eq_of_chooseBest hw (fun q hq u hu => ?_) hchosen)
        obtain ⟨⟨_, j'⟩, -, hj⟩ := exists_right_of_forall₂ hjs hq
        rw [hu] at hj
        cases hj with
        | loose => exact hw.not_better w
        | found => exact Bool.eq_false_iff.2 hbetter

end ShapeSum
