import ShapeSum.Config

/-!
# Unique names are free

The small form of a character has the same length whatever stands around it, so the
length of the small form of a text is that of its two halves together.  Every
separator then makes the small form longer, the candidates for a unique name have
different small forms, and among one more candidates than there are taken names one
is free.  The argument is the same for every search that compares names by keys which
grow with them (`IsSearch.not_mem`).
-/

namespace ShapeSum

namespace Text

/-- The length of the small form of a character does not depend on the text around it. -/
theorem length_small_eq (before before' : List Char) (c : Char) (after after' : List Char) :
    (small before c after).length = (small before' c after').length := by
  unfold small
  by_cases hs : (c == 'Σ') = true
  · rw [if_pos hs, if_pos hs]
    rfl
  · rw [if_neg hs, if_neg hs]

theorem length_small_pos (before : List Char) (c : Char) (after : List Char) :
    0 < (small before c after).length := by
  unfold small
  split
  · exact Nat.one_pos
  · split
    · exact Nat.two_pos
    · exact Nat.one_pos

theorem length_lowerAfter_eq (before before' s : List Char) :
    (lowerAfter before s).length = (lowerAfter before' s).length := by
  induction s generalizing before before' with
  | nil => rfl
  | cons c rest ih =>
    rw [lowerAfter, lowerAfter, List.length_append, List.length_append,
      length_small_eq before before' c rest rest, ih (c :: before) (c :: before')]

theorem length_lowerAfter_append (before s t : List Char) :
    (lowerAfter before (s ++ t)).length =
      (lowerAfter before s).length + (lowerAfter [] t).length := by
  induction s generalizing before with
  | nil => rw [List.nil_append, length_lowerAfter_eq before [], lowerAfter, List.length_nil,
      Nat.zero_add]
  | cons c rest ih =>
    rw [List.cons_append, lowerAfter, lowerAfter, List.length_append, List.length_append, ih,
      length_small_eq before before c (rest ++ t) rest, Nat.add_assoc]

/-- The length of the small form of a text. -/
def lowerLength (s : String) : Nat := (lower s).toList.length

theorem lowerLength_eq (s : String) : lowerLength s = (lowerAfter [] s.toList).length := by
  rw [lowerLength, lower, String.toList_ofList]

theorem lowerLength_append (s t : String) :
    lowerLength (s ++ t) = lowerLength s + lowerLength t := by
  rw [lowerLength_eq, lowerLength_eq, lowerLength_eq, String.toList_append,
    length_lowerAfter_append]

end Text

open Text

/-- A separator has a small form that is not empty. -/
theorem lowerLength_separator_pos {separator : String}
    (h : Config.isSeparator separator = true) : 0 < lowerLength separator := by
  unfold Config.isSeparator at h
  split at h
  · rename_i c hc
    rw [lowerLength_eq, hc, lowerAfter, List.length_append]
    exact Nat.add_pos_left (length_small_pos [] c []) _
  · cases h

/-- The taken names that are at least as long as a number. -/
def takenFrom (taken : List String) (n : Nat) : List String :=
  taken.filter fun t => decide (n ≤ t.toList.length)

/-- Past the length of a taken name there are fewer of them. -/
theorem length_takenFrom_lt {taken : List String} {t : String} {n : Nat} (ht : t ∈ taken)
    (hn : t.toList.length < n) :
    (takenFrom taken n).length < (takenFrom taken t.toList.length).length := by
  have hfilter : takenFrom taken n =
      (takenFrom taken t.toList.length).filter fun u => decide (n ≤ u.toList.length) := by
    rw [takenFrom, takenFrom, List.filter_filter]
    refine List.filter_congr fun u _ => ?_
    rw [← Bool.decide_and, decide_eq_decide]
    omega
  rw [hfilter, List.length_filter_lt_length_iff_exists]
  refine ⟨t, List.mem_filter.2 ⟨ht, decide_eq_true (Nat.le_refl _)⟩, ?_⟩
  rw [decide_eq_true_iff]
  omega

/-- A search for a name whose key is not taken: as long as it has tries and the key is taken, it
goes on with the separator behind the name. -/
structure IsSearch (key : String → String) (taken : List String) (separator : String)
    (search : Nat → String → String) : Prop where
  /-- Without tries it stays with the name. -/
  zero : ∀ name, search 0 name = name
  /-- With tries it stays with the name unless the key is taken. -/
  succ : ∀ tries name, search (tries + 1) name =
    if taken.contains (key name) then search tries (name ++ separator) else name

/-- A search whose keys grow with the names ends at one that is not taken when there are enough
tries. -/
theorem IsSearch.not_mem {key : String → String} {taken : List String} {separator : String}
    {search : Nat → String → String} (h : IsSearch key taken separator search)
    (hgrow : ∀ name, (key name).toList.length < (key (name ++ separator)).toList.length)
    (tries : Nat) (name : String)
    (hn : (takenFrom taken (key name).toList.length).length ≤ tries) :
    key (search tries name) ∉ taken := by
  induction tries generalizing name with
  | zero =>
    intro hm
    rw [h.zero] at hm
    have hnil : takenFrom taken (key name).toList.length = [] :=
      List.length_eq_zero_iff.1 (Nat.le_zero.1 hn)
    have hmem : key name ∈ takenFrom taken (key name).toList.length :=
      List.mem_filter.2 ⟨hm, decide_eq_true (Nat.le_refl _)⟩
    rw [hnil] at hmem
    cases hmem
  | succ tries ih =>
    rw [h.succ]
    by_cases hm : taken.contains (key name) = true
    · rw [if_pos hm]
      have hfewer := length_takenFrom_lt (List.contains_iff_mem.1 hm) (hgrow name)
      exact ih (name ++ separator) (Nat.le_of_lt_succ (Nat.lt_of_lt_of_le hfewer hn))
    · rw [if_neg hm]
      exact fun hmem => hm (List.contains_iff_mem.2 hmem)

theorem isSearch_firstFree (taken : List String) (separator : String) :
    IsSearch lower taken separator (firstFree taken separator) :=
  ⟨fun _ => rfl, fun _ _ => rfl⟩

/-- The search for a free name ends at one when there are enough tries. -/
theorem firstFree_not_mem {taken : List String} {separator : String}
    (hsep : 0 < lowerLength separator) (tries : Nat) (name : String)
    (h : (takenFrom taken (lowerLength name)).length ≤ tries) :
    lower (firstFree taken separator tries name) ∉ taken := by
  refine (isSearch_firstFree taken separator).not_mem (fun name => ?_) tries name h
  show lowerLength name < lowerLength (name ++ separator)
  rw [lowerLength_append]
  exact Nat.lt_add_of_pos_right hsep

/-- A unique name differs from every declared one, whatever the case of the letters. -/
theorem uniqueName_free {separator : String} (hsep : Config.isSeparator separator = true)
    (name : String) (declared : List String) :
    lower (uniqueName name declared separator) ∉ declared.map lower := by
  refine firstFree_not_mem (lowerLength_separator_pos hsep) declared.length name ?_
  calc (takenFrom (declared.map lower) (lowerLength name)).length
      ≤ (declared.map lower).length := List.length_filter_le _ _
    _ = declared.length := List.length_map _

end ShapeSum
