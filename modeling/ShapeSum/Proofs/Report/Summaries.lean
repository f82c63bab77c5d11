import Mathlib.Algebra.BigOperators.Group.List.Basic
import Mathlib.Algebra.Ring.Nat
import ShapeSum.Proofs.Decode.Judging
import ShapeSum.Proofs.Generation.Assembling

/-!
# Summaries of batches

A batch is checked in one pass that keeps several counts and two lists.  A summary
should agree with decoding each item alone: `Summarizes` says so by the outcomes of
the items' own dispatches, with nothing taken from the pass.

The pass keeps `Tallies`, where the reports on the items that were not matched are
given in closed form; what is said of positions, sums and of the batch as a whole
follows.  The tags of a union are distinct, so each matched item is counted for one
of them.  An item can break the batch off: its object needs a model that was never
completed.
-/

namespace ShapeSum

variable {types : Types} {u : UnionType} {items : List Json} {item : Json} {s : CheckSummary}
  {typeName : String} {r : DecodeReport}

/-! ## Items alone -/

/-- How the decoding of an item alone ends.  An item that is no object fits no variant. -/
def ownOutcome (types : Types) (u : UnionType) : Json → Outcome
  | .obj members => (dispatch types u (Value.ofMembers members)).outcome
  | _ => .noMatch

/-- The verdict of an outcome. -/
def Outcome.verdict : Outcome → Verdict
  | .matched _ _ => .matched
  | .failed _ _ => .decodeError
  | .noMatch => .noMatch

/-- The tag that an outcome matched with. -/
def Outcome.tag? : Outcome → Option String
  | .matched v _ => some v.tag
  | _ => none

/-- The verdict on an item alone. -/
def ownVerdict (types : Types) (u : UnionType) (item : Json) : Verdict :=
  (ownOutcome types u item).verdict

/-- The tag that an item alone is matched with. -/
def ownTag? (types : Types) (u : UnionType) (item : Json) : Option String :=
  (ownOutcome types u item).tag?

/-- The decoding of an item alone comes to no verdict: a model that the object needs was never
completed. -/
def BreaksOff (types : Types) (u : UnionType) (item : Json) (typeName : String) : Prop :=
  ∃ v, ownOutcome types u item = .failed v (.incomplete typeName)

/-- What a summary of a batch should be. -/
structure Summarizes (types : Types) (u : UnionType) (items : List Json) (s : CheckSummary) :
    Prop where
  /-- It is about the union. -/
  union : s.union = u.name
  /-- All items are counted. -/
  total : s.total = items.length
  /-- Each item is counted for one verdict. -/
  parts : s.total = s.matched + s.noMatch + s.decodeErrors
  /-- The items whose own decoding is matched are counted. -/
  matched : s.matched = items.countP (ownVerdict types u · == .matched)
  /-- So are those that fit no variant. -/
  noMatch : s.noMatch = items.countP (ownVerdict types u · == .noMatch)
  /-- So are those that fail to decode. -/
  decodeErrors : s.decodeErrors = items.countP (ownVerdict types u · == .decodeError)
  /-- Each tag is listed with the number of items that are matched with it. -/
  tagCounts : s.tagCounts =
    u.tagged.map fun v => (v.tag, items.countP (ownTag? types u · == some v.tag))
  /-- These numbers sum up to that of the matched items. -/
  sum_tagCounts : (s.tagCounts.map Prod.snd).sum = s.matched
  /-- The positions of the items that were not matched ascend. -/
  ascending : (s.failures.map Prod.fst).Pairwise (· < ·)
  /-- They are the positions of exactly these items. -/
  mem_positions : ∀ i, i ∈ s.failures.map Prod.fst ↔
    ∃ item, items[i]? = some item ∧ ownVerdict types u item ≠ .matched
  /-- The report beside a position is the one on the item there. -/
  report : ∀ i r, (i, r) ∈ s.failures →
    ∃ item, items[i]? = some item ∧ r = .ofItem types u item
  /-- The batch is well when every item is matched. -/
  ok : s.ok = true ↔ ∀ item ∈ items, ownVerdict types u item = .matched

theorem verdict_ofDispatch (types : Types) (u : UnionType) (d : Dispatch) :
    (DecodeReport.ofDispatch types u d).verdict = d.outcome.verdict := by
  unfold DecodeReport.ofDispatch
  cases d.outcome <;> rfl

/-- The report on an item has the item's own verdict. -/
theorem verdict_ofItem (types : Types) (u : UnionType) (item : Json) :
    (DecodeReport.ofItem types u item).verdict = ownVerdict types u item := by
  cases item with
  | obj members => exact verdict_ofDispatch types u _
  | _ => rfl

/-- An item that is matched is so with an enumerated tag, which the report on it names. -/
theorem exists_tagged_of_matched (h : ownVerdict types u item = .matched) :
    ∃ v ∈ u.tagged, ownTag? types u item = some v.tag ∧
      (DecodeReport.ofItem types u item).variant = some (v.tag, v.typeName) := by
  cases item with
  | obj members =>
    cases ho : (dispatch types u (Value.ofMembers members)).outcome with
    | matched v payload =>
      have hv : v ∈ u.tagged := by
        rw [dispatch_eq] at ho
        exact mem_of_select (dispatchOver_eq_matched_iff.1 ho).1
      refine ⟨v, hv, ?_, ?_⟩
      · simp only [ownTag?, ownOutcome, ho, Outcome.tag?]
      · simp only [DecodeReport.ofItem, DecodeReport.ofDispatch, ho]
    | failed v e => simp [ownVerdict, ownOutcome, ho, Outcome.verdict] at h
    | noMatch => simp [ownVerdict, ownOutcome, ho, Outcome.verdict] at h
  | _ => cases h

theorem reportOn_eq_error_iff :
    reportOn types u item = .error typeName ↔ BreaksOff types u item typeName := by
  unfold reportOn BreaksOff ownOutcome
  split
  · unfold Dispatch.undefined?
    split <;> rename_i hd <;> split at hd <;> simp_all
  · simp

theorem reportOn_eq_ok_iff : reportOn types u item = .ok r ↔
    (∀ typeName, ¬BreaksOff types u item typeName) ∧ r = .ofItem types u item := by
  cases h : reportOn types u item with
  | error n => simpa using fun hnone => absurd (reportOn_eq_error_iff.1 h) (hnone n)
  | ok r' =>
    have hnone (n : String) : ¬BreaksOff types u item n := fun hb =>
      nomatch h.symm.trans (reportOn_eq_error_iff.2 hb)
    have hr : r' = .ofItem types u item := by
      unfold reportOn at h
      split at h
      · split at h <;> cases h
        rfl
      · cases h
        rfl
    rw [Except.ok.injEq, hr, eq_comm]
    exact ⟨fun h => ⟨hnone, h⟩, And.right⟩

theorem ownVerdict_of_ownTag? {tag : String} (h : ownTag? types u item = some tag) :
    ownVerdict types u item = .matched := by
  unfold ownTag? Outcome.tag? at h
  unfold ownVerdict
  split at h
  · simp [*, Outcome.verdict]
  · cases h

/-! ## The pass over a batch -/

/-- The reports on the items of a batch that are not matched, with their positions. -/
def unmatched (types : Types) (u : UnionType) (items : List Json) : List (Nat × DecodeReport) :=
  (items.zipIdx.filter fun p => ownVerdict types u p.1 != .matched).map fun p =>
    (p.2, .ofItem types u p.1)

/-- What the pass keeps: the counts and the reports are those of the items so far. -/
structure Tallies (types : Types) (u : UnionType) (items : List Json) (s : CheckSummary) :
    Prop where
  /-- The summary is about the union. -/
  union : s.union = u.name
  /-- All items are counted. -/
  total : s.total = items.length
  /-- The items that are matched are counted. -/
  matched : s.matched = items.countP (ownVerdict types u · == .matched)
  /-- So are those that fit no variant. -/
  noMatch : s.noMatch = items.countP (ownVerdict types u · == .noMatch)
  /-- So are those that fail to decode. -/
  decodeErrors : s.decodeErrors = items.countP (ownVerdict types u · == .decodeError)
  /-- Each tag is listed with the number of items that are matched with it. -/
  tagCounts : s.tagCounts =
    u.tagged.map fun v => (v.tag, items.countP (ownTag? types u · == some v.tag))
  /-- The reports on the others are kept. -/
  failures : s.failures = unmatched types u items

theorem tallies_empty (types : Types) (u : UnionType) : Tallies types u [] (.empty u) :=
  ⟨rfl, rfl, rfl, rfl, rfl, rfl, rfl⟩

theorem unmatched_concat_of_matched (h : ownVerdict types u item = .matched) :
    unmatched types u (items ++ [item]) = unmatched types u items := by
  simp [unmatched, List.zipIdx_append, List.filter_append, h]

theorem unmatched_concat_of_not (h : ownVerdict types u item ≠ .matched) :
    unmatched types u (items ++ [item]) =
      unmatched types u items ++ [(items.length, .ofItem types u item)] := by
  simp [unmatched, List.zipIdx_append, List.filter_append, h]

/-- An item that is not matched is counted for no tag. -/
theorem countP_tag_concat_of_not (h : ownVerdict types u item ≠ .matched)
    (tag : String) :
    (items ++ [item]).countP (ownTag? types u · == some tag) =
      items.countP (ownTag? types u · == some tag) := by
  have hnone : ownTag? types u item ≠ some tag := fun htag => h (ownVerdict_of_ownTag? htag)
  simp [List.countP_append, hnone]

/-- The counts of the tags stay as they are for an item that is not matched. -/
theorem Tallies.tagCounts_of_not (h : Tallies types u items s)
    (hnot : ownVerdict types u item ≠ .matched) : s.tagCounts =
      u.tagged.map fun v => (v.tag, (items ++ [item]).countP (ownTag? types u · == some v.tag)) := by
  rw [h.tagCounts]
  simp only [countP_tag_concat_of_not hnot]

/-- The report on such an item is put behind the others. -/
theorem Tallies.failures_of_not (h : Tallies types u items s)
    (hnot : ownVerdict types u item ≠ .matched) :
    s.failures ++ [(s.total, .ofItem types u item)] = unmatched types u (items ++ [item]) := by
  rw [h.failures, h.total, unmatched_concat_of_not hnot]

/-- One more item that comes to a verdict is counted by its own outcome. -/
theorem Tallies.add (h : Tallies types u items s) :
    Tallies types u (items ++ [item]) (s.add (.ofItem types u item)) := by
  have hv := verdict_ofItem types u item
  unfold CheckSummary.add
  cases ho : ownVerdict types u item with
  | matched =>
    rw [hv, ho]
    dsimp only
    refine ⟨h.union, by simp [h.total], by simp [h.matched, ho], by simp [h.noMatch, ho],
      by simp [h.decodeErrors, ho], ?_, h.failures.trans (unmatched_concat_of_matched ho).symm⟩
    obtain ⟨v, -, htag, hvariant⟩ := exists_tagged_of_matched ho
    rw [hvariant]
    dsimp only
    rw [h.tagCounts, CheckSummary.countTag, List.map_map]
    refine List.map_congr_left fun w _ => ?_
    by_cases hw : w.tag = v.tag
    · simp [hw, htag]
    · simp [hw, Ne.symm hw, htag]
  | noMatch =>
    have hnot : ownVerdict types u item ≠ .matched := by simp [ho]
    rw [hv, ho]
    dsimp only
    exact ⟨h.union, by simp [h.total], by simp [h.matched, ho], by simp [h.noMatch, ho],
      by simp [h.decodeErrors, ho], h.tagCounts_of_not hnot, h.failures_of_not hnot⟩
  | decodeError =>
    have hnot : ownVerdict types u item ≠ .matched := by simp [ho]
    rw [hv, ho]
    dsimp only
    exact ⟨h.union, by simp [h.total], by simp [h.matched, ho], by simp [h.noMatch, ho],
      by simp [h.decodeErrors, ho], h.tagCounts_of_not hnot, h.failures_of_not hnot⟩

/-! ## What follows from the tallies -/

theorem length_eq_countP_verdicts (types : Types) (u : UnionType) (items : List Json) :
    items.length = items.countP (ownVerdict types u · == .matched) +
      items.countP (ownVerdict types u · == .noMatch) +
      items.countP (ownVerdict types u · == .decodeError) := by
  induction items with
  | nil => rfl
  | cons item items ih =>
    rw [List.length_cons, ih]
    cases ho : ownVerdict types u item <;> simp [ho] <;> omega

/-- A tag among some distinct ones is met once. -/
theorem sum_indicator_eq_one {tags : List String} {tag : String} (hd : tags.Nodup)
    (h : tag ∈ tags) : (tags.map fun t => if tag = t then 1 else 0).sum = 1 := by
  induction tags with
  | nil => cases h
  | cons t tags ih =>
    obtain ⟨ht, hd⟩ := List.nodup_cons.1 hd
    by_cases heq : tag = t
    · subst heq
      have hrest : (tags.map fun t => if tag = t then 1 else 0).sum = 0 := by
        refine List.sum_eq_zero fun n hn => ?_
        obtain ⟨t, hmem, rfl⟩ := List.mem_map.1 hn
        refine if_neg ?_
        rintro rfl
        exact ht hmem
      simp [hrest]
    · simpa [heq] using ih hd ((List.mem_cons.1 h).resolve_left heq)

/-- With distinct tags, the items that are matched are those that are counted for the tags. -/
theorem sum_countP_tags (hd : (u.tagged.map (·.tag)).Nodup) (types : Types) (items : List Json) :
    (u.tagged.map fun v => items.countP (ownTag? types u · == some v.tag)).sum =
      items.countP (ownVerdict types u · == .matched) := by
  induction items with
  | nil => simp
  | cons item items ih =>
    simp only [List.countP_cons, List.sum_map_add, ih, Nat.add_left_cancel_iff]
    by_cases ho : ownVerdict types u item = .matched
    · obtain ⟨v, hv, htag, -⟩ := exists_tagged_of_matched ho
      have hone := sum_indicator_eq_one hd (List.mem_map_of_mem hv)
      rw [List.map_map] at hone
      simpa [ho, htag, Function.comp_def] using hone
    · have hnone (tag : String) : ownTag? types u item ≠ some tag := fun htag =>
        ho (ownVerdict_of_ownTag? htag)
      simp [ho, hnone]

theorem mem_unmatched_iff {i : Nat} : (i, r) ∈ unmatched types u items ↔
    ∃ item, items[i]? = some item ∧ ownVerdict types u item ≠ .matched ∧
      r = .ofItem types u item := by
  simp only [unmatched, List.mem_map, List.mem_filter, bne_iff_ne, Prod.mk.injEq, Prod.exists,
    List.mk_mem_zipIdx_iff_getElem?]
  grind

/-- The positions of the items that are not matched. -/
theorem mem_positions_unmatched_iff {i : Nat} : i ∈ (unmatched types u items).map Prod.fst ↔
    ∃ item, items[i]? = some item ∧ ownVerdict types u item ≠ .matched := by
  simp only [List.mem_map, Prod.exists, exists_and_right, exists_eq_right, mem_unmatched_iff]
  grind

theorem ascending_unmatched (types : Types) (u : UnionType) (items : List Json) :
    ((unmatched types u items).map Prod.fst).Pairwise (· < ·) := by
  have hall : (items.zipIdx.map Prod.snd).Pairwise (· < ·) := by
    rw [List.zipIdx_map_snd]
    exact List.pairwise_lt_range'
  rw [unmatched, List.map_map]
  exact hall.sublist (List.filter_sublist.map Prod.snd)

theorem unmatched_eq_nil_iff : unmatched types u items = [] ↔
    ∀ item ∈ items, ownVerdict types u item = .matched := by
  constructor
  · intro h item hitem
    obtain ⟨i, hi⟩ := List.mem_iff_getElem?.1 hitem
    by_contra hnot
    have hmem := mem_unmatched_iff.2 ⟨item, hi, hnot, rfl⟩
    rw [h] at hmem
    cases hmem
  · intro h
    refine List.eq_nil_iff_forall_not_mem.2 ?_
    rintro ⟨i, r⟩ hmem
    obtain ⟨item, hi, hnot, -⟩ := mem_unmatched_iff.1 hmem
    exact hnot (h item (List.mem_of_getElem? hi))

/-- A batch is well when every item is matched. -/
theorem Tallies.ok_iff (h : Tallies types u items s) :
    s.ok = true ↔ ∀ item ∈ items, ownVerdict types u item = .matched := by
  rw [CheckSummary.ok, List.isEmpty_iff, h.failures]
  exact unmatched_eq_nil_iff

/-- The tallies over a union with distinct tags make a summary. -/
theorem Tallies.summarizes (h : Tallies types u items s) (hd : (u.tagged.map (·.tag)).Nodup) :
    Summarizes types u items s where
  union := h.union
  total := h.total
  parts := by
    rw [h.total, h.matched, h.noMatch, h.decodeErrors]
    exact length_eq_countP_verdicts types u items
  matched := h.matched
  noMatch := h.noMatch
  decodeErrors := h.decodeErrors
  tagCounts := h.tagCounts
  sum_tagCounts := by
    rw [h.tagCounts, h.matched, List.map_map]
    exact sum_countP_tags hd types items
  ascending := h.failures ▸ ascending_unmatched types u items
  mem_positions i := h.failures ▸ mem_positions_unmatched_iff
  report i r hr := by
    rw [h.failures, mem_unmatched_iff] at hr
    obtain ⟨item, hi, -, hr⟩ := hr
    exact ⟨item, hi, hr⟩
  ok := h.ok_iff

/-! ## Whole batches -/

/-- The pass keeps the tallies from any item to its end. -/
theorem Tallies.run {before : List Json} (h : Tallies types u before s) (items : List Json) :
    Tallies types u (before ++ items)
      (items.foldl (fun s item => s.add (.ofItem types u item)) s) := by
  induction items generalizing before s with
  | nil => simpa using h
  | cons item items ih => simpa using ih h.add

theorem tallies_check (types : Types) (u : UnionType) (items : List Json) :
    Tallies types u items (check types u items) := (tallies_empty types u).run items

/-- When no item breaks the batch off, the pass goes to its end. -/
theorem checkEach_eq_ok (h : ∀ item ∈ items, ∀ n, ¬BreaksOff types u item n) :
    checkEach types u items = .ok (check types u items) := by
  have hrun (s : CheckSummary) : items.foldlM (fun s item => s.add <$> reportOn types u item) s =
      .ok (items.foldl (fun s item => s.add (.ofItem types u item)) s) := by
    induction items generalizing s with
    | nil => rfl
    | cons item items ih =>
      obtain ⟨hitem, hitems⟩ := List.forall_mem_cons.1 h
      rw [List.foldlM_cons, reportOn_eq_ok_iff.2 ⟨hitem, rfl⟩]
      exact ih hitems _
  exact hrun _

/-- The first item that breaks the batch off decides how. -/
theorem checkEach_eq_error {before after : List Json}
    (h : ∀ b ∈ before, ∀ n, ¬BreaksOff types u b n)
    (hitem : BreaksOff types u item typeName) :
    checkEach types u (before ++ item :: after) = .error typeName := by
  have hbefore := checkEach_eq_ok h
  unfold checkEach at hbefore ⊢
  rw [List.foldlM_append, hbefore]
  show (item :: after).foldlM (fun s item => s.add <$> reportOn types u item)
    (check types u before) = _
  rw [List.foldlM_cons, reportOn_eq_error_iff.2 hitem]
  rfl

/-- Either no item breaks a batch off, or there is a first one that does. -/
theorem breaksOff_or (types : Types) (u : UnionType) (items : List Json) :
    (∀ item ∈ items, ∀ n, ¬BreaksOff types u item n) ∨
      ∃ before item after n, items = before ++ item :: after ∧
        (∀ b ∈ before, ∀ n, ¬BreaksOff types u b n) ∧ BreaksOff types u item n := by
  induction items with
  | nil => exact .inl fun _ h => nomatch h
  | cons item items ih =>
    by_cases hitem : ∃ n, BreaksOff types u item n
    · obtain ⟨n, hn⟩ := hitem
      exact .inr ⟨[], item, items, n, rfl, fun _ h => (nomatch h), hn⟩
    · rw [not_exists] at hitem
      obtain hall | ⟨before, x, after, n, rfl, hbefore, hx⟩ := ih
      · exact .inl (List.forall_mem_cons.2 ⟨hitem, hall⟩)
      · exact .inr ⟨item :: before, x, after, n, rfl,
          List.forall_mem_cons.2 ⟨hitem, hbefore⟩, hx⟩

/-- A check of a batch against a union.  When no item's own decoding breaks off, it summarizes the
items' own decodings; otherwise the first item whose decoding breaks off does so to the batch, for
the same model. -/
theorem checkEach_summarizes {mode : Mode} {name location : String} {variants : List Variant}
    (hu : assembleUnion mode name location variants = .ok u) (types : Types) (items : List Json) :
    ((∃ s, checkEach types u items = .ok s) ↔
      ∀ item ∈ items, ∀ n, ¬BreaksOff types u item n) ∧
    (∀ s, checkEach types u items = .ok s → Summarizes types u items s) ∧
    ∀ n, checkEach types u items = .error n ↔
      ∃ before item after, items = before ++ item :: after ∧
        (∀ b ∈ before, ∀ n, ¬BreaksOff types u b n) ∧ BreaksOff types u item n := by
  have hd : (u.tagged.map (·.tag)).Nodup := by
    obtain ⟨⟨hd, -⟩, rfl⟩ := assembleUnion_eq_ok_iff.1 hu
    have htags := hd.tags
    rw [List.map_map] at htags
    exact htags.sublist (List.filter_sublist.map _)
  obtain hnone | ⟨before, item, after, n, rfl, hbefore, hitem⟩ := breaksOff_or types u items
  · have hok := checkEach_eq_ok hnone
    refine ⟨iff_of_true ⟨_, hok⟩ hnone, fun s hs => ?_, fun n => iff_of_false ?_ ?_⟩
    · cases hok.symm.trans hs
      exact (tallies_check types u items).summarizes hd
    · intro he
      cases hok.symm.trans he
    · rintro ⟨before, item, after, rfl, -, hitem⟩
      exact hnone item (by simp) n hitem
  · have he : checkEach types u (before ++ item :: after) = .error n :=
      checkEach_eq_error hbefore hitem
    refine ⟨iff_of_false ?_ fun h => h item (by simp) n hitem, fun s hs => ?_,
      fun m => ⟨fun hm => ?_, ?_⟩⟩
    · rintro ⟨s, hs⟩
      cases he.symm.trans hs
    · cases he.symm.trans hs
    · cases he.symm.trans hm
      exact ⟨before, item, after, rfl, hbefore, hitem⟩
    · rintro ⟨before', item', after', hsplit, hbefore', hitem'⟩
      rw [hsplit]
      exact checkEach_eq_error hbefore' hitem'

/-! ## A batch that is broken off -/

/-- A definition that cannot be compiled, since one of its properties offers a text.  The union of
its other property is generated before that comes out. -/
def shelfDefinition : Json :=
  .obj [("type", .str "object"), ("properties", .obj [
    ("n", .obj [("oneOf", .arr [.obj [("type", .str "object"), ("properties", .obj [
      ("x", .obj [("$ref", .str "#/definitions/a")])])]])]),
    ("bad", .obj [("oneOf", .arr [.obj [("type", .str "string")]])])])]

/-- A union that refers to the property whose union is left behind. -/
def shelfDocument : Json :=
  .obj [("oneOf", .arr [.obj [("type", .str "object"), ("properties", .obj [
      ("q", .obj [("$ref", .str "#/definitions/a/properties/n")])])]]),
    ("definitions", .obj [("a", shelfDefinition)])]

/-- The state after the definition failed to compile and the union was generated. -/
def shelfState : Generation :=
  let start : Generation :=
    { store := (Store.empty fun _ => .unavailable "").add "memory:///schema.json" shelfDocument }
  let failed := ((compileModel { config := {} } "A"
    ⟨shelfDefinition, "memory:///schema.json", "/definitions/a"⟩).run start).2
  ((generate { config := {} } "box" ⟨shelfDocument, "memory:///schema.json", ""⟩).run failed).2

theorem reachable_shelfState : Reachable shelfState :=
  .generated _ _ _ (.compiled _ _ _ (.fresh _))

/-- The union of the document was assembled from its variants, and a property of it. -/
theorem assembled_shelf (p : UnionType → Bool)
    (h : (shelfState.types.union? 3).any (fun u => u.name == "Box" &&
      (u.source == some "memory:///schema.json#" && (u.structural && (u.hashing == .canonicalJson &&
        (decide (Distinguished (u.variants.map Variant.toDescriptor) ∧
          ∀ v ∈ u.variants, isReservedTag v.tag = false) && p u))))) = true) :
    ∃ u, shelfState.types.union? 3 = some u ∧
      assembleUnion { config := {} } "Box" "memory:///schema.json#" u.variants = .ok u ∧
      p u = true := by
  obtain ⟨u, hu, h⟩ := (Option.any_eq_true _ _).1 h
  simp only [Bool.and_eq_true, beq_iff_eq, decide_eq_true_eq] at h
  obtain ⟨hname, hsource, hstructural, hhashing, hfit, hp⟩ := h
  refine ⟨u, hu, assembleUnion_eq_ok_iff.2 ⟨hfit, ?_⟩, hp⟩
  obtain ⟨name, source, variants, structural, hashing⟩ := u
  simp_all

/-- Items that come to a verdict: two are matched, one is no object and one fails to decode. -/
def shelfItems : List Json := [.obj [], .int 5, .obj [("q", .int 7)], .obj []]

theorem checkEach_shelfItems : ∃ u s, shelfState.types.union? 3 = some u ∧
    checkEach shelfState.types u shelfItems = .ok s ∧
    Summarizes shelfState.types u shelfItems s := by
  obtain ⟨u, hu, hassembled, hp⟩ := assembled_shelf
    (fun u => (checkEach shelfState.types u shelfItems).isOk) (by decide +kernel)
  cases hs : checkEach shelfState.types u shelfItems with
  | ok s =>
    exact ⟨u, s, hu, hs, (checkEach_summarizes hassembled _ _).2.1 s hs⟩
  | error n =>
    rw [hs] at hp
    cases hp

/-- A reachable union and a batch that is broken off, so that there is no summary at all. -/
theorem exists_not_summarizes : ∃ u, Reachable shelfState ∧
    shelfState.types.union? 3 = some u ∧
    assembleUnion { config := {} } "Box" "memory:///schema.json#" u.variants = .ok u ∧
    ¬∃ s, checkEach shelfState.types u [.obj [], .obj [("q", .obj [])]] = .ok s ∧
      Summarizes shelfState.types u [.obj [], .obj [("q", .obj [])]] s := by
  obtain ⟨u, hu, hassembled, hp⟩ := assembled_shelf
    (fun u => !(checkEach shelfState.types u [.obj [], .obj [("q", .obj [])]]).isOk)
    (by decide +kernel)
  refine ⟨u, reachable_shelfState, hu, hassembled, ?_⟩
  rintro ⟨s, hs, -⟩
  rw [hs] at hp
  cases hp

end ShapeSum
