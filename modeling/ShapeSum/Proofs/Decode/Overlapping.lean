import Mathlib.Data.List.Forall2
import ShapeSum.Proofs.Generation.Assembling

/-!
# Variants that share objects

Two descriptors overlap exactly when some set of keys fits both: all required fields of
the two fit when any set does.  So the pairs of tags that a union reports are those of the
variants that share a set of keys.

When a union reports none, a set of keys fits at most one variant.  The first variant that
fits is then the only one, and it does not matter in which order the variants are tried.
-/

namespace ShapeSum

variable {ds : List Descriptor} {keys : List String} {u : UnionType} {variants : List Variant}

/-! ## Two descriptors -/

/-- The required fields of two descriptors fit both when any set of keys does. -/
theorem overlaps_iff (a b : Descriptor) :
    a.overlaps b = true ↔ ∃ keys, a.Fits keys ∧ b.Fits keys := by
  simp only [Descriptor.overlaps, Bool.and_eq_true, List.all_eq_true, List.contains_iff_mem,
    Descriptor.mem_fields]
  constructor
  · rintro ⟨hb, ha⟩
    refine ⟨a.required ++ b.required, ⟨fun f hf => by simp [hf], fun k hk => ?_⟩,
      fun f hf => by simp [hf], fun k hk => ?_⟩
    · obtain hk | hk := List.mem_append.1 hk
      · exact .inl hk
      · exact hb k hk
    · obtain hk | hk := List.mem_append.1 hk
      · exact ha k hk
      · exact .inl hk
  · rintro ⟨keys, ha, hb⟩
    exact ⟨fun f hf => ha.2 f (hb.1 f hf), fun f hf => hb.2 f (ha.1 f hf)⟩

/-! ## The pairs of a union -/

/-- Two places of a list of descriptors, the earlier one first, whose descriptors share a set of
keys. -/
def ShareKeys (ds : List Descriptor) (i j : Nat) : Prop :=
  i < j ∧ ∃ a b, ds[i]? = some a ∧ ds[j]? = some b ∧ ∃ keys, a.Fits keys ∧ b.Fits keys

/-- The pairs of places whose descriptors share a set of keys, in order. -/
structure SharingPlaces (ds : List Descriptor) (places : List (Nat × Nat)) : Prop where
  /-- They come by the earlier place, and then by the later one. -/
  ascending : places.Pairwise fun p q => p.1 < q.1 ∨ p.1 = q.1 ∧ p.2 < q.2
  /-- They are the ones that share a set of keys. -/
  mem : ∀ i j, (i, j) ∈ places ↔ ShareKeys ds i j

/-- A pair of tags stands for a pair of places. -/
def TagsAt (ds : List Descriptor) (place : Nat × Nat) (tags : String × String) : Prop :=
  (ds[place.1]?).map Descriptor.tag = some tags.1 ∧ (ds[place.2]?).map Descriptor.tag = some tags.2

/-- The places after the first one whose descriptors overlap with it. -/
def placesAfter (d : Descriptor) (ds : List Descriptor) : List (Nat × Nat) :=
  (ds.zipIdx.filter (d.overlaps ·.1)).map fun e => (0, e.2 + 1)

/-- A pair of places one further on. -/
def shiftPlaces (place : Nat × Nat) : Nat × Nat := (place.1 + 1, place.2 + 1)

/-- The pairs of places whose descriptors overlap. -/
def overlappingPlaces : List Descriptor → List (Nat × Nat)
  | [] => []
  | d :: ds => placesAfter d ds ++ (overlappingPlaces ds).map shiftPlaces

theorem mem_placesAfter {d : Descriptor} {i j : Nat} :
    (i, j) ∈ placesAfter d ds ↔
      i = 0 ∧ ∃ n e, j = n + 1 ∧ ds[n]? = some e ∧ d.overlaps e = true := by
  simp only [placesAfter, List.mem_map, List.mem_filter, Prod.exists, Prod.mk.injEq,
    List.mem_zipIdx_iff_getElem?]
  constructor
  · rintro ⟨e, n, ⟨he, ho⟩, rfl, rfl⟩
    exact ⟨rfl, n, e, rfl, he, ho⟩
  · rintro ⟨rfl, n, e, rfl, he, ho⟩
    exact ⟨e, n, ⟨he, ho⟩, rfl, rfl⟩

theorem ascending_placesAfter (d : Descriptor) (ds : List Descriptor) :
    (placesAfter d ds).Pairwise fun p q => p.1 < q.1 ∨ p.1 = q.1 ∧ p.2 < q.2 := by
  have hall : ds.zipIdx.Pairwise fun e f => e.2 < f.2 := by
    have hsnd := List.pairwise_lt_range' (s := 0) (n := ds.length) 1
    rwa [← List.zipIdx_map_snd, List.pairwise_map] at hsnd
  refine List.pairwise_map.2 ((hall.filter _).imp ?_)
  intro e f h
  exact .inr ⟨rfl, by simpa using h⟩

theorem mem_overlappingPlaces {i j : Nat} : (i, j) ∈ overlappingPlaces ds ↔ ShareKeys ds i j := by
  induction ds generalizing i j with
  | nil => simp [overlappingPlaces, ShareKeys]
  | cons d ds ih =>
    simp only [overlappingPlaces, List.mem_append, mem_placesAfter, List.mem_map, shiftPlaces,
      Prod.exists, Prod.mk.injEq]
    constructor
    · rintro (⟨rfl, n, e, rfl, he, ho⟩ | ⟨k, l, hkl, rfl, rfl⟩)
      · exact ⟨by omega, d, e, rfl, by simpa using he, (overlaps_iff d e).1 ho⟩
      · obtain ⟨hlt, a, b, ha, hb, hkeys⟩ := ih.1 hkl
        exact ⟨by omega, a, b, by simpa using ha, by simpa using hb, hkeys⟩
    · rintro ⟨hlt, a, b, ha, hb, hkeys⟩
      obtain ⟨l, rfl⟩ : ∃ l, j = l + 1 := ⟨j - 1, by omega⟩
      cases i with
      | zero =>
        obtain rfl : d = a := by simpa using ha
        exact .inl ⟨rfl, l, b, rfl, by simpa using hb, (overlaps_iff d b).2 hkeys⟩
      | succ k =>
        exact .inr ⟨k, l, ih.2 ⟨by omega, a, b, by simpa using ha, by simpa using hb, hkeys⟩,
          rfl, rfl⟩

theorem sharingPlaces_overlappingPlaces (ds : List Descriptor) :
    SharingPlaces ds (overlappingPlaces ds) := by
  refine ⟨?_, fun i j => mem_overlappingPlaces⟩
  induction ds with
  | nil => exact .nil
  | cons d ds ih =>
    refine List.pairwise_append.2 ⟨ascending_placesAfter d ds, ?_, ?_⟩
    · simpa [List.pairwise_map, shiftPlaces] using ih
    · rintro ⟨i, j⟩ hp q hq
      obtain ⟨p', -, rfl⟩ := List.mem_map.1 hq
      obtain ⟨rfl, -⟩ := mem_placesAfter.1 hp
      exact .inl (by simp [shiftPlaces])

theorem filter_eq_map_zipIdx (d : Descriptor) (ds : List Descriptor) :
    ds.filter d.overlaps = (ds.zipIdx.filter (d.overlaps ·.1)).map Prod.fst := by
  conv_lhs => rw [← List.zipIdx_map_fst 0 ds]
  rw [List.filter_map]
  rfl

/-- The pairs of tags are those of the pairs of places. -/
theorem forall₂_tagsAt (ds : List Descriptor) :
    List.Forall₂ (TagsAt ds) (overlappingPlaces ds) (overlapping ds) := by
  induction ds with
  | nil => exact .nil
  | cons d ds ih =>
    refine List.rel_append ?_ ?_
    · rw [filter_eq_map_zipIdx, placesAfter, List.map_map, List.forall₂_map_left_iff,
        List.forall₂_map_right_iff, List.forall₂_same]
      rintro ⟨e, n⟩ hmem
      have he : ds[n]? = some e := List.mem_zipIdx_iff_getElem?.1 (List.mem_filter.1 hmem).1
      simp [TagsAt, he]
    · rw [List.forall₂_map_left_iff]
      exact ih.imp fun p t h => by simpa [TagsAt, shiftPlaces] using h

/-! ## The order of the variants -/

/-- The variants that fit some keys are all at one place. -/
def FitsAtMostOne (variants : List Variant) : Prop :=
  ∀ (keys : List String) (i j : Nat) (v w : Variant), variants[i]? = some v →
    variants[j]? = some w → v.Fits keys → w.Fits keys → i = j

/-- No pair of tags is reported exactly when every set of keys fits at most one variant. -/
theorem overlapping_eq_nil_iff :
    overlapping (variants.map Variant.toDescriptor) = [] ↔ FitsAtMostOne variants := by
  have hlength := (forall₂_tagsAt (variants.map Variant.toDescriptor)).length_eq
  have hmem := (sharingPlaces_overlappingPlaces (variants.map Variant.toDescriptor)).mem
  rw [← List.length_eq_zero_iff, ← hlength, List.length_eq_zero_iff,
    List.eq_nil_iff_forall_not_mem]
  constructor
  · intro hnone keys i j v w hv hw hfv hfw
    -- Of two different places the earlier one makes a pair with the later one.
    have hshare {k l : Nat} {a b : Variant} (hlt : k < l) (ha : variants[k]? = some a)
        (hb : variants[l]? = some b) (hfa : a.Fits keys) (hfb : b.Fits keys) : False :=
      hnone (k, l) ((hmem k l).2
        ⟨hlt, a.toDescriptor, b.toDescriptor, by simp [ha], by simp [hb], keys, hfa, hfb⟩)
    obtain hlt | heq | hlt := Nat.lt_trichotomy i j
    · exact (hshare hlt hv hw hfv hfw).elim
    · exact heq
    · exact (hshare hlt hw hv hfw hfv).elim
  · rintro hone ⟨i, j⟩ hp
    obtain ⟨hlt, a, b, ha, hb, keys, hfa, hfb⟩ := (hmem i j).1 hp
    simp only [List.getElem?_map, Option.map_eq_some_iff] at ha hb
    obtain ⟨v, hv, rfl⟩ := ha
    obtain ⟨w, hw, rfl⟩ := hb
    have heq := hone keys i j v w hv hw hfa hfb
    omega

/-- When at most one variant fits, the first one that does is the same in every order. -/
theorem firstFit?_perm {variants' : List Variant} (hone : FitsAtMostOne variants)
    (hp : variants'.Perm variants) (keys : List String) :
    firstFit? keys variants' = firstFit? keys variants := by
  have heq {v w : Variant} (hv : v ∈ variants) (hw : w ∈ variants) (hfv : v.Fits keys)
      (hfw : w.Fits keys) : v = w := by
    obtain ⟨i, hi⟩ := List.mem_iff_getElem?.1 hv
    obtain ⟨j, hj⟩ := List.mem_iff_getElem?.1 hw
    obtain rfl := hone keys i j v w hi hj hfv hfw
    simpa [hi] using hj
  unfold firstFit?
  cases h : variants.find? fun v => decide (v.Fits keys) with
  | none =>
    rw [List.find?_eq_none] at h ⊢
    exact fun v hv => h v (hp.subset hv)
  | some v =>
    have hv : v ∈ variants := List.mem_of_find?_eq_some h
    have hfv : v.Fits keys := by simpa using List.find?_some h
    cases h' : variants'.find? fun v => decide (v.Fits keys) with
    | none => simpa [hfv] using List.find?_eq_none.1 h' v (hp.symm.subset hv)
    | some w =>
      have hfw : w.Fits keys := by simpa using List.find?_some h'
      rw [heq hv (hp.subset (List.mem_of_find?_eq_some h')) hfv hfw]

/-- A selection finds the first variant that fits, whatever the order of its fields. -/
theorem select_snd (keys : List String) (variants : List Variant) :
    (select keys variants).2 = firstFit? keys variants := by
  induction variants with
  | nil => rfl
  | cons v vs ih =>
    have hiff := v.toDescriptor.fits_iff keys
    cases hm : v.toDescriptor.missingFrom keys with
    | cons m ms =>
      rw [firstFit?_cons_of_not_fits (by simp [hiff, hm])]
      simpa [select, Descriptor.rejection?, hm] using ih
    | nil =>
      cases he : v.toDescriptor.extraIn keys with
      | cons e es =>
        rw [firstFit?_cons_of_not_fits (by simp [hiff, he])]
        simpa [select, Descriptor.rejection?, hm, he] using ih
      | nil =>
        rw [firstFit?_cons_of_fits (hiff.2 ⟨hm, he⟩)]
        simp [select, Descriptor.rejection?, hm, he]

/-- Two unions that enumerate the same variants in different orders dispatch alike when at most one
variant fits. -/
theorem outcome_dispatch_perm {u' : UnionType} (hone : FitsAtMostOne u.tagged)
    (hp : u'.tagged.Perm u.tagged) (types : Types) (entries : List (String × Value)) :
    (dispatch types u' entries).keys = (dispatch types u entries).keys ∧
      (dispatch types u' entries).outcome = (dispatch types u entries).outcome := by
  rw [dispatch_eq, dispatch_eq]
  simp only [dispatchOver, select_snd, firstFit?_perm hone hp, and_self]

/-- Two descriptors overlap exactly when some set of keys fits both.  A union that enumerates its
variants reports the pairs of those that share a set of keys; when it reports none, every set of
keys fits at most one variant, and the union made of the same variants in another order takes
every object in the same way. -/
theorem overlaps_correct :
    (∀ a b : Descriptor, a.overlaps b = true ↔ ∃ keys, a.Fits keys ∧ b.Fits keys) ∧
    ∀ (mode : Mode) (name location : String) (variants : List Variant) (u : UnionType),
      assembleUnion mode name location variants = .ok u → u.tagged = u.variants →
      (∃ places, SharingPlaces (variants.map Variant.toDescriptor) places ∧
        List.Forall₂ (TagsAt (variants.map Variant.toDescriptor)) places u.overlapping) ∧
      (u.overlapping = [] → FitsAtMostOne variants ∧
        ∀ variants', variants'.Perm variants →
          ∃ u', assembleUnion mode name location variants' = .ok u' ∧ u'.tagged = variants' ∧
            ∀ types entries,
              (dispatch types u' entries).keys = (dispatch types u entries).keys ∧
              (dispatch types u' entries).outcome = (dispatch types u entries).outcome) := by
  refine ⟨overlaps_iff, ?_⟩
  intro mode name location variants u hu htagged
  obtain ⟨⟨hd, hreserved⟩, hvariants⟩ := assembleUnion_eq_ok_iff.1 hu
  have hall : u.variants = variants := by rw [hvariants]
  have hover : u.overlapping = overlapping (variants.map Variant.toDescriptor) := by
    rw [UnionType.overlapping, htagged, hall]
  rw [hover]
  refine ⟨⟨_, sharingPlaces_overlappingPlaces _, forall₂_tagsAt _⟩, ?_⟩
  intro hnil
  have hone := overlapping_eq_nil_iff.1 hnil
  refine ⟨hone, ?_⟩
  intro variants' hp
  obtain ⟨u', hu'⟩ : ∃ u', assembleUnion mode name location variants' = .ok u' :=
    ⟨_, assembleUnion_eq_ok_iff.2 ⟨⟨hd.perm (hp.symm.map _), fun v hv =>
      hreserved v (hp.subset hv)⟩, rfl⟩⟩
  have hvariants' : u'.variants = variants' := by
    obtain ⟨-, rfl⟩ := assembleUnion_eq_ok_iff.1 hu'
    rfl
  have htagged' : u'.tagged = variants' := by
    rw [← hvariants', tagged_eq_iff]
    intro v hv
    exact tagged_eq_iff.1 htagged v (by rw [hall]; exact hp.subset (hvariants' ▸ hv))
  refine ⟨u', hu', htagged', fun types entries => ?_⟩
  refine outcome_dispatch_perm ?_ ?_ types entries
  · rw [htagged, hall]
    exact hone
  · rw [htagged, htagged', hall]
    exact hp

/-- Two variants with required fields of their own. -/
def apartVariants : List Variant :=
  [⟨⟨"CAT", "Cat", ["meow"], ["name"], none⟩, 0⟩, ⟨⟨"DOG", "Dog", ["bark"], ["name"], none⟩, 1⟩]

/-- They make a union that reports no pairs, and in the other order one that dispatches alike. -/
theorem overlaps_correct_apartVariants :
    ∃ u u', assembleUnion { config := {} } "Pet" "memory:///schema.json#" apartVariants = .ok u ∧
      u.tagged = u.variants ∧ u.overlapping = [] ∧ FitsAtMostOne apartVariants ∧
      assembleUnion { config := {} } "Pet" "memory:///schema.json#" apartVariants.reverse =
        .ok u' ∧
      ∀ types entries, (dispatch types u' entries).outcome = (dispatch types u entries).outcome := by
  obtain ⟨u, hu⟩ : ∃ u, assembleUnion { config := {} } "Pet" "memory:///schema.json#"
      apartVariants = .ok u :=
    ⟨_, assembleUnion_eq_ok_iff.2 ⟨⟨by decide, by decide +kernel⟩, rfl⟩⟩
  have hvariants : u.variants = apartVariants := by
    obtain ⟨-, rfl⟩ := assembleUnion_eq_ok_iff.1 hu
    rfl
  have htagged : u.tagged = u.variants := by
    rw [tagged_eq_iff, hvariants]
    decide +kernel
  have hnil : u.overlapping = [] := by
    rw [UnionType.overlapping, htagged, hvariants]
    decide +kernel
  obtain ⟨hone, hperm⟩ := (overlaps_correct.2 _ _ _ _ u hu htagged).2 hnil
  obtain ⟨u', hu', -, hsame⟩ := hperm apartVariants.reverse (List.reverse_perm _)
  exact ⟨u, u', hu, htagged, hnil, hone, hu', fun types entries => (hsame types entries).2⟩

end ShapeSum
