import Mathlib.Data.List.Nodup
import ShapeSum.Proofs.Decode.Selection
import ShapeSum.Proofs.Naming.Tags
import ShapeSum.Report.Decoding

/-!
# The union made of some variants

The variants of a union have type names of their own and tags of their own.  A list of
variants that has not is refused for the first variant that clashes with one before it,
and any other list is refused for a reserved tag only.

A union that is made holds the variants in order.  Everything that is done with the union
walks over the enumeration of its tags, so it sees all variants exactly when none of their
tags is hidden (`enumerates_iff`).  `assembleUnion_iff` says when that is.
-/

namespace ShapeSum

variable {union : String} {ds before : List Descriptor} {d : Descriptor} {e : GenerationError}

/-! ## Clashes -/

/-- Descriptors that are told apart by their type names and by their tags. -/
structure Distinguished (ds : List Descriptor) : Prop where
  /-- The type names are distinct. -/
  typeNames : (ds.map Descriptor.typeName).Nodup
  /-- The tags are distinct. -/
  tags : (ds.map Descriptor.tag).Nodup

instance (ds : List Descriptor) : Decidable (Distinguished ds) :=
  decidable_of_iff ((ds.map Descriptor.typeName).Nodup ∧ (ds.map Descriptor.tag).Nodup)
    ⟨fun h => ⟨h.1, h.2⟩, fun h => ⟨h.typeNames, h.tags⟩⟩

/-- A descriptor shares its type name or its tag with one of some others. -/
def Descriptor.ClashesWith (d : Descriptor) (others : List Descriptor) : Prop :=
  d.typeName ∈ others.map Descriptor.typeName ∨ d.tag ∈ others.map Descriptor.tag

/-- The first descriptor of a list that clashes with one before it, and those before it. -/
structure FirstClash (ds before : List Descriptor) (d : Descriptor) : Prop where
  /-- The list starts with them. -/
  starts : before ++ [d] <+: ds
  /-- Nothing clashes before. -/
  distinguished : Distinguished before
  /-- The descriptor clashes. -/
  clashes : d.ClashesWith before

/-- The error for a descriptor that clashes with one before it.  The type name comes first. -/
inductive ClashError (union : String) (before : List Descriptor) (d : Descriptor) :
    GenerationError → Prop
  /-- The type name came up before. -/
  | typeName : d.typeName ∈ before.map Descriptor.typeName →
      ClashError union before d (.duplicateVariant union d.typeName)
  /-- The tag came up before. -/
  | tag {e : Descriptor} : d.typeName ∉ before.map Descriptor.typeName → e ∈ before →
      e.tag = d.tag → ClashError union before d (.tagCollision d.tag e.typeName d.typeName)

theorem Distinguished.nil : Distinguished [] := ⟨by simp, by simp⟩

theorem distinguished_concat :
    Distinguished (ds ++ [d]) ↔ Distinguished ds ∧ ¬d.ClashesWith ds := by
  constructor
  · intro h
    obtain ⟨hnames, htags⟩ := h
    simp only [List.map_append, List.map_cons, List.map_nil, List.nodup_append, List.mem_singleton,
      List.nodup_singleton, forall_eq, true_and] at hnames htags
    exact ⟨⟨hnames.1, htags.1⟩, fun hc => hc.elim (fun hm => hnames.2 _ hm rfl)
      (fun hm => htags.2 _ hm rfl)⟩
  · rintro ⟨⟨hnames, htags⟩, hc⟩
    simp only [Descriptor.ClashesWith, not_or] at hc
    constructor
    · simpa [List.nodup_append, hnames] using fun e he h => hc.1 (by simpa using ⟨e, he, h⟩)
    · simpa [List.nodup_append, htags] using fun e he h => hc.2 (by simpa using ⟨e, he, h⟩)

theorem Distinguished.of_isPrefix {es : List Descriptor} (h : Distinguished es) (hp : ds <+: es) :
    Distinguished ds :=
  ⟨h.typeNames.sublist (hp.sublist.map _), h.tags.sublist (hp.sublist.map _)⟩

theorem Distinguished.perm {es : List Descriptor} (h : Distinguished ds) (hp : ds.Perm es) :
    Distinguished es :=
  ⟨(hp.map _).nodup_iff.1 h.typeNames, (hp.map _).nodup_iff.1 h.tags⟩

theorem FirstClash.not_distinguished (h : FirstClash ds before d) : ¬Distinguished ds :=
  fun hd => (distinguished_concat.1 (hd.of_isPrefix h.starts)).2 h.clashes

/-- Two lists with a first clash start alike up to it. -/
theorem FirstClash.unique {before' : List Descriptor} {d' : Descriptor}
    (h : FirstClash ds before d) (h' : FirstClash ds before' d') : before = before' ∧ d = d' := by
  -- Of two different places the later one would have the earlier clash before it.
  have hshort {b b' : List Descriptor} {x x' : Descriptor} (hx : FirstClash ds b x)
      (hx' : FirstClash ds b' x') : ¬b.length < b'.length := by
    intro hlt
    have hp : b ++ [x] <+: b' := List.prefix_of_prefix_length_le hx.starts
      ((List.prefix_append b' [x']).trans hx'.starts) (by simp; omega)
    exact (distinguished_concat.1 (hx'.distinguished.of_isPrefix hp)).2 hx.clashes
  have hlength : before.length = before'.length := by
    have h₁ := hshort h h'
    have h₂ := hshort h' h
    omega
  have heq : before ++ [d] = before' ++ [d'] :=
    (List.prefix_of_prefix_length_le h.starts h'.starts (by simp [hlength])).eq_of_length
      (by simp [hlength])
  simpa using List.append_inj heq hlength

theorem ClashError.unique {e' : GenerationError} (hd : Distinguished before)
    (h : ClashError union before d e) (h' : ClashError union before d e') : e = e' := by
  cases h with
  | typeName hn =>
    cases h' with
    | typeName => rfl
    | tag hn' => contradiction
  | tag hn hm ht =>
    cases h' with
    | typeName hn' => contradiction
    | tag _ hm' ht' => rw [List.inj_on_of_nodup_map hd.tags hm hm' (ht.trans ht'.symm)]

/-- What the search for a clash finds behind some descriptors that do not clash. -/
theorem variantClash?_spec (union : String) (seen ds : List Descriptor)
    (hseen : Distinguished seen.reverse) :
    match variantClash? union seen ds with
    | none => Distinguished (seen.reverse ++ ds)
    | some e => ∃ before d,
      FirstClash (seen.reverse ++ ds) before d ∧ ClashError union before d e := by
  induction ds generalizing seen with
  | nil => simpa [variantClash?] using hseen
  | cons d ds ih =>
    have hstarts : seen.reverse ++ [d] <+: seen.reverse ++ d :: ds := by simp
    by_cases hn : d.typeName ∈ seen.reverse.map Descriptor.typeName
    · have hany : seen.any (·.typeName == d.typeName) = true := by simpa using hn
      simp only [variantClash?, hany, if_true]
      exact ⟨_, d, ⟨hstarts, hseen, .inl hn⟩, .typeName hn⟩
    · have hany : seen.any (·.typeName == d.typeName) = false := by simpa using hn
      simp only [variantClash?, hany, Bool.false_eq_true, if_false]
      cases hf : seen.find? (·.tag == d.tag) with
      | some e =>
        have hm : e ∈ seen.reverse := by simpa using List.mem_of_find?_eq_some hf
        have ht : e.tag = d.tag := by simpa using List.find?_some hf
        exact ⟨_, d, ⟨hstarts, hseen, .inr (by simpa using ⟨e, by simpa using hm, ht⟩)⟩,
          .tag hn hm ht⟩
      | none =>
        have ht : d.tag ∉ seen.reverse.map Descriptor.tag := by
          simpa using hf
        have h := ih (d :: seen) (by
          simpa using distinguished_concat.2 ⟨hseen, fun hc => hc.elim hn ht⟩)
        simpa using h

theorem variantClash?_eq_none_iff (union : String) (ds : List Descriptor) :
    variantClash? union [] ds = none ↔ Distinguished ds := by
  have hspec := variantClash?_spec union [] ds .nil
  cases h : variantClash? union [] ds with
  | none => simpa [h] using hspec
  | some e =>
    rw [h] at hspec
    obtain ⟨before, d, hfirst, -⟩ := hspec
    simpa using hfirst.not_distinguished

/-- The search for a clash finds the first one. -/
theorem variantClash?_eq_some_iff : variantClash? union [] ds = some e ↔
    ∃ before d, FirstClash ds before d ∧ ClashError union before d e := by
  have hspec := variantClash?_spec union [] ds .nil
  constructor
  · intro h
    simpa [h] using hspec
  · rintro ⟨before, d, hfirst, herror⟩
    cases h : variantClash? union [] ds with
    | none => exact absurd ((variantClash?_eq_none_iff union ds).1 h) hfirst.not_distinguished
    | some e' =>
      rw [h] at hspec
      obtain ⟨before', d', hfirst', herror'⟩ := hspec
      obtain ⟨rfl, rfl⟩ := hfirst.unique hfirst'
      rw [herror.unique hfirst.distinguished herror']

/-! ## The enumeration -/

variable {u : UnionType} {variants : List Variant}

/-- A union whose tags are enumerated one for each of some variants, so that nothing that is done
with the union misses one of them. -/
structure Enumerates (u : UnionType) (variants : List Variant) : Prop where
  /-- The union holds the variants in order. -/
  variants_eq : u.variants = variants
  /-- So does the enumeration. -/
  tagged_eq : u.tagged = variants
  /-- A dispatch tries them in turn. -/
  dispatch_eq : ∀ types entries, dispatch types u entries =
    dispatchOver variants (Entries.keys entries) fun v => materialize types v.type (.dict entries)
  /-- A description lists them. -/
  describe_eq : u.describe = .obj [("name", .str u.name), ("source", optionalText u.source),
    ("variants", .arr (variants.map fun v => v.toDescriptor.describe)),
    ("overlapping", .arr ((overlapping (variants.map Variant.toDescriptor)).map fun (a, b) =>
      textArray [a, b]))]
  /-- A check counts for each of them. -/
  check_eq : ∀ types items, (check types u items).tagCounts.map Prod.fst = variants.map (·.tag)

theorem tagged_eq_iff : u.tagged = u.variants ↔ ∀ v ∈ u.variants, isHiddenTag v.tag = false := by
  simp [UnionType.tagged, List.filter_eq_self]

theorem keys_countTag (tag : String) (counts : List (String × Nat)) :
    (CheckSummary.countTag tag counts).map Prod.fst = counts.map Prod.fst := by
  simp [CheckSummary.countTag, Function.comp_def]

/-- One more item does not change which tags are counted. -/
theorem keys_tagCounts_add (s : CheckSummary) (r : DecodeReport) :
    (s.add r).tagCounts.map Prod.fst = s.tagCounts.map Prod.fst := by
  unfold CheckSummary.add
  cases r.verdict with
  | matched =>
    cases r.variant with
    | none => rfl
    | some v => exact keys_countTag v.1 s.tagCounts
  | noMatch => rfl
  | decodeError => rfl

/-- The tags that are counted are the ones that are enumerated. -/
theorem keys_tagCounts_check (types : Types) (u : UnionType) (items : List Json) :
    (check types u items).tagCounts.map Prod.fst = u.tagged.map (·.tag) := by
  have hrun (s : CheckSummary) : (items.foldl (fun s item => s.add (.ofItem types u item))
      s).tagCounts.map Prod.fst = s.tagCounts.map Prod.fst := by
    induction items generalizing s with
    | nil => rfl
    | cons item items ih =>
      rw [List.foldl_cons, ih]
      exact keys_tagCounts_add s _
  simp [check, hrun, CheckSummary.empty]

/-- A union enumerates its variants exactly when no tag is hidden. -/
theorem enumerates_iff :
    Enumerates u variants ↔ u.variants = variants ∧ ∀ v ∈ variants, isHiddenTag v.tag = false := by
  constructor
  · intro h
    have htagged : u.tagged = u.variants := h.tagged_eq.trans h.variants_eq.symm
    refine ⟨h.variants_eq, ?_⟩
    rw [← h.variants_eq]
    exact tagged_eq_iff.1 htagged
  · rintro ⟨rfl, h⟩
    have htagged : u.tagged = u.variants := tagged_eq_iff.2 h
    refine ⟨rfl, htagged, fun types entries => ?_, ?_, fun types items => ?_⟩
    · rw [dispatch_eq, htagged]
    · simp [UnionType.describe, UnionType.overlapping, htagged]
    · rw [keys_tagCounts_check, htagged]

/-! ## Making a union -/

theorem unionFault?_eq_none_iff : unionFault? union ds = none ↔
    Distinguished ds ∧ ∀ d ∈ ds, isReservedTag d.tag = false := by
  unfold unionFault?
  rw [← variantClash?_eq_none_iff union ds]
  cases variantClash? union [] ds with
  | none => simp
  | some e => simp

/-- A clash is reported first. -/
theorem unionFault?_eq_generation_iff : unionFault? union ds = some (.generation e) ↔
    ∃ before d, FirstClash ds before d ∧ ClashError union before d e := by
  unfold unionFault?
  rw [← variantClash?_eq_some_iff]
  cases variantClash? union [] ds with
  | none => simp
  | some e => simp

/-- There are two kinds of clashes. -/
theorem exists_unionFault?_eq_clash_iff :
    ((∃ typeName, unionFault? union ds = some (.generation (.duplicateVariant union typeName))) ∨
      ∃ tag first second,
        unionFault? union ds = some (.generation (.tagCollision tag first second))) ↔
    ¬Distinguished ds := by
  constructor
  · have hnot (e : GenerationError) (h : unionFault? union ds = some (.generation e)) :
        ¬Distinguished ds := by
      obtain ⟨before, d, hfirst, -⟩ := unionFault?_eq_generation_iff.1 h
      exact hfirst.not_distinguished
    rintro (⟨n, h⟩ | ⟨t, a, b, h⟩)
    · exact hnot _ h
    · exact hnot _ h
  · intro hd
    rw [← variantClash?_eq_none_iff union, Option.eq_none_iff_forall_ne_some] at hd
    push Not at hd
    obtain ⟨e, he⟩ := hd
    obtain ⟨before, d, hfirst, herror⟩ := variantClash?_eq_some_iff.1 he
    have hfault := unionFault?_eq_generation_iff.2 ⟨before, d, hfirst, herror⟩
    cases herror with
    | typeName => exact .inl ⟨_, hfault⟩
    | tag => exact .inr ⟨_, _, _, hfault⟩

/-- Reserved tags come after clashes. -/
theorem exists_unionFault?_eq_reserved_iff :
    (∃ tag, unionFault? union ds = some (.reservedTag tag)) ↔
    Distinguished ds ∧ ∃ d ∈ ds, isReservedTag d.tag = true := by
  unfold unionFault?
  rw [← variantClash?_eq_none_iff union ds]
  cases variantClash? union [] ds with
  | none =>
    cases hr : ds.find? (isReservedTag ·.tag) with
    | none => simpa using hr
    | some d => simpa using ⟨d, List.mem_of_find?_eq_some hr, by simpa using List.find?_some hr⟩
  | some e => simp

section

variable {mode : Mode} {name location : String}

theorem assembleUnion_eq_error_iff {f : Failure} :
    assembleUnion mode name location variants = .error f ↔
      unionFault? name (variants.map Variant.toDescriptor) = some f := by
  unfold assembleUnion
  cases unionFault? name (variants.map Variant.toDescriptor) <;> simp

theorem assembleUnion_eq_ok_iff : assembleUnion mode name location variants = .ok u ↔
    (Distinguished (variants.map Variant.toDescriptor) ∧
      ∀ v ∈ variants, isReservedTag v.tag = false) ∧
    u = ⟨name, some location, variants, mode.config.structural, mode.config.hashing⟩ := by
  have hnone : unionFault? name (variants.map Variant.toDescriptor) = none ↔
      Distinguished (variants.map Variant.toDescriptor) ∧
        ∀ v ∈ variants, isReservedTag v.tag = false := by
    simp [unionFault?_eq_none_iff]
  rw [← hnone]
  unfold assembleUnion
  cases unionFault? name (variants.map Variant.toDescriptor) <;> simp [eq_comm]

end

/-- Two variants whose tags are identifiers, the first one between double underscores. -/
def hiddenVariants : List Variant :=
  [⟨⟨"__e__", "_", ["a"], [], none⟩, 0⟩, ⟨⟨"DOG", "Dog", ["bark"], [], none⟩, 1⟩]

end ShapeSum
