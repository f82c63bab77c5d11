import ShapeSum.Proofs.Generation.Assembling
import ShapeSum.Proofs.Naming.Constants
import ShapeSum.Union.Tagged

/-!
# The variants of a union by their names

A variant is known by its tag, and by the name of its type where no tag of that name
exists.  A type name can be the tag of another variant only if it is its own tag too, and
the two variants would clash.  With `EMPTY_TAG` for the type names that give no tag, the
tag of a tag is the tag itself, so every variant is found by both names, and nothing else
is found.
-/

namespace ShapeSum

/-- A variant whose descriptor is that of some model, with `EMPTY_TAG` where its type name gives no
tag. -/
def Variant.IsBuilt (v : Variant) : Prop :=
  ∃ (m : Model) (source : Option String),
    m.descriptor v.typeName source "EMPTY_TAG" = .ok v.toDescriptor

theorem Variant.IsBuilt.tag_eq {v : Variant} (h : v.IsBuilt) :
    v.tag = tagFor v.typeName "EMPTY_TAG" := by
  obtain ⟨m, source, hmake⟩ := h
  simp only [Model.descriptor, Descriptor.make] at hmake
  split at hmake
  · exact (congrArg Descriptor.tag (Except.ok.inj hmake)).symm
  · cases hmake

/-- The tag of a variant that is built is enumerated. -/
theorem Variant.IsBuilt.isMemberTag {v : Variant} (h : v.IsBuilt) : IsMemberTag v.tag := by
  rw [h.tag_eq, isMemberTag_tagFor_iff]
  exact .inr (by decide +kernel)

/-- A built variant whose tag is the type name of another one has the other one's tag. -/
theorem Variant.IsBuilt.tag_eq_of_typeName {v w : Variant} (hv : v.IsBuilt) (hw : w.IsBuilt)
    (h : w.tag = v.typeName) : w.tag = v.tag := by
  rw [hv.tag_eq, ← h, hw.tag_eq, tagFor_tagFor_default]

/-- A search by a key that tells variants apart. -/
theorem find?_key_iff {vs : List Variant} {key : Variant → String} (hn : (vs.map key).Nodup)
    {name : String} {v : Variant} :
    vs.find? (key · == name) = some v ↔ v ∈ vs ∧ key v = name := by
  constructor
  · intro h
    exact ⟨List.mem_of_find?_eq_some h, by simpa using List.find?_some h⟩
  · rintro ⟨hv, rfl⟩
    have hfound : (vs.find? (key · == key v)).isSome = true :=
      List.find?_isSome.2 ⟨v, hv, by simp⟩
    obtain ⟨w, hw⟩ := Option.isSome_iff_exists.1 hfound
    have hkey : key w = key v := by simpa using List.find?_some hw
    rw [hw, List.inj_on_of_nodup_map hn (List.mem_of_find?_eq_some hw) hv hkey]

section

variable {u : UnionType} {v : Variant} {name : String}

theorem UnionType.variant?_of_tag (htags : (u.tagged.map (·.tag)).Nodup) (hv : v ∈ u.tagged) :
    u.variant? v.tag = some v := by
  have hfind : u.byTag? v.tag = some v := (find?_key_iff htags).2 ⟨hv, rfl⟩
  simp [UnionType.variant?, hfind]

/-- A variant is found by its type name if no other variant has that for a tag. -/
theorem UnionType.variant?_of_typeName (hnames : (u.tagged.map (·.typeName)).Nodup)
    (hv : v ∈ u.tagged) (hself : ∀ w ∈ u.tagged, w.tag = v.typeName → w = v) :
    u.variant? v.typeName = some v := by
  cases htag : u.byTag? v.typeName with
  | some w =>
    have hw : w.tag = v.typeName := by simpa using List.find?_some htag
    simp [UnionType.variant?, htag, hself w (List.mem_of_find?_eq_some htag) hw]
  | none =>
    have hfind : u.byTypeName? v.typeName = some v := (find?_key_iff hnames).2 ⟨hv, rfl⟩
    simp [UnionType.variant?, htag, hfind]

theorem UnionType.of_variant? (h : u.variant? name = some v) :
    v ∈ u.tagged ∧ (v.tag = name ∨ v.typeName = name) := by
  cases htag : u.byTag? name with
  | some w =>
    obtain rfl : w = v := by simpa [UnionType.variant?, htag] using h
    exact ⟨List.mem_of_find?_eq_some htag, .inl (by simpa using List.find?_some htag)⟩
  | none =>
    have hname : u.byTypeName? name = some v := by simpa [UnionType.variant?, htag] using h
    exact ⟨List.mem_of_find?_eq_some hname, .inr (by simpa using List.find?_some hname)⟩

end

/-- Every variant of a union that is made of built variants is found by its tag and by its type
name, and whatever is found by a name has it for its tag or for its type name. -/
theorem variant?_of_assembleUnion {mode : Mode} {name location : String} {variants : List Variant}
    {u : UnionType} (hu : assembleUnion mode name location variants = .ok u)
    (hbuilt : ∀ v ∈ variants, v.IsBuilt) :
    u.variants = variants ∧
      (∀ v ∈ u.variants, u.variant? v.tag = some v ∧ u.variant? v.typeName = some v) ∧
      ∀ n v, u.variant? n = some v → v ∈ u.variants ∧ (v.tag = n ∨ v.typeName = n) := by
  obtain ⟨⟨hd, -⟩, rfl⟩ := assembleUnion_eq_ok_iff.1 hu
  generalize hunion : (⟨name, some location, variants, mode.config.structural,
    mode.config.hashing⟩ : UnionType) = u
  have hvariants : u.variants = variants := by rw [← hunion]
  have htagged : u.tagged = u.variants :=
    tagged_eq_iff.2 fun v hv => (hbuilt v (hvariants ▸ hv)).isMemberTag.shown
  have htags : (u.tagged.map (·.tag)).Nodup := by
    simpa [htagged, hvariants, Function.comp_def] using hd.tags
  have hnames : (u.tagged.map (·.typeName)).Nodup := by
    simpa [htagged, hvariants, Function.comp_def] using hd.typeNames
  refine ⟨hvariants, fun v hv => ?_, fun n v h => by simpa [htagged] using u.of_variant? h⟩
  rw [← htagged] at hv
  refine ⟨u.variant?_of_tag htags hv, u.variant?_of_typeName hnames hv fun w hw htag => ?_⟩
  -- The tag of `w` is the tag that `v` has, and no two variants share a tag.
  have hsame : w.tag = v.tag :=
    (hbuilt v (by simpa [htagged, hvariants] using hv)).tag_eq_of_typeName
      (hbuilt w (by simpa [htagged, hvariants] using hw)) htag
  exact List.inj_on_of_nodup_map htags hw hv hsame

/-- Variants without fields: a type name that gives no tag, one that is its own tag, and one that is
not. -/
def namedVariants : List Variant :=
  [⟨⟨"EMPTY_TAG", "__", [], [], none⟩, 0⟩, ⟨⟨"PET_DOG", "PET_DOG", [], [], none⟩, 1⟩,
    ⟨⟨"CAT", "Cat", [], [], none⟩, 2⟩]

theorem isBuilt_namedVariants : ∀ v ∈ namedVariants, v.IsBuilt := by
  have hbare (typeName : String) (id : TypeId) : Variant.IsBuilt
      ⟨⟨tagFor typeName "EMPTY_TAG", typeName, [], [], none⟩, id⟩ := by
    refine ⟨⟨typeName, [], false⟩, none, ?_⟩
    rw [Model.descriptor, Descriptor.make,
      if_pos (isIdentifier_tagFor typeName (by decide +kernel))]
    rfl
  have htags : tagFor "__" "EMPTY_TAG" = "EMPTY_TAG" ∧ tagFor "PET_DOG" "EMPTY_TAG" = "PET_DOG" ∧
      tagFor "Cat" "EMPTY_TAG" = "CAT" := by decide +kernel
  have hempty := hbare "__" 0
  have hself := hbare "PET_DOG" 1
  have hother := hbare "Cat" 2
  rw [htags.1] at hempty
  rw [htags.2.1] at hself
  rw [htags.2.2] at hother
  simp [namedVariants, hempty, hself, hother]

/-- The three variants are found by their tags and by their type names. -/
theorem variant?_namedVariants : ∃ u,
    assembleUnion { config := {} } "Pet" "memory:///schema.json#" namedVariants = .ok u ∧
      u.variants = namedVariants ∧
      ∀ v ∈ u.variants, u.variant? v.tag = some v ∧ u.variant? v.typeName = some v := by
  obtain ⟨u, hu⟩ : ∃ u, assembleUnion { config := {} } "Pet" "memory:///schema.json#"
      namedVariants = .ok u :=
    ⟨_, assembleUnion_eq_ok_iff.2 ⟨⟨by decide, by decide +kernel⟩, rfl⟩⟩
  obtain ⟨hvariants, hfound, -⟩ := variant?_of_assembleUnion hu isBuilt_namedVariants
  exact ⟨u, hu, hvariants, hfound⟩

/-- With `Dog` for the type names that give no tag, the variant `Dog` is not found by its own type
name. -/
example : ((⟨"Pet", none, [⟨⟨"Dog", "__", [], [], none⟩, 0⟩, ⟨⟨"DOG", "Dog", [], [], none⟩, 1⟩],
    true, .canonicalJson⟩ : UnionType).variant? "Dog").map (·.typeName) = some "__" := by
  decide +kernel

end ShapeSum
