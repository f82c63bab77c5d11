import ShapeSum.Canonical.Text
import ShapeSum.Failure
import ShapeSum.Naming.Tag
import ShapeSum.Text.Identifier

/-!
# Variant descriptors

A descriptor says which objects a variant of a union takes: those that have every
required field and no field that is neither required nor optional.  `Fits` states
that for a set of keys, and `fits_iff` that the two tests of the dispatch decide
it.  Two descriptors overlap when some set of keys fits both.
-/

namespace ShapeSum

/-- One variant of a union: its tag, its type name and its fields. -/
structure Descriptor where
  /-- The tag. -/
  tag : String
  /-- The name of the type. -/
  typeName : String
  /-- The required fields, sorted. -/
  required : List String
  /-- The optional fields, sorted. -/
  optional : List String
  /-- The location of the schema that the variant was made from. -/
  source : Option String

namespace Descriptor

/-- The descriptor with some names as its fields, if the tag is an identifier. -/
def make (tag typeName : String) (required optional : List String) (source : Option String) :
    Except Failure Descriptor :=
  if Text.isIdentifier tag.toList then
    .ok ⟨tag, typeName, sortedNames required, sortedNames optional, source⟩
  else .error (.invalidTag tag)

/-- A descriptor with its required fields in ascending order. -/
def Ordered (d : Descriptor) : Prop := d.required.Pairwise (· < ·)

/-- A descriptor that is made is ordered. -/
theorem ordered_of_make {tag typeName : String} {required optional : List String}
    {source : Option String} {d : Descriptor}
    (h : make tag typeName required optional source = .ok d) : d.Ordered := by
  unfold make at h
  split at h
  · cases h
    exact pairwise_sortedNames required
  · cases h

/-- All fields, sorted. -/
def fields (d : Descriptor) : List String := sortedNames (d.required ++ d.optional)

/-- The required fields that are not among some keys. -/
def missingFrom (d : Descriptor) (keys : List String) : List String :=
  d.required.filter (!keys.contains ·)

/-- The keys that are no fields, sorted. -/
def extraIn (d : Descriptor) (keys : List String) : List String :=
  sortedNames (keys.filter (!d.fields.contains ·))

/-- Whether every required field of each descriptor is a field of the other. -/
def overlaps (a b : Descriptor) : Bool :=
  b.required.all a.fields.contains && a.required.all b.fields.contains

/-- The digest of the fields. -/
def fingerprint (d : Descriptor) : String := ShapeSum.fingerprint d.required d.optional

/-- A set of keys fits when it holds every required field and nothing but fields. -/
def Fits (d : Descriptor) (keys : List String) : Prop :=
  (∀ f ∈ d.required, f ∈ keys) ∧ ∀ k ∈ keys, k ∈ d.required ∨ k ∈ d.optional

theorem mem_fields (d : Descriptor) (k : String) :
    k ∈ d.fields ↔ k ∈ d.required ∨ k ∈ d.optional := by
  simp [fields, mem_sortedNames]

theorem missingFrom_eq_nil_iff (d : Descriptor) (keys : List String) :
    d.missingFrom keys = [] ↔ ∀ f ∈ d.required, f ∈ keys := by
  simp [missingFrom, List.filter_eq_nil_iff]

theorem sortedNames_eq_nil_iff (names : List String) : sortedNames names = [] ↔ names = [] := by
  constructor
  · intro h
    cases names with
    | nil => rfl
    | cons n rest =>
      have : n ∈ sortedNames (n :: rest) := (mem_sortedNames _ _).2 List.mem_cons_self
      rw [h] at this
      cases this
  · rintro rfl; rfl

theorem extraIn_eq_nil_iff (d : Descriptor) (keys : List String) :
    d.extraIn keys = [] ↔ ∀ k ∈ keys, k ∈ d.required ∨ k ∈ d.optional := by
  simp only [extraIn, sortedNames_eq_nil_iff, List.filter_eq_nil_iff]
  have h (k : String) : (!d.fields.contains k) = true ↔ ¬(k ∈ d.required ∨ k ∈ d.optional) := by
    simp [← mem_fields]
  simp only [h, Classical.not_not]

/-- The two tests decide whether keys fit. -/
theorem fits_iff (d : Descriptor) (keys : List String) :
    d.Fits keys ↔ d.missingFrom keys = [] ∧ d.extraIn keys = [] := by
  rw [missingFrom_eq_nil_iff, extraIn_eq_nil_iff, Fits]

end Descriptor

end ShapeSum
