import Mathlib.Data.List.Forall2
import ShapeSum.Canonical.Text

/-!
# Data that are alike

Two data are alike when they differ in the order of the entries of objects, in the kind of a
sequence, in the sign of zero and in the normal form of characters only, compared entry by
entry (`Datum.Alike`).  Data come with an induction over their parts (`Datum.induct`), and
with one equivalence for each kind of data that says what is like them.
-/

namespace ShapeSum

/-! ## Parts -/

deriving instance DecidableEq for DatumKey

/-- A key with its text in normal form. -/
def DatumKey.normalized (normal : String → String) : DatumKey → DatumKey
  | .text s => .text (normal s)
  | .int n => .int n

namespace Datum

/-- A datum is an item or the value of an entry of another one. -/
inductive HasPart : Datum → Datum → Prop
  /-- An item of a list. -/
  | item {items : List Datum} {x : Datum} : x ∈ items → HasPart (.list items) x
  /-- An item of a fixed sequence. -/
  | fixed {items : List Datum} {x : Datum} : x ∈ items → HasPart (.tuple items) x
  /-- The value of an entry. -/
  | entry {entries : List (DatumKey × Datum)} {key : DatumKey} {x : Datum} :
      (key, x) ∈ entries → HasPart (.dict entries) x

theorem HasPart.sizeOf_lt {d x : Datum} (h : d.HasPart x) : sizeOf x < sizeOf d := by
  cases h with
  | item hx =>
    have := List.sizeOf_lt_of_mem hx
    simp only [list.sizeOf_spec]
    omega
  | fixed hx =>
    have := List.sizeOf_lt_of_mem hx
    simp only [tuple.sizeOf_spec]
    omega
  | entry hx =>
    have := List.sizeOf_lt_of_mem hx
    simp only [dict.sizeOf_spec, Prod.mk.sizeOf_spec] at this ⊢
    omega

/-- Induction over data; the parts of a container are its items or the values of its entries. -/
@[elab_as_elim]
theorem induct {motive : Datum → Prop} (parts : ∀ d, (∀ x, d.HasPart x → motive x) → motive d)
    (d : Datum) : motive d :=
  parts d fun x _ => induct parts x
termination_by sizeOf d
decreasing_by exact HasPart.sizeOf_lt ‹_›

section
variable (normal : String → String)

mutual

/-- Whether in no object within a datum two keys have one normal form. -/
def keysApart : Datum → Bool
  | .list items => itemsKeysApart items
  | .tuple items => itemsKeysApart items
  | .dict entries => decide (entries.map fun p => p.1.normalized normal).Nodup &&
      entriesKeysApart entries
  | _ => true

/-- `keysApart` of all items. -/
def itemsKeysApart : List Datum → Bool
  | [] => true
  | x :: xs => keysApart x && itemsKeysApart xs

/-- `keysApart` of the values of all entries. -/
def entriesKeysApart : List (DatumKey × Datum) → Bool
  | [] => true
  | (_, v) :: es => keysApart v && entriesKeysApart es

end

variable {normal}

theorem itemsKeysApart_iff {items : List Datum} :
    itemsKeysApart normal items = true ↔ ∀ x ∈ items, x.keysApart normal = true := by
  induction items with
  | nil => simp [itemsKeysApart]
  | cons x xs ih => rw [itemsKeysApart, Bool.and_eq_true, ih, List.forall_mem_cons]

theorem entriesKeysApart_iff {entries : List (DatumKey × Datum)} :
    entriesKeysApart normal entries = true ↔ ∀ p ∈ entries, p.2.keysApart normal = true := by
  induction entries with
  | nil => simp [entriesKeysApart]
  | cons p es ih => rw [entriesKeysApart, Bool.and_eq_true, ih, List.forall_mem_cons]

theorem keysApart_dict {entries : List (DatumKey × Datum)} :
    (Datum.dict entries).keysApart normal = true ↔
      (entries.map fun p => p.1.normalized normal).Nodup ∧
        ∀ p ∈ entries, p.2.keysApart normal = true := by
  rw [keysApart, Bool.and_eq_true, decide_eq_true_eq, entriesKeysApart_iff]

theorem keysApart_part {d x : Datum} (h : d.keysApart normal = true) (hx : d.HasPart x) :
    x.keysApart normal = true := by
  cases hx with
  | item hx => exact itemsKeysApart_iff.1 h x hx
  | fixed hx => exact itemsKeysApart_iff.1 h x hx
  | entry hx => exact (keysApart_dict.1 h).2 _ hx

end

/-! ## Likeness -/

/-- The items of a sequence of either kind. -/
def items? : Datum → Option (List Datum)
  | .list items => some items
  | .tuple items => some items
  | _ => none

theorem HasPart.of_items? {d x : Datum} {xs : List Datum} (hxs : d.items? = some xs) (hx : x ∈ xs) :
    d.HasPart x := by
  cases d with
  | list items =>
    cases hxs
    exact .item hx
  | tuple items =>
    cases hxs
    exact .fixed hx
  | _ => cases hxs

/-- Two data are equal up to the order of the entries of objects, the kind of sequences, the sign of
zero and the normal form of texts and keys. -/
inductive Alike (normal : String → String) : Datum → Datum → Prop
  /-- Null is like itself. -/
  | null : Alike normal .null .null
  /-- A truth value is like itself. -/
  | bool (b : Bool) : Alike normal (.bool b) (.bool b)
  /-- An integer is like itself. -/
  | int (n : Int) : Alike normal (.int n) (.int n)
  /-- Doubles are alike if they are equal as numbers. -/
  | float {x y : Binary64} : x.numericallyEqual y = true → Alike normal (.float x) (.float y)
  /-- Texts are alike if they have one normal form. -/
  | str {s t : String} : normal s = normal t → Alike normal (.str s) (.str t)
  /-- Sequences are alike item by item. -/
  | items {x y : Datum} {xs ys : List Datum} : x.items? = some xs → y.items? = some ys →
      List.Forall₂ (Alike normal) xs ys → Alike normal x y
  /-- Objects are alike entry by entry, in some order. -/
  | dict {es es' fs : List (DatumKey × Datum)} : es.Perm es' →
      List.Forall₂ (fun p q => p.1.normalized normal = q.1.normalized normal) es' fs →
      List.Forall₂ (fun p q => Alike normal p.2 q.2) es' fs → Alike normal (.dict es) (.dict fs)

section
variable {normal : String → String} {y : Datum}

theorem alike_null_iff : Alike normal .null y ↔ .null = y := by
  constructor
  · intro h
    cases h with
    | null => rfl
    | items hx => cases hx
  · rintro rfl
    exact .null

theorem alike_bool_iff {b : Bool} : Alike normal (.bool b) y ↔ .bool b = y := by
  constructor
  · intro h
    cases h with
    | bool => rfl
    | items hx => cases hx
  · rintro rfl
    exact .bool b

theorem alike_int_iff {n : Int} : Alike normal (.int n) y ↔ .int n = y := by
  constructor
  · intro h
    cases h with
    | int => rfl
    | items hx => cases hx
  · rintro rfl
    exact .int n

theorem alike_float_iff {x : Binary64} :
    Alike normal (.float x) y ↔ ∃ x', y = .float x' ∧ x.numericallyEqual x' = true := by
  constructor
  · intro h
    cases h with
    | float hx => exact ⟨_, rfl, hx⟩
    | items hx => cases hx
  · rintro ⟨x', rfl, hx⟩
    exact .float hx

theorem alike_str_iff {s : String} :
    Alike normal (.str s) y ↔ ∃ t, y = .str t ∧ normal s = normal t := by
  constructor
  · intro h
    cases h with
    | str hs => exact ⟨_, rfl, hs⟩
    | items hx => cases hx
  · rintro ⟨t, rfl, hs⟩
    exact .str hs

theorem alike_items_iff {x : Datum} {xs : List Datum} (hx : x.items? = some xs) :
    Alike normal x y ↔ ∃ ys, y.items? = some ys ∧ List.Forall₂ (Alike normal) xs ys := by
  constructor
  · intro h
    cases h with
    | items hx' hy h =>
      rw [hx] at hx'
      cases hx'
      exact ⟨_, hy, h⟩
    | _ => cases hx
  · rintro ⟨ys, hy, h⟩
    exact .items hx hy h

theorem alike_dict_iff {es : List (DatumKey × Datum)} :
    Alike normal (.dict es) y ↔ ∃ fs es', y = .dict fs ∧ es.Perm es' ∧
      List.Forall₂ (fun p q => p.1.normalized normal = q.1.normalized normal) es' fs ∧
      List.Forall₂ (fun p q => Alike normal p.2 q.2) es' fs := by
  constructor
  · intro h
    cases h with
    | dict hp hk hv => exact ⟨_, _, rfl, hp, hk, hv⟩
    | items hx => cases hx
  · rintro ⟨fs, es', rfl, hp, hk, hv⟩
    exact .dict hp hk hv

end

end Datum

end ShapeSum
