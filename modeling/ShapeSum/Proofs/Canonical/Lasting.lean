import Mathlib.Data.List.Forall2
import ShapeSum.Proofs.Json.Ordered

/-!
# Entries that last

When the names of entries are mapped and the entries are set one after another in
their order, an entry is overwritten by each one behind it whose name has the same image.
What is left are the entries with the greatest name for each image
(`Entries.perm_ofPairs_sorted`).
-/

namespace ShapeSum

namespace Entries

variable {α : Type} (f : String → String)

/-- The entries whose name is the greatest of those with one image. -/
def lasting (e : Entries α) : Entries α :=
  e.filter fun p => e.all fun q => decide (f q.1 = f p.1 → q.1 ≤ p.1)

variable {f}

theorem mem_lasting {e : Entries α} {p : String × α} :
    p ∈ lasting f e ↔ p ∈ e ∧ ∀ q ∈ e, f q.1 = f p.1 → q.1 ≤ p.1 := by
  rw [lasting, List.mem_filter, List.all_eq_true]
  simp only [decide_eq_true_eq]

/-- Images of names that last are distinct. -/
theorem nodup_map_lasting {e : Entries α} (hn : (keys e).Nodup) :
    ((lasting f e).map fun p => f p.1).Nodup := by
  refine List.Nodup.map_on (fun p hp q hq h => ?_) ((List.Nodup.of_map _ hn).filter _)
  obtain ⟨hpe, hp⟩ := mem_lasting.1 hp
  obtain ⟨hqe, hq⟩ := mem_lasting.1 hq
  exact List.inj_on_of_nodup_map hn hpe hqe (String.le_antisymm (hq p hpe h) (hp q hqe h.symm))

/-- In sorted entries the names before one are no greater, and those behind it no smaller and, if
names are distinct, other ones. -/
theorem names_of_sorted_eq {e l r : Entries α} {p : String × α} (hn : (keys e).Nodup)
    (h : sorted e = l ++ p :: r) :
    (∀ q ∈ l, q.1 ≤ p.1) ∧ ∀ q ∈ r, p.1 ≤ q.1 ∧ q.1 ≠ p.1 := by
  have hsorted := pairwise_sorted e
  have hkeys := nodup_keys_sorted hn
  rw [h, List.pairwise_append, List.pairwise_cons] at hsorted
  rw [h, keys, List.map_append, List.map_cons, List.nodup_append, List.nodup_cons] at hkeys
  obtain ⟨-, ⟨hbehind, -⟩, hbefore⟩ := hsorted
  refine ⟨fun q hq => hbefore q hq p List.mem_cons_self, fun q hq => ⟨hbehind q hq, fun he => ?_⟩⟩
  exact hkeys.2.1.1 (he ▸ List.mem_map_of_mem hq)

/-- An entry lasts if no entry behind it in the order has the same image. -/
theorem mem_lasting_iff_sorted {e : Entries α} {p : String × α} (hn : (keys e).Nodup) :
    p ∈ lasting f e ↔ ∃ l r, sorted e = l ++ p :: r ∧ ∀ q ∈ r, f q.1 ≠ f p.1 := by
  have hmem {q : String × α} : q ∈ sorted e ↔ q ∈ e := (perm_sorted e).mem_iff
  rw [mem_lasting]
  constructor
  · rintro ⟨hp, hlast⟩
    obtain ⟨l, r, h⟩ := List.append_of_mem (hmem.2 hp)
    refine ⟨l, r, h, fun q hq hqp => ?_⟩
    obtain ⟨hle, hne⟩ := (names_of_sorted_eq hn h).2 q hq
    have hqe : q ∈ e := hmem.1 (h ▸ List.mem_append_right l (List.mem_cons_of_mem p hq))
    exact hne (String.le_antisymm (hlast q hqe hqp) hle)
  · rintro ⟨l, r, h, hother⟩
    refine ⟨hmem.1 (h ▸ List.mem_append_right l List.mem_cons_self), fun q hq hqp => ?_⟩
    have hq := hmem.2 hq
    rw [h, List.mem_append, List.mem_cons] at hq
    obtain hq | rfl | hq := hq
    · exact (names_of_sorted_eq hn h).1 q hq
    · exact String.le_refl _
    · exact absurd hqp (hother q hq)

/-- Entries that are put in order and then named anew are those that last. -/
theorem perm_ofPairs_sorted {e : Entries α} (hn : (keys e).Nodup) :
    (ofPairs ((sorted e).map fun p => (f p.1, p.2))).Perm
      ((lasting f e).map fun p => (f p.1, p.2)) := by
  have hnodup := nodup_map_lasting (f := f) hn
  refine (List.perm_ext_iff_of_nodup (.of_map _ (nodup_keys_ofPairs _))
    (.of_map Prod.fst (by rwa [List.map_map]))).2 fun ⟨key, v⟩ => ?_
  rw [mem_ofPairs_iff, List.mem_map]
  constructor
  · rintro ⟨l, r, he, hr⟩
    obtain ⟨l, r', hl, rfl, hr'⟩ := List.map_eq_append_iff.1 he
    obtain ⟨p, r, rfl, hp, rfl⟩ := List.map_eq_cons_iff.1 hr'
    cases hp
    refine ⟨p, (mem_lasting_iff_sorted hn).2 ⟨l, r, hl, fun q hq hqp => hr ?_⟩, rfl⟩
    rw [keys, List.map_map]
    exact List.mem_map.2 ⟨q, hq, hqp⟩
  · rintro ⟨p, hp, hpv⟩
    cases hpv
    obtain ⟨l, r, hl, hother⟩ := (mem_lasting_iff_sorted hn).1 hp
    refine ⟨l.map _, r.map _, by rw [hl, List.map_append, List.map_cons], fun hr => ?_⟩
    rw [keys, List.map_map] at hr
    obtain ⟨q, hq, hqp⟩ := List.mem_map.1 hr
    exact hother q hq hqp

/-- Entries whose names have distinct images all last. -/
theorem lasting_eq_self {e : Entries α} (h : (e.map fun p => f p.1).Nodup) : lasting f e = e := by
  refine List.filter_eq_self.2 fun p hp => List.all_eq_true.2 fun q hq => ?_
  rw [decide_eq_true_eq]
  intro heq
  obtain rfl := List.inj_on_of_nodup_map h hq hp heq
  exact String.le_refl _

theorem lasting_map {β : Type} (g : α → β) (e : Entries α) :
    lasting f (e.map fun p => (p.1, g p.2)) = (lasting f e).map fun p => (p.1, g p.2) := by
  simp only [lasting, List.filter_map, List.all_map, Function.comp_def]

/-- Entries without repeated names are in the same order if and only if they are the same ones. -/
theorem sorted_eq_iff {e e' : Entries α} (hn : (keys e).Nodup) :
    sorted e = sorted e' ↔ e.Perm e' :=
  ⟨fun h => (perm_sorted e).symm.trans (h ▸ perm_sorted e'), fun h => sorted_eq_of_perm h hn⟩

end Entries

/-! ## Lists -/

section
variable {α β γ : Type}

/-- Related lists are related by what holds of their related members. -/
theorem forall₂_congr_of_mem {R S : α → β → Prop} {xs : List α} {ys : List β}
    (h : ∀ x ∈ xs, ∀ y ∈ ys, R x y ↔ S x y) : List.Forall₂ R xs ys ↔ List.Forall₂ S xs ys := by
  simp only [List.forall₂_iff_zip]
  refine and_congr_right fun _ => forall₂_congr fun x y => forall_congr' fun hxy => ?_
  exact h x (List.of_mem_zip hxy).1 y (List.of_mem_zip hxy).2

theorem forall₂_and_iff {R S : α → β → Prop} {xs : List α} {ys : List β} :
    List.Forall₂ (fun x y => R x y ∧ S x y) xs ys ↔
      List.Forall₂ R xs ys ∧ List.Forall₂ S xs ys :=
  ⟨fun h => ⟨h.imp fun _ _ => And.left, h.imp fun _ _ => And.right⟩,
    fun h => List.Forall₂.mp (fun _ _ => And.intro) h.1 h.2⟩

theorem forall₂_eq_iff {f : α → γ} {g : β → γ} {xs : List α} {ys : List β} :
    List.Forall₂ (fun x y => f x = g y) xs ys ↔ xs.map f = ys.map g := by
  rw [← List.forall₂_eq_eq_eq, List.forall₂_map_left_iff, List.forall₂_map_right_iff]

/-- What has the images of a list in another order is the image of the list in another order. -/
theorem perm_map_iff {f : α → γ} {xs : List α} {zs : List γ} :
    (xs.map f).Perm zs ↔ ∃ xs', xs.Perm xs' ∧ xs'.map f = zs := by
  have h := congrFun (congrFun (List.eq_map_comp_perm f) zs) xs
  rw [List.perm_comm, ← eq_iff_iff.1 h]
  refine exists_congr fun xs' => ?_
  rw [and_comm, List.perm_comm, eq_comm]

end

end ShapeSum
