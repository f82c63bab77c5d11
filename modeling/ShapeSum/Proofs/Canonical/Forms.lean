import ShapeSum.Proofs.Canonical.Alike
import ShapeSum.Proofs.Canonical.Lasting
import ShapeSum.Proofs.Json.Reading

/-!
# Data with one canonical text

The canonical text is that of the canonical form, so two accepted data have one text when
their forms are the same but for the order of members (`Datum.orderedForm`).  Forms tell
data apart up to likeness, with one exception: of entries whose keys have one normal form
only the last one is written (`Datum.kept`).  So data whose keys have different normal
forms have one text if and only if they are alike.
-/

namespace ShapeSum

/-- A key does not come before another one with the same normal form. -/
def DatumKey.follows (normal : String → String) : DatumKey → DatumKey → Bool
  | .text s, .text t => decide (normal t = normal s → t ≤ s)
  | _, _ => true

namespace Datum

/-! ## What is accepted -/

/-- Entries under textual keys. -/
def ofTexts (ts : Entries Datum) : List (DatumKey × Datum) := ts.map fun p => (.text p.1, p.2)

/-- A datum has a canonical text if doubles are allowed. -/
def Accepted (d : Datum) : Prop := ∃ path, d.fault? true path = none

theorem accepted_of_itemFault? {path : String} {index : Nat} {items : List Datum}
    (h : itemFault? true path index items = none) : ∀ x ∈ items, x.Accepted := by
  induction items generalizing index with
  | nil => exact fun x hx => by cases hx
  | cons x xs ih =>
    rw [itemFault?, Option.or_eq_none_iff] at h
    exact List.forall_mem_cons.2 ⟨⟨_, h.1⟩, ih h.2⟩

theorem accepted_of_entryFault? {path : String} {entries : List (DatumKey × Datum)}
    (h : entryFault? true path entries = none) :
    ∃ ts, entries = ofTexts ts ∧ ∀ p ∈ ts, p.2.Accepted := by
  induction entries with
  | nil => exact ⟨[], rfl, fun p hp => by cases hp⟩
  | cons p rest ih =>
    obtain ⟨k, v⟩ := p
    cases k with
    | int n => cases h
    | text k =>
      rw [entryFault?, Option.or_eq_none_iff] at h
      obtain ⟨ts, rfl, hts⟩ := ih h.2
      exact ⟨(k, v) :: ts, rfl, List.forall_mem_cons.2 ⟨⟨_, h.1⟩, hts⟩⟩

theorem Accepted.items {x : Datum} {xs : List Datum} (h : x.Accepted) (hx : x.items? = some xs) :
    ∀ x ∈ xs, x.Accepted := by
  obtain ⟨path, h⟩ := h
  cases x with
  | list items =>
    cases hx
    exact accepted_of_itemFault? h
  | tuple items =>
    cases hx
    exact accepted_of_itemFault? h
  | _ => cases hx

/-- An object that is accepted has texts for keys. -/
theorem Accepted.entries {entries : List (DatumKey × Datum)} (h : (Datum.dict entries).Accepted) :
    ∃ ts, entries = ofTexts ts ∧ ∀ p ∈ ts, p.2.Accepted := by
  obtain ⟨path, h⟩ := h
  exact accepted_of_entryFault? h

/-- What is within an accepted datum is accepted. -/
theorem Accepted.part {d x : Datum} (h : d.Accepted) (hx : d.HasPart x) : x.Accepted := by
  cases hx with
  | item hx => exact h.items rfl _ hx
  | fixed hx => exact h.items rfl _ hx
  | entry hx =>
    obtain ⟨ts, rfl, hts⟩ := h.entries
    obtain ⟨p, hp, heq⟩ := List.mem_map.1 hx
    cases heq
    exact hts p hp

/-! ## The canonical form -/

section
variable (normal : String → String)

mutual

/-- A datum with those entries only that are the last ones of their normal form: of the entries of
an object whose keys have one normal form, the one with the greatest key. -/
def kept : Datum → Datum
  | .list items => .list (keptItems items)
  | .tuple items => .tuple (keptItems items)
  | .dict entries => .dict ((keptEntries entries).filter fun p =>
      (entries.map Prod.fst).all fun key => p.1.follows normal key)
  | d => d

/-- `kept` on all items. -/
def keptItems : List Datum → List Datum
  | [] => []
  | x :: xs => kept x :: keptItems xs

/-- `kept` on the values of all entries. -/
def keptEntries : List (DatumKey × Datum) → List (DatumKey × Datum)
  | [] => []
  | (k, v) :: es => (k, kept v) :: keptEntries es

end

/-- The canonical JSON of a datum, with the members of objects in order. -/
def orderedForm (d : Datum) : Json := (d.canonicalJson normal).ordered

variable {normal}

theorem canonicalItems_eq_map (items : List Datum) :
    canonicalItems normal items = items.map (canonicalJson normal) := by
  induction items with
  | nil => rfl
  | cons x xs ih => rw [canonicalItems, ih, List.map_cons]

theorem canonicalEntries_ofTexts (ts : Entries Datum) :
    canonicalEntries normal (ofTexts ts) = ts.map fun p => (p.1, canonicalJson normal p.2) := by
  induction ts with
  | nil => rfl
  | cons p ts ih => exact congrArg ((p.1, canonicalJson normal p.2) :: ·) ih

theorem keptItems_eq_map (items : List Datum) :
    keptItems normal items = items.map (kept normal) := by
  induction items with
  | nil => rfl
  | cons x xs ih => rw [keptItems, ih, List.map_cons]

theorem keptEntries_ofTexts (ts : Entries Datum) :
    keptEntries normal (ofTexts ts) = ofTexts (ts.map fun p => (p.1, p.2.kept normal)) := by
  induction ts with
  | nil => rfl
  | cons p ts ih => exact congrArg ((.text p.1, p.2.kept normal) :: ·) ih

theorem kept_items {x : Datum} {xs : List Datum} (hx : x.items? = some xs) :
    (x.kept normal).items? = some (xs.map (kept normal)) := by
  cases x with
  | list items =>
    cases hx
    exact congrArg some (keptItems_eq_map _)
  | tuple items =>
    cases hx
    exact congrArg some (keptItems_eq_map _)
  | _ => cases hx

theorem kept_dict (ts : Entries Datum) :
    (Datum.dict (ofTexts ts)).kept normal =
      .dict (ofTexts ((Entries.lasting normal ts).map fun p => (p.1, p.2.kept normal))) := by
  rw [kept, keptEntries_ofTexts, ← Entries.lasting_map]
  simp only [ofTexts, Entries.lasting, List.filter_map, List.all_map, Function.comp_def,
    DatumKey.follows]

theorem orderedForm_items {x : Datum} {xs : List Datum} (hx : x.items? = some xs) :
    x.orderedForm normal = .arr (xs.map (orderedForm normal)) := by
  have h : x.canonicalJson normal = .arr (xs.map (canonicalJson normal)) := by
    cases x with
    | list items =>
      cases hx
      exact congrArg Json.arr (canonicalItems_eq_map _)
    | tuple items =>
      cases hx
      exact congrArg Json.arr (canonicalItems_eq_map _)
    | _ => cases hx
  rw [orderedForm, h, Json.ordered_arr, List.map_map]
  rfl

/-- The members of an object are the entries that last, in the order of the normal forms. -/
theorem orderedForm_dict {ts : Entries Datum} (hn : (Entries.keys ts).Nodup) :
    (Datum.dict (ofTexts ts)).orderedForm normal =
      .obj (Entries.sorted ((Entries.lasting normal ts).map fun p =>
        (normal p.1, p.2.orderedForm normal))) := by
  have hkeys : (Entries.keys (ts.map fun p => (p.1, canonicalJson normal p.2))).Nodup := by
    rwa [Entries.keys_map]
  have hperm := (Entries.perm_ofPairs_sorted (f := normal) hkeys).map fun p =>
    (p.1, Json.ordered p.2)
  rw [Entries.lasting_map, List.map_map, List.map_map] at hperm
  rw [orderedForm, canonicalJson, canonicalEntries_ofTexts,
    Json.ordered_obj_of_nodup (Entries.nodup_keys_ofPairs _), ← Entries.sorted_map]
  refine congrArg Json.obj (Entries.sorted_eq_of_perm hperm ?_)
  rw [Entries.keys_map]
  exact Entries.nodup_keys_ofPairs _

/-! ## Forms tell data apart -/

variable {a b : Datum}

theorem Accepted.isFinite {x : Binary64} (h : (Datum.float x).Accepted) : x.isFinite = true := by
  obtain ⟨path, h⟩ := h
  cases x with
  | finite negative code => rfl
  | _ => cases h

theorem Accepted.ne_foreign (h : a.Accepted) (kind : String) : a ≠ .foreign kind := by
  rintro rfl
  obtain ⟨path, h⟩ := h
  cases h

/-- The sign of zero is all that is lost of a finite double. -/
theorem unsignedZero_eq_iff {x y : Binary64} (hx : x.isFinite = true) :
    x.unsignedZero = y.unsignedZero ↔ x.numericallyEqual y = true := by
  cases x with
  | finite s c =>
    cases y with
    | finite t d =>
      simp only [Binary64.unsignedZero, Binary64.numericallyEqual, Binary64.zero,
        Bool.and_eq_true, Bool.or_eq_true, beq_iff_eq, Fin.ext_iff]
      split <;> split <;> simp only [Binary64.finite.injEq, Fin.ext_iff] <;> grind
    | _ =>
      simp only [Binary64.unsignedZero, Binary64.numericallyEqual, Binary64.zero]
      split <;> simp
  | _ => cases hx

/-- Only sequences have the forms of arrays. -/
theorem orderedForm_eq_arr_iff {js : List Json} : a.orderedForm normal = .arr js ↔
    ∃ xs, a.items? = some xs ∧ xs.map (orderedForm normal) = js := by
  cases hxs : a.items? with
  | some xs => simp [orderedForm_items hxs]
  | none =>
    cases a with
    | list | tuple => cases hxs
    | _ => simp [orderedForm, canonicalJson, Json.ordered]

theorem items?_kept :
    (a.kept normal).items? = a.items?.map (List.map (kept normal)) := by
  cases hxs : a.items? with
  | some xs => exact kept_items hxs
  | none =>
    cases a with
    | list | tuple => cases hxs
    | _ => rfl

/-- Sequences have one form if and only if they are alike, provided that this holds of their
items. -/
theorem orderedForm_eq_iff_of_items {xs : List Datum} (hxs : a.items? = some xs)
    (ih : ∀ x ∈ xs, ∀ y, b.HasPart y → (x.orderedForm normal = y.orderedForm normal ↔
      Alike normal (x.kept normal) (y.kept normal))) :
    a.orderedForm normal = b.orderedForm normal ↔ Alike normal (a.kept normal) (b.kept normal) := by
  rw [orderedForm_items hxs, eq_comm, orderedForm_eq_arr_iff, alike_items_iff (kept_items hxs)]
  simp only [items?_kept, Option.map_eq_some_iff, exists_exists_and_eq_and,
    List.forall₂_map_left_iff, List.forall₂_map_right_iff]
  refine exists_congr fun ys => and_congr_right fun hys => ?_
  rw [eq_comm, ← forall₂_eq_iff]
  exact forall₂_congr_of_mem fun x hx y hy => ih x hx y (HasPart.of_items? hys hy)

/-- The keys of an object are distinct if they are apart as they are. -/
theorem nodup_of_keysApart {ts : Entries Datum}
    (h : (Datum.dict (ofTexts ts)).keysApart normal = true) :
    (ts.map fun p => normal p.1).Nodup := by
  have hkeys := (keysApart_dict.1 h).1
  rw [ofTexts, List.map_map] at hkeys
  refine List.Nodup.of_map DatumKey.text ?_
  rwa [List.map_map]

/-- Objects whose entries correspond, if they last, to entries with one normal form of the key. -/
theorem alike_kept_dict_iff {ts us : Entries Datum} :
    Alike normal ((Datum.dict (ofTexts ts)).kept normal) ((Datum.dict (ofTexts us)).kept normal) ↔
      ∃ ts', (Entries.lasting normal ts).Perm ts' ∧
        List.Forall₂ (fun p q => normal p.1 = normal q.1 ∧
          Alike normal (p.2.kept normal) (q.2.kept normal)) ts' (Entries.lasting normal us) := by
  have hmap (ts : Entries Datum) : ofTexts (ts.map fun p => (p.1, p.2.kept normal)) =
      ts.map fun p => (.text p.1, p.2.kept normal) := List.map_map ..
  rw [kept_dict, kept_dict, hmap, hmap, alike_dict_iff]
  constructor
  · rintro ⟨fs, es', heq, hp, hk, hv⟩
    cases heq
    obtain ⟨ts', hts, rfl⟩ := perm_map_iff.1 hp
    rw [List.forall₂_map_left_iff, List.forall₂_map_right_iff] at hk hv
    exact ⟨ts', hts, forall₂_and_iff.2 ⟨hk.imp fun p q h => DatumKey.text.inj h, hv⟩⟩
  · rintro ⟨ts', hp, h⟩
    obtain ⟨hk, hv⟩ := forall₂_and_iff.1 h
    refine ⟨_, _, rfl, hp.map _, ?_, ?_⟩
    · rw [List.forall₂_map_left_iff, List.forall₂_map_right_iff]
      exact hk.imp fun p q h => congrArg DatumKey.text h
    · rwa [List.forall₂_map_left_iff, List.forall₂_map_right_iff]

/-- Objects have one form if and only if they are alike in the entries that last, provided that
this holds of their values. -/
theorem orderedForm_eq_iff_of_entries {ts us : Entries Datum} (hts : (Entries.keys ts).Nodup)
    (hus : (Entries.keys us).Nodup)
    (ih : ∀ p ∈ ts, ∀ q ∈ us, (p.2.orderedForm normal = q.2.orderedForm normal ↔
      Alike normal (p.2.kept normal) (q.2.kept normal))) :
    (Datum.dict (ofTexts ts)).orderedForm normal = (Datum.dict (ofTexts us)).orderedForm normal ↔
      Alike normal ((Datum.dict (ofTexts ts)).kept normal)
        ((Datum.dict (ofTexts us)).kept normal) := by
  have hnodup : (Entries.keys ((Entries.lasting normal ts).map fun p =>
      (normal p.1, p.2.orderedForm normal))).Nodup := by
    rw [Entries.keys, List.map_map]
    exact Entries.nodup_map_lasting hts
  rw [orderedForm_dict hts, orderedForm_dict hus, Json.obj.injEq, Entries.sorted_eq_iff hnodup,
    perm_map_iff, alike_kept_dict_iff]
  refine exists_congr fun ts' => and_congr_right fun hp => ?_
  rw [← forall₂_eq_iff]
  refine forall₂_congr_of_mem fun p hp' q hq => ?_
  have hp' : p ∈ ts := (Entries.mem_lasting.1 (hp.mem_iff.2 hp')).1
  rw [Prod.mk.injEq, ih p hp' q (Entries.mem_lasting.1 hq).1]

/-- Accepted data have one canonical form if and only if they are alike in what is kept of them. -/
theorem orderedForm_eq_iff (ha : a.Accepted) (hb : b.Accepted) (hda : a.keysApart id = true)
    (hdb : b.keysApart id = true) :
    a.orderedForm normal = b.orderedForm normal ↔ Alike normal (a.kept normal) (b.kept normal) := by
  induction a using induct generalizing b with
  | parts a ih =>
    have hforeign := hb.ne_foreign
    have hparts (x : Datum) (hx : a.HasPart x) (y : Datum) (hy : b.HasPart y) :
        x.orderedForm normal = y.orderedForm normal ↔
          Alike normal (x.kept normal) (y.kept normal) :=
      ih x hx (ha.part hx) (hb.part hy) (keysApart_part hda hx) (keysApart_part hdb hy)
    cases a with
    | null =>
      cases b <;> simp [orderedForm, canonicalJson, Json.ordered, kept, alike_null_iff]
      exact hforeign _ rfl
    | bool x => cases b <;> simp [orderedForm, canonicalJson, Json.ordered, kept, alike_bool_iff]
    | int n => cases b <;> simp [orderedForm, canonicalJson, Json.ordered, kept, alike_int_iff]
    | float x =>
      cases b <;> simp [orderedForm, canonicalJson, Json.ordered, kept, alike_float_iff]
      exact unsignedZero_eq_iff ha.isFinite
    | str s => cases b <;> simp [orderedForm, canonicalJson, Json.ordered, kept, alike_str_iff]
    | list xs =>
      exact orderedForm_eq_iff_of_items rfl fun x hx y hy => hparts x (.item hx) y hy
    | tuple xs =>
      exact orderedForm_eq_iff_of_items rfl fun x hx y hy => hparts x (.fixed hx) y hy
    | dict es =>
      obtain ⟨ts, rfl, hts⟩ := ha.entries
      cases b with
      | dict fs =>
        obtain ⟨us, rfl, hus⟩ := hb.entries
        refine orderedForm_eq_iff_of_entries (nodup_of_keysApart hda) (nodup_of_keysApart hdb)
          fun p hp q hq => ?_
        exact hparts p.2 (.entry (List.mem_map_of_mem hp)) q.2 (.entry (List.mem_map_of_mem hq))
      | foreign kind => exact absurd rfl (hforeign kind)
      | _ => simp [orderedForm, canonicalJson, Json.ordered, kept, alike_dict_iff]
    | foreign kind => exact absurd rfl (ha.ne_foreign kind)

/-- All entries of an accepted datum are kept if their keys have different normal forms. -/
theorem kept_eq_self (ha : a.Accepted) (h : a.keysApart normal = true) : a.kept normal = a := by
  induction a using induct with
  | parts a ih =>
    have hitems {xs : List Datum} (hxs : a.items? = some xs) : keptItems normal xs = xs := by
      rw [keptItems_eq_map]
      refine (List.map_congr_left fun x hx => ?_).trans (List.map_id xs)
      have hx := HasPart.of_items? hxs hx
      exact ih x hx (ha.part hx) (keysApart_part h hx)
    cases a with
    | list xs => rw [kept, hitems rfl]
    | tuple xs => rw [kept, hitems rfl]
    | dict es =>
      obtain ⟨ts, rfl, hts⟩ := ha.entries
      rw [kept_dict, Entries.lasting_eq_self (nodup_of_keysApart h)]
      refine congrArg (Datum.dict ∘ ofTexts) ?_
      refine (List.map_congr_left fun p hp => ?_).trans (List.map_id ts)
      have hp' : (Datum.dict (ofTexts ts)).HasPart p.2 := .entry (List.mem_map_of_mem hp)
      rw [ih p.2 hp' (ha.part hp') (keysApart_part h hp')]
      rfl
    | _ => rfl

/-- No object of the canonical JSON has a key twice. -/
theorem hasDistinctKeys_canonicalJson (ha : a.Accepted) :
    (a.canonicalJson normal).hasDistinctKeys = true := by
  induction a using induct with
  | parts a ih =>
    have hitems {xs : List Datum} (hxs : a.items? = some xs) :
        (Json.arr (canonicalItems normal xs)).hasDistinctKeys = true := by
      rw [canonicalItems_eq_map, Json.hasDistinctKeys_arr, List.forall_mem_map]
      intro x hx
      have hx := HasPart.of_items? hxs hx
      exact ih x hx (ha.part hx)
    cases a with
    | list xs => exact hitems rfl
    | tuple xs => exact hitems rfl
    | dict es =>
      obtain ⟨ts, rfl, hts⟩ := ha.entries
      rw [canonicalJson, canonicalEntries_ofTexts, Entries.sorted_map, List.map_map,
        Json.hasDistinctKeys_obj]
      refine ⟨Entries.nodup_keys_ofPairs _, fun q hq => ?_⟩
      obtain ⟨p, hp, rfl⟩ := List.mem_map.1 (Entries.mem_of_mem_ofPairs hq)
      have hp : p ∈ ts := (Entries.perm_sorted ts).mem_iff.1 hp
      have hp' : (Datum.dict (ofTexts ts)).HasPart p.2 := .entry (List.mem_map_of_mem hp)
      exact ih p.2 hp' (ha.part hp')
    | _ => rfl

end

end Datum

/-! ## Texts tell data apart -/

variable {normal : String → String} {a b : Datum} {s t : String}

theorem canonicalTextWith_eq_ok_iff : canonicalTextWith normal true a = .ok s ↔
    a.fault? true "" = none ∧ (a.canonicalJson normal).compact = s := by
  unfold canonicalTextWith
  split
  · rename_i hsome
    rw [hsome]
    exact ⟨fun h => (nomatch h), fun h => (nomatch h.1)⟩
  · rename_i hnone
    exact ⟨fun h => ⟨hnone, Except.ok.inj h⟩, fun h => congrArg _ h.2⟩

/-- Accepted data without repeated keys have one canonical text if and only if they are alike in
what is kept of them, under any normal form of texts.  Where the keys of every object have different
normal forms, everything is kept, and they have one text if and only if they are alike. -/
theorem canonicalText_eq_iff (ha : canonicalTextWith normal true a = .ok s)
    (hb : canonicalTextWith normal true b = .ok t) (hda : a.keysApart id = true)
    (hdb : b.keysApart id = true) :
    (s = t ↔ Datum.Alike normal (a.kept normal) (b.kept normal)) ∧
      (a.keysApart normal = true → b.keysApart normal = true →
        (s = t ↔ Datum.Alike normal a b)) := by
  obtain ⟨hfault, rfl⟩ := canonicalTextWith_eq_ok_iff.1 ha
  have ha : a.Accepted := ⟨"", hfault⟩
  obtain ⟨hfault, rfl⟩ := canonicalTextWith_eq_ok_iff.1 hb
  have hb : b.Accepted := ⟨"", hfault⟩
  have hkept : (a.canonicalJson normal).compact = (b.canonicalJson normal).compact ↔
      Datum.Alike normal (a.kept normal) (b.kept normal) :=
    (Json.compact_eq_iff (Datum.hasDistinctKeys_canonicalJson ha)
      (Datum.hasDistinctKeys_canonicalJson hb)).trans (Datum.orderedForm_eq_iff ha hb hda hdb)
  refine ⟨hkept, fun hna hnb => ?_⟩
  rw [hkept, Datum.kept_eq_self ha hna, Datum.kept_eq_self hb hnb]

/-- An object with two keys that have one normal form, and with a negative zero. -/
def accented : Datum :=
  .dict [(.text "é", .list [.int 1, .float (.finite true ⟨0, Binary64.magnitudeCount_pos⟩)]),
    (.text "e\u0301", .int 2), (.text "a", .str "e\u0301")]

/-- The same object without the entry that is lost. -/
def keptAccented : Datum :=
  .dict [(.text "é", .list [.int 1, .float (.finite true ⟨0, Binary64.magnitudeCount_pos⟩)]),
    (.text "a", .str "e\u0301")]

/-- The same object in another order, with other characters and another sequence. -/
def reaccented : Datum :=
  .dict [(.text "a", .str "é"), (.text "e\u0301", .tuple [.int 1, .float .zero])]

/-- The three have one text, and the two in which nothing is lost are alike. -/
theorem canonicalText_accented : ∃ s, canonicalTextWith Text.composed true accented = .ok s ∧
    canonicalTextWith Text.composed true keptAccented = .ok s ∧
    canonicalTextWith Text.composed true reaccented = .ok s ∧
    accented.keysApart id = true ∧ keptAccented.keysApart id = true ∧
    reaccented.keysApart id = true ∧
    keptAccented.keysApart Text.composed = true ∧ reaccented.keysApart Text.composed = true ∧
    Datum.Alike Text.composed (accented.kept Text.composed) (reaccented.kept Text.composed) ∧
    Datum.Alike Text.composed keptAccented reaccented := by
  have ha : canonicalTextWith Text.composed true accented =
      .ok "\x7b\"a\":\"é\",\"é\":[1,0.0]\x7d" :=
    canonicalTextWith_eq_ok_iff.2 ⟨rfl, by decide +kernel⟩
  have hk : canonicalTextWith Text.composed true keptAccented =
      .ok "\x7b\"a\":\"é\",\"é\":[1,0.0]\x7d" :=
    canonicalTextWith_eq_ok_iff.2 ⟨rfl, by decide +kernel⟩
  have hr : canonicalTextWith Text.composed true reaccented =
      .ok "\x7b\"a\":\"é\",\"é\":[1,0.0]\x7d" :=
    canonicalTextWith_eq_ok_iff.2 ⟨rfl, by decide +kernel⟩
  have hda : accented.keysApart id = true := by decide +kernel
  have hdk : keptAccented.keysApart id = true := by decide +kernel
  have hdr : reaccented.keysApart id = true := by decide +kernel
  have hnk : keptAccented.keysApart Text.composed = true := by decide +kernel
  have hnr : reaccented.keysApart Text.composed = true := by decide +kernel
  exact ⟨_, ha, hk, hr, hda, hdk, hdr, hnk, hnr, (canonicalText_eq_iff ha hr hda hdr).1.1 rfl,
    ((canonicalText_eq_iff hk hr hdk hdr).2 hnk hnr).1 rfl⟩

/-- The entry of a key is lost if a greater key has the same normal form. -/
theorem exists_text_eq_not_alike : ∃ a b s, canonicalText true a = .ok s ∧
    canonicalText true b = .ok s ∧ a.keysApart id = true ∧ b.keysApart id = true ∧
    ¬Datum.Alike Text.composed a b := by
  refine ⟨.dict [(.text "é", .int 1), (.text "e\u0301", .int 2)], .dict [(.text "é", .int 1)],
    "\x7b\"é\":1\x7d", canonicalTextWith_eq_ok_iff.2 ⟨rfl, by decide +kernel⟩,
    canonicalTextWith_eq_ok_iff.2 ⟨rfl, by decide +kernel⟩, by decide +kernel, by decide +kernel,
    fun h => ?_⟩
  obtain ⟨fs, es', heq, hperm, hkeys, -⟩ := Datum.alike_dict_iff.1 h
  have hlength := hperm.length_eq.trans hkeys.length_eq
  cases heq
  cases hlength

end ShapeSum
