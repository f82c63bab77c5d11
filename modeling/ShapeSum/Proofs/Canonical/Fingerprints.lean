import ShapeSum.Proofs.Canonical.Forms
import ShapeSum.Proofs.Generation.Declaring

/-!
# What a fingerprint tells

The fingerprint of a variant is the digest of a text that lists its required and its optional
fields.  The text tells the two sets of names apart up to the composition of characters
(`fingerprintText_eq_iff`), whatever the order in which the names are given.

The fields decide which sets of keys fit: two descriptors take the same sets of keys exactly
when they have the same required fields and the same fields (`fits_same_iff`).  For the
models of fragments without a nameless property the optional fields are then the same too,
so the text tells which keys fit as far as it tells names apart.
-/

namespace ShapeSum

/-! ## Texts -/

section
variable {required optional required' optional' : List String}

/-- Names that ascend are sorted. -/
theorem sortedNames_of_pairwise {names : List String} (h : names.Pairwise (· < ·)) :
    sortedNames names = names :=
  eq_of_pairwise_of_mem (pairwise_sortedNames names) h fun n => mem_sortedNames n names

/-- Two lists of names as JSON. -/
def namesJson (required optional : List String) : Json :=
  .obj [("optional", .arr (optional.map .str)), ("required", .arr (required.map .str))]

/-- The members of `namesJson` are in order. -/
theorem sorted_names {α : Type} (x y : α) :
    Entries.sorted [("optional", x), ("required", y)] = [("optional", x), ("required", y)] := by
  have hlt : ¬"required" < "optional" := by decide +kernel
  simp [Entries.sorted, Entries.insertSorted, hlt]

/-- A fingerprint is made from the sorted names, each in its composed form. -/
theorem canonicalJson_fingerprintDatum (required optional : List String) :
    (fingerprintDatum required optional).canonicalJson Text.composed =
      namesJson ((sortedNames required).map Text.composed)
        ((sortedNames optional).map Text.composed) := by
  have hitems (names : List String) : Datum.canonicalItems Text.composed (names.map .str) =
      (names.map Text.composed).map .str := by
    rw [Datum.canonicalItems_eq_map, List.map_map, List.map_map]
    rfl
  have ho : Text.composed "optional" = "optional" := by decide +kernel
  have hr : Text.composed "required" = "required" := by decide +kernel
  have hne : ¬"optional" = "required" := by decide
  simp [fingerprintDatum, Datum.canonicalJson, Datum.canonicalEntries, hitems, sorted_names,
    Entries.ofPairs, Entries.set, hne, ho, hr, namesJson]

/-- The text of two lists of names tells them. -/
theorem compact_namesJson_inj : (namesJson required optional).compact =
    (namesJson required' optional').compact ↔ required = required' ∧ optional = optional' := by
  have hordered (required optional : List String) :
      (namesJson required optional).ordered = namesJson required optional := by
    have hitems (names : List String) :
        (Json.arr (names.map .str)).ordered = .arr (names.map .str) := by
      rw [Json.ordered_arr, List.map_map]
      rfl
    have hn : (Entries.keys [("optional", Json.arr (optional.map .str)),
        ("required", .arr (required.map .str))]).Nodup := by
      simp [Entries.keys]
    rw [namesJson, Json.ordered_obj_of_nodup hn, sorted_names, List.map_cons, List.map_cons,
      hitems, hitems]
    rfl
  constructor
  · intro h
    have h := Json.ordered_eq_of_compact_eq h
    rw [hordered, hordered] at h
    simp only [namesJson, Json.obj.injEq, List.cons.injEq, Prod.mk.injEq, Json.arr.injEq,
      List.map_inj_right fun _ _ => Json.str.inj, true_and, and_true] at h
    exact ⟨h.2, h.1⟩
  · rintro ⟨rfl, rfl⟩
    rfl

/-- The text of a fingerprint tells which names there are, up to the composition of characters in
each of them. -/
theorem fingerprintText_eq_iff :
    fingerprintText required optional = fingerprintText required' optional' ↔
      (sortedNames required).map Text.composed = (sortedNames required').map Text.composed ∧
        (sortedNames optional).map Text.composed = (sortedNames optional').map Text.composed := by
  rw [fingerprintText, fingerprintText, canonicalJson_fingerprintDatum,
    canonicalJson_fingerprintDatum, compact_namesJson_inj]

/-- Neither the order of the names counts nor how often they come. -/
theorem fingerprintText_congr (hr : ∀ n, n ∈ required ↔ n ∈ required')
    (ho : ∀ n, n ∈ optional ↔ n ∈ optional') :
    fingerprintText required optional = fingerprintText required' optional' := by
  rw [fingerprintText_eq_iff, sortedNames_eq_iff.2 hr, sortedNames_eq_iff.2 ho]
  exact ⟨rfl, rfl⟩

end

/-! ## Keys that fit -/

section
variable {d d' : Descriptor}

/-- Two descriptors take the same sets of keys exactly when they have the same required fields and
the same fields at all. -/
theorem fits_same_iff : (∀ keys, d.Fits keys ↔ d'.Fits keys) ↔
    (∀ n, n ∈ d.required ↔ n ∈ d'.required) ∧ ∀ n, n ∈ d.fields ↔ n ∈ d'.fields := by
  have hfits (d : Descriptor) (keys : List String) :
      d.Fits keys ↔ (∀ n ∈ d.required, n ∈ keys) ∧ ∀ k ∈ keys, k ∈ d.fields := by
    simp only [Descriptor.Fits, Descriptor.mem_fields]
  have hrequired (d : Descriptor) : ∀ n ∈ d.required, n ∈ d.fields := fun n hn =>
    (d.mem_fields n).2 (.inl hn)
  simp only [hfits]
  constructor
  · intro h
    -- The smallest set that fits is that of the required fields, the greatest that of all fields.
    have hleast := (h d.required).1 ⟨fun _ => id, hrequired d⟩
    have hleast' := (h d'.required).2 ⟨fun _ => id, hrequired d'⟩
    have hmost := (h d.fields).1 ⟨hrequired d, fun _ => id⟩
    have hmost' := (h d'.fields).2 ⟨hrequired d', fun _ => id⟩
    exact ⟨fun n => ⟨hleast'.1 n, hleast.1 n⟩, fun n => ⟨hmost.2 n, hmost'.2 n⟩⟩
  · rintro ⟨hr, hf⟩ keys
    simp only [hr, hf]

/-- Where no field is both required and optional, the same sets of keys fit exactly when both
descriptors have the same required and the same optional fields. -/
theorem fits_same_iff_of_disjoint (hd : ∀ n ∈ d.required, n ∉ d.optional)
    (hd' : ∀ n ∈ d'.required, n ∉ d'.optional) :
    (∀ keys, d.Fits keys ↔ d'.Fits keys) ↔
      (∀ n, n ∈ d.required ↔ n ∈ d'.required) ∧ ∀ n, n ∈ d.optional ↔ n ∈ d'.optional := by
  rw [fits_same_iff]
  simp only [Descriptor.mem_fields]
  refine and_congr_right fun hr => ⟨fun h n => ?_, fun h n => by rw [hr, h]⟩
  constructor
  · intro hn
    exact ((h n).1 (.inr hn)).resolve_left fun hn' => hd n ((hr n).2 hn') hn
  · intro hn
    exact ((h n).2 (.inr hn)).resolve_left fun hn' => hd' n ((hr n).1 hn') hn

end

/-! ## Compiled types -/

section
variable {m m' : Model} {f f' : Fragment} {d d' : Descriptor} {typeName typeName' : String}
  {source source' : Option String} {emptyTag emptyTag' : String}

/-- A session remembers a model for a fragment. -/
def Model.CompiledFrom (m : Model) (f : Fragment) : Prop :=
  ∃ past s id, Session past s ∧
    Entries.get? s.names.compiled f.location = some (f.content, .model id) ∧
    s.types.model? id = some m

theorem Model.CompiledFrom.depicts (h : m.CompiledFrom f) : m.Depicts f := by
  obtain ⟨past, s, id, hs, hget, hm⟩ := h
  cases hs.keeps.compiled _ _ _ hget with
  | model hm' _ hc hd =>
    cases hm.symm.trans hm'
    exact (Fragment.outline_congr hc).symm.trans hd

/-- The descriptor of a model lists the properties of the fragment that it depicts. -/
theorem Model.Depicts.declaresWires (h : m.Depicts f) (hn : (f.properties.map Prod.fst).Nodup)
    (hd : m.descriptor typeName source emptyTag = .ok d) : d.DeclaresWires f := by
  obtain ⟨hattributes, hrequires⟩ := h.outline hn
  rw [Model.descriptor_eq] at hd
  obtain ⟨hlists, -, -⟩ := lists_of_describeOutline hd
  constructor
  · rw [hlists.required]
    exact lists_wires hattributes hrequires
  · rw [hlists.optional]
    refine lists_wires hattributes fun o ho => ?_
    rw [← hrequires o ho]
    simp

/-- Lists of names of which no two have one composed form are told apart by the composed forms. -/
theorem map_composed_inj {names names' : List String} {all : Set String}
    (hall : Set.InjOn Text.composed all) (hn : ∀ n ∈ names, n ∈ all) (hn' : ∀ n ∈ names', n ∈ all) :
    names.map Text.composed = names'.map Text.composed ↔ names = names' := by
  rw [← forall₂_eq_iff, ← List.forall₂_eq_eq_eq]
  exact forall₂_congr_of_mem fun x hx y hy => hall.eq_iff (hn x hx) (hn' y hy)

/-- For models that are compiled in any two sessions: their fingerprints are made from one text
exactly when their required fields and their optional fields are the same, name by name and up to
the composition of characters, and the order and the repetition of names do not count.  If no
property is without a name, they take the same sets of keys exactly when they have the same required
and the same optional fields; so they have one text exactly when they take the same sets of keys, as
far as composition keeps their names apart. -/
theorem fingerprintText_of_compiledFrom (h : m.CompiledFrom f) (h' : m'.CompiledFrom f')
    (hn : (f.properties.map Prod.fst).Nodup) (hn' : (f'.properties.map Prod.fst).Nodup)
    (hd : m.descriptor typeName source emptyTag = .ok d)
    (hd' : m'.descriptor typeName' source' emptyTag' = .ok d') :
    (fingerprintText d.required d.optional = fingerprintText d'.required d'.optional ↔
      d.required.map Text.composed = d'.required.map Text.composed ∧
        d.optional.map Text.composed = d'.optional.map Text.composed) ∧
    (∀ required optional, (∀ n, n ∈ required ↔ n ∈ d.required) →
      (∀ n, n ∈ optional ↔ n ∈ d.optional) →
      fingerprintText required optional = fingerprintText d.required d.optional) ∧
    ("" ∉ f.properties.map Prod.fst → "" ∉ f'.properties.map Prod.fst →
      ((∀ keys, d.Fits keys ↔ d'.Fits keys) ↔
        d.required = d'.required ∧ d.optional = d'.optional) ∧
      (Set.InjOn Text.composed {n | n ∈ d.fields ∨ n ∈ d'.fields} →
        (fingerprintText d.required d.optional = fingerprintText d'.required d'.optional ↔
          ∀ keys, d.Fits keys ↔ d'.Fits keys))) := by
  have hw := h.depicts.declaresWires hn hd
  have hw' := h'.depicts.declaresWires hn' hd'
  have htext : fingerprintText d.required d.optional = fingerprintText d'.required d'.optional ↔
      d.required.map Text.composed = d'.required.map Text.composed ∧
        d.optional.map Text.composed = d'.optional.map Text.composed := by
    rw [fingerprintText_eq_iff, sortedNames_of_pairwise hw.required.ascending,
      sortedNames_of_pairwise hw.optional.ascending, sortedNames_of_pairwise hw'.required.ascending,
      sortedNames_of_pairwise hw'.optional.ascending]
  refine ⟨htext, fun _ _ => fingerprintText_congr, fun hempty hempty' => ?_⟩
  have hfits : (∀ keys, d.Fits keys ↔ d'.Fits keys) ↔
      d.required = d'.required ∧ d.optional = d'.optional := by
    rw [fits_same_iff_of_disjoint (hw.declares_iff.2 hempty).disjoint
      (hw'.declares_iff.2 hempty').disjoint, ← sortedNames_eq_iff, ← sortedNames_eq_iff,
      sortedNames_of_pairwise hw.required.ascending, sortedNames_of_pairwise hw.optional.ascending,
      sortedNames_of_pairwise hw'.required.ascending,
      sortedNames_of_pairwise hw'.optional.ascending]
  refine ⟨hfits, fun hinj => ?_⟩
  rw [htext, hfits]
  refine and_congr (map_composed_inj hinj (fun n hn => ?_) fun n hn => ?_)
    (map_composed_inj hinj (fun n hn => ?_) fun n hn => ?_)
  · exact .inl ((d.mem_fields n).2 (.inl hn))
  · exact .inr ((d'.mem_fields n).2 (.inl hn))
  · exact .inl ((d.mem_fields n).2 (.inr hn))
  · exact .inr ((d'.mem_fields n).2 (.inr hn))

/-- A compilation from scratch, with the descriptor of its model. -/
theorem exists_descriptor_of_recordRun (content : Json) (required optional : List String)
    (h : ((recordRun content).2.types.model? 0).any (fun m =>
      (m.descriptor "Record" none "EMPTY_TAG").toOption.any fun d =>
        decide (d.required = required ∧ d.optional = optional)) = true)
    (hr : (recordRun content).1.toOption.any (Handle.isModel 0) = true) :
    ∃ m d, (recordRun content).1 = .ok (.model 0) ∧ (recordRun content).2.types.model? 0 = some m ∧
      m.CompiledFrom ⟨content, "memory:///schema.json", ""⟩ ∧
      m.descriptor "Record" none "EMPTY_TAG" = .ok d ∧ d.required = required ∧
      d.optional = optional := by
  obtain ⟨m, hm, hany⟩ := (Option.any_eq_true _ _).1 h
  obtain ⟨d, hd, hfields⟩ := (Option.any_eq_true _ _).1 hany
  obtain ⟨hrequired, hoptional⟩ := of_decide_eq_true hfields
  have hr := eq_ok_model hr
  obtain ⟨id, hid, hget⟩ :=
    exists_compiled_of_compileModel (show ((compileModel _ _ _).run _).1 = _ from hr)
  cases hid
  have hcompiled : m.CompiledFrom ⟨content, "memory:///schema.json", ""⟩ :=
    ⟨_, _, _, .compiled _ _ _ (.fresh _), hget, hm⟩
  exact ⟨m, d, hr, hm, hcompiled, eq_ok_of_toOption hd, hrequired, hoptional⟩

/-- The properties of `markedContent` in another order, all required ones in the list. -/
def remarkedContent : Json :=
  .obj [("type", .str "object"), ("properties", .obj [
    ("a_b", .obj [("type", .str "integer")]), ("a-b", .obj [("type", .str "string")]),
    ("class", .obj [("type", .str "string")])]),
    ("required", .arr [.str "class", .str "a-b", .str "class"])]

/-- Both types have one text, since they take the same sets of keys. -/
theorem fingerprintText_remarked : ∃ m d m' d',
    (recordRun markedContent).2.types.model? 0 = some m ∧
    (recordRun remarkedContent).2.types.model? 0 = some m' ∧
    m.descriptor "Record" none "EMPTY_TAG" = .ok d ∧
    m'.descriptor "Record" none "EMPTY_TAG" = .ok d' ∧
    fingerprintText ["class", "a-b", "class"] ["a_b"] = fingerprintText d.required d.optional ∧
    fingerprintText d.required d.optional = fingerprintText d'.required d'.optional ∧
    ∀ keys, d.Fits keys ↔ d'.Fits keys := by
  obtain ⟨m, d, -, hm, h, hd, hrequired, hoptional⟩ := exists_descriptor_of_recordRun
    markedContent ["a-b", "class"] ["a_b"]
    (by decide +kernel) (by decide +kernel)
  obtain ⟨m', d', -, hm', h', hd', hrequired', hoptional'⟩ := exists_descriptor_of_recordRun
    remarkedContent ["a-b", "class"] ["a_b"]
    (by decide +kernel) (by decide +kernel)
  obtain ⟨htext, horder, hfits⟩ :=
    fingerprintText_of_compiledFrom h h' (by decide +kernel) (by decide +kernel) hd hd'
  obtain ⟨-, hiff⟩ := hfits (by decide +kernel) (by decide +kernel)
  have hcomposed : ∀ n ∈ ["a-b", "class", "a_b"], Text.composed n = n := by decide +kernel
  have hinj : Set.InjOn Text.composed {n | n ∈ d.fields ∨ n ∈ d'.fields} := by
    have hmem {n : String} (hn : n ∈ d.fields ∨ n ∈ d'.fields) : Text.composed n = n := by
      refine hcomposed n ?_
      simpa [Descriptor.mem_fields, hrequired, hoptional, hrequired', hoptional', or_assoc] using hn
    intro x hx y hy hxy
    rwa [hmem hx, hmem hy] at hxy
  have hequal : fingerprintText d.required d.optional = fingerprintText d'.required d'.optional :=
    htext.2 (by rw [hrequired, hoptional, hrequired', hoptional']; exact ⟨rfl, rfl⟩)
  refine ⟨m, d, m', d', hm, hm', hd, hd', horder _ _ (fun n => ?_) (fun n => ?_), hequal,
    (hiff hinj).1 hequal⟩
  · rw [hrequired]
    grind
  · rw [hoptional]

/-- Objects that must have a property with the given name. -/
def requiringContent (property : String) : Json :=
  .obj [("type", .str "object"), ("properties", .obj [(property, .obj [("type", .str "string")])]),
    ("required", .arr [.str property])]

/-- Two types whose required properties differ in the composition of a character have one
fingerprint, but the keys that fit one of them do not fit the other. -/
theorem exists_one_text_of_not_fits : ∃ m d m' d',
    (recordRun (requiringContent "é")).1 = .ok (.model 0) ∧
    (recordRun (requiringContent "e\u0301")).1 = .ok (.model 0) ∧
    (recordRun (requiringContent "é")).2.types.model? 0 = some m ∧
    (recordRun (requiringContent "e\u0301")).2.types.model? 0 = some m' ∧
    m.descriptor "Record" none "EMPTY_TAG" = .ok d ∧
    m'.descriptor "Record" none "EMPTY_TAG" = .ok d' ∧
    fingerprintText d.required d.optional = fingerprintText d'.required d'.optional ∧
    d.Fits ["é"] ∧ ¬d'.Fits ["é"] := by
  obtain ⟨m, d, hr, hm, -, hd, hrequired, hoptional⟩ := exists_descriptor_of_recordRun
    (requiringContent "é") ["é"] []
    (by decide +kernel) (by decide +kernel)
  obtain ⟨m', d', hr', hm', -, hd', hrequired', hoptional'⟩ := exists_descriptor_of_recordRun
    (requiringContent "e\u0301") ["e\u0301"] []
    (by decide +kernel) (by decide +kernel)
  refine ⟨m, d, m', d', hr, hr', hm, hm', hd, hd', ?_, ?_, ?_⟩
  · rw [hrequired, hoptional, hrequired', hoptional']
    decide +kernel
  · simp [Descriptor.Fits, hrequired]
  · simp [Descriptor.Fits, hrequired']

end

end ShapeSum
