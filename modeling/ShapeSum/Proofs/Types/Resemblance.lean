import Mathlib.Data.List.Nodup
import Mathlib.Data.List.Perm.Subperm
import ShapeSum.Proofs.Schema.Reach
import ShapeSum.Proofs.Types.Outline
import ShapeSum.Proofs.Value.Distinct

/-!
# Models of equal content

Contents are equal when they differ in the order of members and in how numbers are
represented, where `1` equals `true`.  Models that depict fragments of equal content
have the same properties, and they agree on which ones are required, except where the
marker of a property is equal to `true`: only the truth value itself makes the property
required (`resembles_of_sameContent`).
-/

namespace ShapeSum

/-! ## Equal JSON -/

namespace Json

variable {scalar : Json → Json → Bool} {ms ns : Entries Json}

theorem sameMembers_iff : sameMembers scalar ms ns = true ↔
    ∀ p ∈ ms, ∃ w, Entries.get? ns p.1 = some w ∧ p.2.sameBy scalar w = true := by
  induction ms with
  | nil => simp [sameMembers]
  | cons p rest ih =>
    rw [sameMembers, Bool.and_eq_true, ih, List.forall_mem_cons]
    refine and_congr_left fun _ => ?_
    cases Entries.get? ns p.1 <;> simp

theorem sameItems_self {items : List Json} (h : ∀ x ∈ items, x.sameBy scalar x = true) :
    sameItems scalar items items = true := by
  induction items with
  | nil => rfl
  | cons x xs ih =>
    obtain ⟨hx, hxs⟩ := List.forall_mem_cons.1 h
    simp [sameItems, hx, ih hxs]

/-- Content without repeated keys equals itself. -/
theorem sameContent_self (j : Json) (hd : j.hasDistinctKeys = true) : j.sameContent j = true := by
  induction j using Json.induct with
  | parts j ih =>
    cases j with
    | null => rfl
    | bool b => simp [sameContent, sameBy, sameScalarOrNan, sameScalar, asInt?]
    | int n => simp [sameContent, sameBy, sameScalarOrNan, sameScalar, asInt?]
    | float x => cases x <;> simp [sameContent, sameBy, sameScalarOrNan, sameScalar]
    | str s => simp [sameContent, sameBy]
    | arr items =>
      exact sameItems_self fun x hx => ih x (.item hx) (hasDistinctKeys_arr.1 hd x hx)
    | obj members =>
      obtain ⟨hnodup, hmembers⟩ := hasDistinctKeys_obj.1 hd
      have hsame : sameMembers sameScalarOrNan members members = true :=
        sameMembers_iff.2 fun p hp =>
          ⟨p.2, Entries.get?_of_mem hnodup hp, ih p.2 (.member hp) (hmembers p hp)⟩
      simp [sameContent, sameBy, hsame]

/-- Objects that are equal have the same keys. -/
theorem perm_keys_of_same (hl : ms.length = ns.length) (h : sameMembers scalar ms ns = true)
    (hn : (Entries.keys ms).Nodup) : (Entries.keys ms).Perm (Entries.keys ns) := by
  refine (List.subperm_of_subset hn fun k hk => ?_).perm_of_length_le ?_
  · obtain ⟨p, hp, rfl⟩ := List.mem_map.1 hk
    obtain ⟨w, hw, -⟩ := sameMembers_iff.1 h p hp
    exact List.mem_map.2 ⟨(p.1, w), Entries.mem_of_get? hw, rfl⟩
  · simp [Entries.keys, hl]

/-- Objects that are equal have equal values under every key, or none. -/
theorem rel_get?_of_same (hl : ms.length = ns.length) (h : sameMembers scalar ms ns = true)
    (hn : (Entries.keys ms).Nodup) (k : String) :
    Option.Rel (fun v w => v.sameBy scalar w = true) (Entries.get? ms k) (Entries.get? ns k) := by
  cases hv : Entries.get? ms k with
  | some v =>
    obtain ⟨w, hw, hs⟩ := sameMembers_iff.1 h (k, v) (Entries.mem_of_get? hv)
    rw [show Entries.get? ns k = some w from hw]
    exact .some hs
  | none =>
    cases hw : Entries.get? ns k with
    | none => exact .none
    | some w =>
      have hk : k ∈ Entries.keys ms := (perm_keys_of_same hl h hn).mem_iff.2
        (List.mem_map.2 ⟨(k, w), Entries.mem_of_get? hw, rfl⟩)
      rw [← Entries.has_iff_mem_keys, Entries.has, hv] at hk
      cases hk

/-- Whether a value is neither a text nor a container. -/
def isScalar : Json → Bool
  | .str _ => false
  | .arr _ => false
  | .obj _ => false
  | _ => true

/-- Values of equal content, kind by kind. -/
inductive Kindred : Json → Json → Prop
  /-- Scalars, which are equal as numbers if they are any. -/
  | scalar {a b : Json} : a.isScalar = true → b.isScalar = true → a.sameScalarOrNan b = true →
      Kindred a b
  /-- The same text. -/
  | str (s : String) : Kindred (.str s) (.str s)
  /-- Arrays, equal item by item. -/
  | arr {xs ys : List Json} : sameItems sameScalarOrNan xs ys = true → Kindred (.arr xs) (.arr ys)
  /-- Objects with as many members, equal under each key. -/
  | obj {ms ns : Entries Json} : ms.length = ns.length → sameMembers sameScalarOrNan ms ns = true →
      Kindred (.obj ms) (.obj ns)

/-- Only a scalar equals something as a scalar. -/
theorem isScalar_of_sameScalarOrNan {a b : Json} (h : a.sameScalarOrNan b = true) :
    b.isScalar = true := by
  have hno (hb : b.isScalar = false) : a.sameScalarOrNan b = false := by
    cases b <;> cases hb <;> cases a with
    | float x => cases x <;> rfl
    | _ => rfl
  cases hb : b.isScalar with
  | true => rfl
  | false => rw [hno hb] at h; cases h

theorem kindred_of_sameContent {a b : Json} (h : a.sameContent b = true) : Kindred a b := by
  unfold sameContent at h
  cases a with
  | str s =>
    unfold sameBy at h
    split at h
    · rw [eq_of_beq h]
      exact .str _
    · cases h
  | arr xs =>
    unfold sameBy at h
    split at h
    · exact .arr h
    · cases h
  | obj ms =>
    unfold sameBy at h
    split at h
    · obtain ⟨hl, hm⟩ := Bool.and_eq_true_iff.1 h
      exact .obj (eq_of_beq hl) hm
    · cases h
  | _ =>
    unfold sameBy at h
    exact .scalar rfl (isScalar_of_sameScalarOrNan h) h

/-- Values of equal content have members of equal content. -/
theorem rel_get?_of_sameContent {a b : Json} (h : a.sameContent b = true)
    (hd : a.hasDistinctKeys = true) (key : String) :
    Option.Rel (fun v w => v.sameContent w = true) (a.get? key) (b.get? key) := by
  cases kindred_of_sameContent h with
  | scalar ha hb _ =>
    cases a <;> cases ha <;> cases b <;> cases hb <;> exact .none
  | str s => exact .none
  | arr hs => exact .none
  | obj hl hm => exact rel_get?_of_same hl hm (hasDistinctKeys_obj.1 hd).1 key

theorem hasDistinctKeys_of_get? {j v : Json} {key : String} (hd : j.hasDistinctKeys = true)
    (h : j.get? key = some v) : v.hasDistinctKeys = true := by
  unfold get? at h
  split at h
  · exact (hasDistinctKeys_obj.1 hd).2 _ (Entries.mem_of_get? h)
  · cases h

/-- Arrays of equal content have the same texts. -/
theorem filterMap_text?_of_sameItems {xs ys : List Json}
    (h : sameItems sameScalarOrNan xs ys = true) : xs.filterMap text? = ys.filterMap text? := by
  induction xs generalizing ys with
  | nil =>
    rw [sameItems, List.isEmpty_iff] at h
    rw [h]
  | cons x xs ih =>
    cases ys with
    | nil =>
      rw [sameItems] at h
      cases h
    | cons y ys =>
      obtain ⟨hx, hxs⟩ := Bool.and_eq_true_iff.1 h
      have htext : x.text? = y.text? := by
        cases kindred_of_sameContent hx with
        | scalar ha hb _ => cases x <;> cases ha <;> cases y <;> cases hb <;> rfl
        | _ => rfl
      rw [List.filterMap_cons, List.filterMap_cons, htext, ih hxs]

theorem sameScalar_true (j : Json) : (Json.bool true).sameScalar j = j.sameScalar (.bool true) := by
  cases j with
  | int n => exact Bool.eq_iff_iff.2 ⟨fun h => beq_iff_eq.2 (eq_of_beq h).symm,
      fun h => beq_iff_eq.2 (eq_of_beq h).symm⟩
  | bool b => cases b <;> rfl
  | _ => rfl

end Json

/-! ## Fragments of equal content -/

variable {f g : Fragment}

theorem types_of_sameContent (h : g.content.sameContent f.content = true)
    (hd : g.content.hasDistinctKeys = true) : g.types = f.types := by
  have hrel := Json.rel_get?_of_sameContent h hd "type"
  unfold Fragment.types Fragment.get?
  generalize g.content.get? "type" = v, f.content.get? "type" = w at hrel
  cases hrel with
  | none => rfl
  | @some x y hs =>
    cases Json.kindred_of_sameContent hs with
    | scalar hx hy _ => cases x <;> cases hx <;> cases y <;> cases hy <;> rfl
    | str s => rfl
    | arr hitems => exact Json.filterMap_text?_of_sameItems hitems
    | obj _ _ => rfl

theorem isSome_get?_of_sameContent (h : g.content.sameContent f.content = true)
    (hd : g.content.hasDistinctKeys = true) (keyword : String) :
    (g.get? keyword).isSome = (f.get? keyword).isSome := by
  have hrel := Json.rel_get?_of_sameContent h hd keyword
  unfold Fragment.get?
  generalize g.content.get? keyword = v, f.content.get? keyword = w at hrel
  cases hrel <;> rfl

/-- Of two fragments of equal content both describe objects or none does. -/
theorem isObject_of_sameContent (h : g.content.sameContent f.content = true)
    (hd : g.content.hasDistinctKeys = true) : g.isObject = f.isObject := by
  unfold Fragment.isObject
  rw [types_of_sameContent h hd, isSome_get?_of_sameContent h hd]

/-- Fragments of equal content name the same required properties, if both do. -/
theorem requiredNames_of_sameContent (h : g.content.sameContent f.content = true)
    (hd : g.content.hasDistinctKeys = true) {names names' : List String}
    (hg : requiredNames g = .ok names) (hf : requiredNames f = .ok names') : names = names' := by
  have hrel := Json.rel_get?_of_sameContent h hd "required"
  unfold requiredNames Fragment.get? at hg hf
  generalize g.content.get? "required" = v, f.content.get? "required" = w at hrel hg hf
  cases hrel with
  | none =>
    cases hg
    cases hf
    rfl
  | @some v w hs =>
    cases Json.kindred_of_sameContent hs with
    | scalar ha hb _ =>
      cases v <;> cases ha <;> cases hg <;> cases w <;> cases hb <;> cases hf <;> rfl
    | arr hitems =>
      dsimp only at hg hf
      split at hg <;> cases hg
      split at hf <;> cases hf
      exact Json.filterMap_text?_of_sameItems hitems
    | _ =>
      cases hg
      cases hf
      rfl

/-- Whether a fragment has a marker that is equal to `true`. -/
def Fragment.marksAsTrue (f : Fragment) : Bool :=
  (f.get? "required").any fun j => j.sameScalar (.bool true)

/-- Fragments of equal content mark alike, unless the marker is equal to `true`. -/
theorem marksRequired_of_sameContent (h : g.content.sameContent f.content = true)
    (hd : g.content.hasDistinctKeys = true) :
    marksRequired g = marksRequired f ∨ f.marksAsTrue = true := by
  have hrel := Json.rel_get?_of_sameContent h hd "required"
  unfold marksRequired Fragment.marksAsTrue Fragment.get?
  generalize g.content.get? "required" = v, f.content.get? "required" = w at hrel ⊢
  cases hrel with
  | none => exact .inl rfl
  | @some v w hs =>
    cases Json.kindred_of_sameContent hs with
    | scalar _ _ h =>
      by_cases hw : w.sameScalar (.bool true) = true
      · exact .inr hw
      · -- Neither marker is the truth value: the second by `hw`, the first since it equals that.
        refine .inl (Eq.trans (b := false) ?_ (Eq.symm ?_))
        · cases v with
          | bool b =>
            cases b with
            | false => rfl
            | true => exact absurd ((Json.sameScalar_true w).symm.trans h) hw
          | _ => rfl
        · cases w with
          | bool b =>
            cases b with
            | false => rfl
            | true => exact absurd rfl hw
          | _ => rfl
    | _ => exact .inl rfl

/-! ## Models of fragments of equal content -/

theorem Fragment.map_content_properties (f : Fragment) :
    (f.properties.map fun p => (p.1, p.2.content)) = match f.content.get? "properties" with
      | some (.obj ms) => ms
      | _ => [] := by
  unfold Fragment.properties Fragment.members Fragment.get?
  rcases f.content.get? "properties" with _ | v
  · rfl
  · cases v with
    | obj ms => exact List.map_map.trans (List.map_id ms)
    | _ => rfl

/-- Fragments of equal content have the same properties in some order, and their contents are
equal. -/
theorem properties_of_sameContent (h : g.content.sameContent f.content = true)
    (hd : g.content.hasDistinctKeys = true) :
    (g.properties.map Prod.fst).Perm (f.properties.map Prod.fst) ∧
      ∀ p ∈ g.properties, ∀ q ∈ f.properties, p.1 = q.1 →
        p.2.content.sameContent q.2.content = true ∧ p.2.content.hasDistinctKeys = true := by
  have hnames (f : Fragment) : f.properties.map Prod.fst =
      (f.properties.map fun p => (p.1, p.2.content)).map Prod.fst := by
    rw [List.map_map]
    rfl
  have hmem {f : Fragment} {p : String × Fragment} (hp : p ∈ f.properties) :
      (p.1, p.2.content) ∈ f.properties.map fun p => (p.1, p.2.content) :=
    List.mem_map.2 ⟨p, hp, rfl⟩
  rw [hnames, hnames]
  have hrel := Json.rel_get?_of_sameContent h hd "properties"
  have hpart {v : Json} : g.content.get? "properties" = some v → v.hasDistinctKeys = true :=
    Json.hasDistinctKeys_of_get? hd
  suffices hboth : (g.properties.map fun p => (p.1, p.2.content)) = [] ∧
      (f.properties.map fun p => (p.1, p.2.content)) = [] ∨
      ∃ ms ns, (g.properties.map fun p => (p.1, p.2.content)) = ms ∧
        (f.properties.map fun p => (p.1, p.2.content)) = ns ∧ ms.length = ns.length ∧
        Json.sameMembers Json.sameScalarOrNan ms ns = true ∧
        (Json.obj ms).hasDistinctKeys = true by
    rcases hboth with ⟨hg, hf⟩ | ⟨ms, ns, hg, hf, hl, hs, hd⟩
    · rw [hg, hf]
      refine ⟨.refl _, fun p hp => ?_⟩
      have hp := hmem hp
      rw [hg] at hp
      cases hp
    · obtain ⟨hn, hd⟩ := Json.hasDistinctKeys_obj.1 hd
      have hperm := Json.perm_keys_of_same hl hs hn
      rw [hg, hf]
      refine ⟨hperm, fun p hp q hq hpq => ⟨?_, hd _ (hg ▸ hmem hp)⟩⟩
      have hv := Entries.get?_of_mem hn (hg ▸ hmem hp)
      have hw := Entries.get?_of_mem (hperm.nodup_iff.1 hn) (hf ▸ hmem hq)
      have hvw := Json.rel_get?_of_same hl hs hn p.1
      rw [hv, hpq, hw] at hvw
      cases hvw with
      | some hs => exact hs
  rw [Fragment.map_content_properties, Fragment.map_content_properties]
  generalize hv : g.content.get? "properties" = v, hw : f.content.get? "properties" = w at hrel ⊢
  cases hrel with
  | none => exact .inl ⟨rfl, rfl⟩
  | @some v w hs =>
    cases Json.kindred_of_sameContent hs with
    | scalar ha hb _ => cases v <;> cases ha <;> cases w <;> cases hb <;> exact .inl ⟨rfl, rfl⟩
    | obj hl hm => exact .inr ⟨_, _, rfl, rfl, hl, hm, hpart hv⟩
    | _ => exact .inl ⟨rfl, rfl⟩

/-- Two models have the same properties, and they agree on which ones are required, except where the
marker of a property in a fragment is equal to `true`. -/
structure Model.Resembles (m m' : Model) (f : Fragment) : Prop where
  /-- The properties. -/
  properties : (m.outline.map FieldOutline.property).Perm (m'.outline.map FieldOutline.property)
  /-- Which ones are required. -/
  required : ∀ o ∈ m.outline, ∀ o' ∈ m'.outline, o.property = o'.property →
    o.required = o'.required ∨ ∃ p ∈ f.properties, p.1 = o.property ∧ p.2.marksAsTrue = true

/-- Models that depict fragments of equal content resemble each other. -/
theorem resembles_of_sameContent (h : g.content.sameContent f.content = true)
    (hd : g.content.hasDistinctKeys = true) {m m' : Model} (hm : m.Depicts g)
    (hm' : m'.Depicts f) : m.Resembles m' f := by
  have hlist {f : Fragment} {m : Model} (hm : m.Depicts f) : ∃ names,
      requiredNames f = .ok names ∧ m.outline = outlinesOf names [] f.properties := by
    unfold Model.Depicts Fragment.outline at hm
    cases hr : requiredNames f with
    | error e =>
      rw [hr] at hm
      cases hm
    | ok names =>
      rw [hr] at hm
      exact ⟨names, rfl, (Except.ok.inj hm).symm⟩
  obtain ⟨names, hn, ho⟩ := hlist hm
  obtain ⟨names', hn', ho'⟩ := hlist hm'
  cases requiredNames_of_sameContent h hd hn hn'
  obtain ⟨hperm, hcontent⟩ := properties_of_sameContent h hd
  -- A field is known from its property and the marker there.
  have hfield {f : Fragment} {o : FieldOutline} (ho : o ∈ outlinesOf names [] f.properties) :
      ∃ p ∈ f.properties, p.1 = o.property ∧
        (names.contains p.1 || marksRequired p.2) = o.required := by
    have hp : (o.property, o.required) ∈
        (outlinesOf names [] f.properties).map fun o => (o.property, o.required) :=
      List.mem_map.2 ⟨o, ho, rfl⟩
    rw [map_property_outlinesOf] at hp
    obtain ⟨p, hp, he⟩ := List.mem_map.1 hp
    exact ⟨p, hp, congrArg Prod.fst he, congrArg Prod.snd he⟩
  have hproperties (f : Fragment) : (outlinesOf names [] f.properties).map FieldOutline.property =
      f.properties.map Prod.fst := by
    have hp := congrArg (List.map Prod.fst) (map_property_outlinesOf names [] f.properties)
    rw [List.map_map, List.map_map] at hp
    exact hp
  refine ⟨?_, fun o hmo o' hmo' hoo' => ?_⟩
  · rw [ho, ho', hproperties, hproperties]
    exact hperm
  · obtain ⟨p, hp, hpo, hreq⟩ := hfield (ho ▸ hmo)
    obtain ⟨q, hq, hqo, hreq'⟩ := hfield (ho' ▸ hmo')
    have hpq : p.1 = q.1 := hpo.trans (hoo'.trans hqo.symm)
    obtain ⟨hs, hd⟩ := hcontent p hp q hq hpq
    rcases marksRequired_of_sameContent hs hd with hmarks | htrue
    · left
      rw [← hreq, ← hreq', hpq, hmarks]
    · exact .inr ⟨q, hq, hqo.trans hoo'.symm, htrue⟩

end ShapeSum
