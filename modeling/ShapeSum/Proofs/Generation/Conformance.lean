import ShapeSum.Proofs.Decode.Conforming
import ShapeSum.Proofs.Generation.Obeying
import ShapeSum.Proofs.Generation.Upkeep

/-!
# What models dump conforms to their schema

A compilation knows by location which objects it is inside of and which ones it compiled
before.  In a schema without recursion the first kind never comes up again, and the type
that was found before is one for the same fragment, provided that no two fragments share
a location.  Then every type that is found takes only what is dumped as JSON that conforms
to its fragment, and so does the model (`conforms_of_materialize`).

Fragments of two documents can share a location when the URI of one of them has a
fragment part of its own (`exists_not_conforms`).
-/

namespace ShapeSum

variable {mode : Mode} {view : String → Fetch} {f : Fragment}

/-! ## Types that fit -/

theorem Types.model?_of_isPrefix {types types' : Types} (h : types <+: types') {id : TypeId}
    {m : Model} (hm : types.model? id = some m) : types'.model? id = some m := by
  rw [Types.model?_eq_some] at hm ⊢
  obtain ⟨rest, rfl⟩ := h
  exact (List.getElem?_append_left (List.getElem?_eq_some_iff.1 hm).1).trans hm

theorem Types.union?_of_isPrefix {types types' : Types} (h : types <+: types') {id : TypeId}
    {u : UnionType} (hu : types.union? id = some u) : types'.union? id = some u := by
  rw [Types.union?_eq_some] at hu ⊢
  obtain ⟨rest, rfl⟩ := h
  exact (List.getElem?_append_left (List.getElem?_eq_some_iff.1 hu).1).trans hu

/-- A type fits a fragment: nothing in it is left to be resolved, and whatever one of its options
takes is dumped as JSON that conforms to the fragment, whichever types are added. -/
structure Fits (view : String → Fetch) (types : Types) (t : Fragment) (r : FieldType × Bool) :
    Prop where
  back : r.2 = false
  settled : r.1.Settled
  dumps : ∀ o ∈ r.1.options, ∀ types', types <+: types' → o.DumpsTo types' (Conforms view t)

namespace Fits

variable {types types' : Types} {t : Fragment} {r : FieldType × Bool}

theorem mono (h : Fits view types t r) (htypes : types <+: types') : Fits view types' t r :=
  ⟨h.back, h.settled, fun o ho types'' h' => h.dumps o ho types'' (htypes.trans h')⟩

theorem dumpsTo (h : Fits view types t r) (htypes : types <+: types') :
    r.1.DumpsTo types' (Conforms view t) :=
  FieldType.dumpsTo_of_options fun o ho => h.dumps o ho types' htypes

/-- A type that is no choice fits a fragment when its dumps conform. -/
theorem of_dumpsTo {type : FieldType} (hsettled : type.Settled) (hoptions : type.options = [type])
    (h : ∀ types', types <+: types' → type.DumpsTo types' (Conforms view t)) :
    Fits view types t (type, false) := by
  refine ⟨rfl, hsettled, fun o ho => ?_⟩
  rw [hoptions, List.mem_singleton] at ho
  exact ho ▸ h

/-- A choice of types that fit a fragment fits it. -/
theorem ofOptions {rs : List (FieldType × Bool)} (h : ∀ r ∈ rs, Fits view types t r) :
    Fits view types t (.ofOptions (rs.map Prod.fst), rs.any Prod.snd) := by
  have hback : rs.any Prod.snd = false := by
    rw [List.any_eq_false]
    intro r hr
    rw [(h r hr).back]
    exact Bool.false_ne_true
  have hsettled : ∀ o ∈ rs.map Prod.fst, o.Settled := by
    intro o ho
    obtain ⟨r, hr, rfl⟩ := List.mem_map.1 ho
    exact (h r hr).settled
  unfold FieldType.ofOptions
  split
  · rename_i type htype
    obtain ⟨r, rfl, rfl⟩ := List.map_eq_singleton_iff.1 htype
    exact ⟨hback, (h r (List.mem_singleton_self r)).settled,
      (h r (List.mem_singleton_self r)).dumps⟩
  · refine ⟨hback, .alternatives hsettled, fun o ho => ?_⟩
    obtain ⟨type, htype, ho⟩ :=
      (FieldType.mem_options_alternatives fun o ho => (hsettled o ho).isFlat).1 ho
    obtain ⟨r, hr, rfl⟩ := List.mem_map.1 htype
    exact (h r hr).dumps o ho

end Fits

/-- The type of a field whose property has a type that fits it. -/
theorem settled_of_fieldFor {types : Types} {required : List String} {p : String × Fragment}
    {field : Field} (h : FieldFor (Suited view (Fits view types)) required p field) :
    field.type.Settled := by
  obtain ⟨type, back, ⟨t, -, hfits⟩, htype⟩ := h.type
  rw [htype]
  split
  · exact hfits.settled
  · exact hfits.settled.optional

/-- What such a field dumps conforms as the entry of the property. -/
theorem dumpsTo_of_fieldFor {types types' : Types} {required : List String}
    {p : String × Fragment} {field : Field} (hp : p ∈ f.properties)
    (hrequired : requiredNames f = .ok required)
    (h : FieldFor (Suited view (Fits view types)) required p field) (htypes : types <+: types') :
    field.type.DumpsTo types' fun j => EntryConforms view f (field.property, j) := by
  obtain ⟨type, back, ⟨t, hlead, hfits⟩, htype⟩ := h.type
  have hentry {j : Json} (hj : Conforms view t j) : EntryConforms view f (field.property, j) := by
    rw [h.property]
    exact .value hp (.leads hlead hj)
  rw [htype]
  split
  · exact fun j t' ht' => hentry (hfits.dumpsTo htypes j t' ht')
  · rename_i hoptional
    refine FieldType.dumpsTo_of_options fun o ho => ?_
    rcases (FieldType.mem_options_optional hfits.settled.isFlat).1 ho with ho | rfl
    · exact fun j t' ht' => hentry (hfits.dumps o ho types' htypes j t' ht')
    · refine FieldType.dumpsTo_null ?_
      rw [h.property]
      refine .null hp ?_
      rw [Fragment.requires, hrequired, ← Bool.eq_false_iff.2 hoptional, h.required]
      rfl

/-- The creation of a model leaves settled fields as they are. -/
theorem finishFields_of_settled {name : String} {id : TypeId} {fields fields' : List Field}
    (h : finishFields name id fields = .ok fields') (hsettled : ∀ f ∈ fields, f.type.Settled) :
    fields' = fields := by
  unfold finishFields at h
  split at h
  · cases h
  · unfold resolveOwn at h
    dsimp only at h
    split at h <;> cases h
    refine (List.map_congr_left fun f hf => ?_).trans (List.map_id' fields)
    rw [(hsettled f hf).resolve_eq]

/-- A model fits the fragment that it was made for. -/
theorem fits_model {types : Types} {name : String} {required : List String}
    {fields fields' : List Field} {frozen : Bool} (hobject : f.isObject = true)
    (hrequired : requiredNames f = .ok required)
    (hfields : List.Forall₂ (FieldFor (Suited view (Fits view types)) required) f.properties fields)
    (houtline : fields.map Field.outline = outlinesOf required [] f.properties)
    (hfinish : finishFields name types.length fields = .ok fields') :
    Fits view (types ++ [.model ⟨name, fields', frozen⟩]) f (.model types.length, false) := by
  have hsettled : ∀ g ∈ fields, g.type.Settled := by
    intro g hg
    obtain ⟨p, -, hp⟩ := exists_left_of_forall₂ hfields hg
    exact settled_of_fieldFor hp
  cases finishFields_of_settled hfinish hsettled
  refine .of_dumpsTo (.model _) rfl fun types' htypes' => ?_
  have hdepicts : (⟨name, fields, frozen⟩ : Model).Depicts f := by
    unfold Model.Depicts Fragment.outline
    rw [hrequired]
    exact congrArg Except.ok houtline.symm
  have hmodel : Types.model? types' types.length = some ⟨name, fields, frozen⟩ := by
    refine Types.model?_of_isPrefix htypes' (Types.model?_eq_some.2 ?_)
    simp
  refine FieldType.dumpsTo_model hmodel hdepicts.nodup_names (fun g hg => ?_)
    fun members hmembers hpresent => .record hobject hmembers fun p hp hreq => ?_
  · obtain ⟨p, hp, hfor⟩ := exists_left_of_forall₂ hfields hg
    exact dumpsTo_of_fieldFor hp hrequired hfor ((List.prefix_append _ _).trans htypes')
  · obtain ⟨g, hg, hfor⟩ := exists_right_of_forall₂ hfields hp
    rw [← hfor.property]
    refine hpresent g hg ?_
    rw [hfor.required, ← hreq, Fragment.requires, hrequired]
    rfl

/-- A union fits the fragment whose branches its variants were made for. -/
theorem fits_union {types : Types} {u : UnionType}
    (h : List.Forall₂ (VariantFor view (Fits view types)) f.branches u.variants) :
    Fits view (types ++ [.union u]) f (.union types.length, false) := by
  refine .of_dumpsTo (.union _) rfl fun types' htypes' => ?_
  have hunion : Types.union? types' types.length = some u := by
    refine Types.union?_of_isPrefix htypes' (Types.union?_eq_some.2 ?_)
    simp
  refine FieldType.dumpsTo_union hunion fun w hw j t ht => ?_
  obtain ⟨b, hb, target, hlead, -, hfits⟩ := exists_left_of_forall₂ h hw
  have hconforms := hfits.dumpsTo ((List.prefix_append _ _).trans htypes') j t ht
  obtain ⟨values, hv⟩ := exists_record_of_judgement ht
  rw [hv] at hconforms ⊢
  exact .branch hb (.leads hlead hconforms)

/-- The type for a JSON type that is neither that of objects nor that of arrays fits. -/
theorem fits_plain {types : Types} {t : Fragment} {jsonType : String} (ht : t.IsTyped)
    (hmem : jsonType ∈ t.declared) (hobject : jsonType ≠ "object") (harray : jsonType ≠ "array") :
    Fits view types t (plainType jsonType, false) := by
  unfold plainType
  split
  · exact .of_dumpsTo .text rfl fun _ _ =>
      FieldType.dumpsTo_text fun _ => .scalar ht hmem (beq_self_eq_true _)
  · exact .of_dumpsTo .integer rfl fun _ _ =>
      FieldType.dumpsTo_integer fun _ => .scalar ht hmem rfl
  · exact .of_dumpsTo .number rfl fun _ _ =>
      FieldType.dumpsTo_number fun _ hx => .scalar ht hmem hx
  · exact .of_dumpsTo .boolean rfl fun _ _ =>
      FieldType.dumpsTo_boolean fun _ => .scalar ht hmem rfl
  · exact .of_dumpsTo .null rfl fun _ _ => FieldType.dumpsTo_null (.scalar ht hmem rfl)
  · refine .of_dumpsTo .any rfl fun _ _ => FieldType.dumpsTo_any fun _ => .unknown ht hmem ?_
    simp only [jsonTypes, List.mem_cons, List.not_mem_nil, or_false, not_or]
    exact ⟨hobject, harray, ‹_›, ‹_›, ‹_›, ‹_›, ‹_›⟩

/-- The type for arrays fits when that for the items suits them. -/
theorem fits_array {types : Types} {t : Fragment} {item : FieldType} {isBack : Bool}
    (ht : t.IsTyped) (harray : "array" ∈ t.declared)
    (hitem : ItemFor (Suited view (Fits view types)) t (item, isBack)) :
    Fits view types t
      (if mode.config.frozenPayloads then .tuple item else .list item, isBack) := by
  -- What is said about the items of a conforming list.
  let P (x : Json) : Prop := ∀ ms, t.get? "items" = some (.obj ms) →
    PartConforms view (t.part "items" (.obj ms)) x
  have hlist {xs : List Json} (hxs : ∀ x ∈ xs, P x) : Conforms view t (.arr xs) :=
    .array ht harray fun ms hms x hx => hxs x hx ms hms
  obtain ⟨rfl, hsettled, hdumps⟩ : isBack = false ∧ item.Settled ∧
      ∀ types', types <+: types' → item.DumpsTo types' P := by
    unfold ItemFor at hitem
    split at hitem
    · rename_i ms hget
      obtain ⟨u, hlead, hfits⟩ := hitem
      refine ⟨hfits.back, hfits.settled, fun types' htypes' j t' ht' ms' hms' => ?_⟩
      cases hget.symm.trans hms'
      exact .leads hlead (hfits.dumpsTo htypes' j t' ht')
    · rename_i hnone
      cases hitem
      exact ⟨rfl, .any, fun _ _ => FieldType.dumpsTo_any fun _ ms hms => absurd hms (hnone ms)⟩
  split
  · exact .of_dumpsTo (.tuple hsettled) rfl fun types' htypes' =>
      FieldType.dumpsTo_tuple (hdumps types' htypes') fun xs hxs => hlist hxs
  · exact .of_dumpsTo (.list hsettled) rfl fun types' htypes' =>
      FieldType.dumpsTo_list (hdumps types' htypes') fun xs hxs => hlist hxs

/-! ## The regime -/

/-- No fragment in reach is inside itself. -/
def Unwinds (view : String → Fetch) (f : Fragment) : Prop :=
  ∀ t g, Reaches view f t → t.HasPart g → ¬Reaches view g t

/-- The types that are remembered for fragments in reach fit them. -/
structure Remembering (view : String → Fetch) (f : Fragment) (s : Generation) : Prop where
  store : s.store.view = view
  back : s.backReference = false
  compiled : ∀ t h, Reaches view f t → s.names.typeOf? t = some h →
    Fits view s.types t (h.fieldType, false)
  unions : ∀ t id, Reaches view f t → Entries.get? s.unions t.location = some id →
    Fits view s.types t (.union id, false)

/-- Where a fragment is, every object that is being compiled is around it. -/
def Inside (view : String → Fetch) (f : Fragment) (s : Generation) (g : Fragment) : Prop :=
  ∀ l, Entries.has s.pending l = true →
    ∃ p q, Reaches view f p ∧ p.location = l ∧ p.HasPart q ∧ Reaches view q g

section Regime

variable {s s' s'' : Generation} {t g : Fragment}

theorem Inside.reaches (h : Inside view f s t) (hg : Reaches view t g) : Inside view f s g := by
  intro l hl
  obtain ⟨p, q, hp, hpl, hq, hr⟩ := h l hl
  exact ⟨p, q, hp, hpl, hq, hr.trans hg⟩

theorem Inside.after (h : Inside view f s g) (hpending : MarksNoMore s s') :
    Inside view f s' g := by
  intro l hl
  refine h l ?_
  by_contra hnot
  rw [hpending l (Bool.eq_false_iff.2 hnot)] at hl
  cases hl

theorem Inside.mark {name : String} (h : Inside view f s t) (ht : Reaches view f t)
    (hg : t.HasPart g) : Inside view f (s.mark t.location name) g := by
  intro l hl
  rcases (has_mark s _ name l).1 hl with rfl | hl
  · exact ⟨t, g, ht, rfl, hg, .refl⟩
  · exact h.reaches (Reaches.refl.part hg) l hl

/-- Nothing that is being compiled comes up again. -/
theorem Inside.not_pending (h : Inside view f s g) (hunwinds : Unwinds view f)
    (hcoherent : Coherent view f) (hg : Reaches view f g) (hlead : LeadsTo view g t) :
    Entries.get? s.pending t.location = none := by
  cases hget : Entries.get? s.pending t.location with
  | none => rfl
  | some name =>
    obtain ⟨p, q, hp, hpl, hq, hr⟩ := h t.location (by rw [Entries.has, hget]; rfl)
    cases hcoherent p t hp (hg.trans hlead.reaches) hpl
    exact absurd (hr.trans hlead.reaches) (hunwinds _ q hp hq)

theorem Remembering.of_eq (h : Remembering view f s) (hview : s'.store.view = s.store.view)
    (hback : s'.backReference = true → s.backReference = true) (hnames : s'.names = s.names)
    (hunions : s'.unions = s.unions) (htypes : s'.types = s.types) : Remembering view f s' := by
  refine ⟨hview.trans h.store, ?_, ?_, ?_⟩
  · cases hb : s'.backReference with
    | false => rfl
    | true => rw [← hback hb, h.back]
  · rw [hnames, htypes]
    exact h.compiled
  · rw [hunions, htypes]
    exact h.unions

/-- More types do no harm. -/
theorem Remembering.types (h : Remembering view f s) {types : Types} (htypes : s.types <+: types) :
    Remembering view f { s with types } :=
  ⟨h.store, h.back, fun t h' ht hh => (h.compiled t h' ht hh).mono htypes,
    fun t id ht hid => (h.unions t id ht hid).mono htypes⟩

/-- A type that fits its fragment may be remembered for it. -/
theorem Remembering.put (h : Remembering view f s) (hcoherent : Coherent view f)
    (hg : Reaches view f g) (handle : Handle)
    (hfits : Fits view s.types g (handle.fieldType, false)) (name : String) :
    Remembering view f (s.put name handle (some g)) := by
  refine ⟨h.store, h.back, fun t h' ht hh => ?_, h.unions⟩
  by_cases hl : g.location = t.location
  · cases hcoherent g t hg ht hl
    obtain ⟨content, hget, -⟩ := Namespace.remembers_of_typeOf? hh
    cases hget.symm.trans (s.names.get?_compiled_put name handle g)
    exact hfits
  · exact h.compiled t h' ht ((s.names.typeOf?_put_of_ne name handle hl).symm.trans hh)

theorem Remembering.leave (h : Remembering view f s) (hcoherent : Coherent view f)
    (hg : Reaches view f g) {name : String} {id : TypeId}
    (hfits : Fits view s.types g (.union id, false)) : Remembering view f (s.leave name id g) := by
  have hput := h.put hcoherent hg (.union id) hfits name
  refine ⟨hput.store, hput.back, hput.compiled, fun t id' ht hid => ?_⟩
  have hget : Entries.get? (s.leave name id g).unions t.location =
      if g.location = t.location then some id else Entries.get? s.unions t.location :=
    Entries.get?_set _ _ _ _
  rw [hget] at hid
  split at hid
  · rename_i hl
    cases hcoherent g t hg ht hl
    cases hid
    exact hfits
  · exact h.unions t id' ht hid

end Regime

/-- What is pending after a computation was pending before, and the types are those of before and
perhaps more. -/
structure GoesOn (s s' : Generation) : Prop where
  pending : MarksNoMore s s'
  types : s.types <+: s'.types

theorem GoesOn.of_eq {s s' : Generation} (hpending : s'.pending = s.pending)
    (htypes : s'.types = s.types) : GoesOn s s' :=
  ⟨.of_eq hpending, htypes ▸ List.prefix_refl _⟩

/-- In a schema without recursion whose fragments are known by their locations, the types that are
found fit. -/
def conformanceRegime (hnested : mode.nestedUnions = true) (hunwinds : Unwinds view f)
    (hcoherent : Coherent view f) : Regime mode view where
  Known g := Reaches view f g
  Good s := Remembering view f s
  After _ s s' := GoesOn s s'
  Err _ := True
  New _ := True
  May _ s g := Inside view f s g
  MayCompile _ s t := Inside view f s t
  MayBranch _ s t := Inside view f s t
  Fit types t r := Fits view types t r
  FitAs types t _ r := Fits view types t r
  Made types t id := Fits view types t (.model id, false)
  known_part := Reaches.part
  known_leads := Reaches.leads
  new _ _ _ := trivial
  failure _ := trivial
  unresolved _ _ := trivial
  tooDeep _ := trivial
  recursive _ _ _ _ _ := trivial
  view_eq h := h.store
  after_refl _ _ := .of_eq rfl rfl
  after_trans h h' := ⟨h.pending.trans h'.pending, h.types.trans h'.types⟩
  after_of_strict h := h
  pending_after h := h.pending _
  may_after _ h hafter := h.after hafter.pending
  mayCompile_after h hafter := h.after hafter.pending
  mayBranch_after h hafter := h.after hafter.pending
  fit_after h hfits := hfits.mono h.types
  fitAs_after h hfits := hfits.mono h.types
  made_after h hfits := hfits.mono h.types
  may_item h _ hlead _ _ hget := h.reaches (hlead.reaches.part (.items hget))
  may_object h _ hlead _ _ := h.reaches hlead.reaches
  may_property h ht _ hp := h.mark ht (.property hp)
  may_union h _ hlead _ _ _ := h.reaches hlead.reaches
  may_branch h _ hb hlead := h.reaches ((Reaches.refl.part (.branch hb)).trans hlead.reaches)
  aside hs h := ⟨hs.of_eq h.view h.backReference h.names h.unions h.types,
    .of_eq h.pending h.types⟩
  refer _ _ hsuited := by
    obtain ⟨t, -, hfits⟩ := hsuited
    cases hfits.back
  mark _ _ hs := hs.of_eq rfl id rfl rfl rfl
  unmark _ hs := hs.of_eq rfl id rfl rfl rfl
  unmark_after _ _ _ h := ⟨h.pending.unmark, h.types⟩
  enter _ hs := hs.of_eq rfl id rfl rfl rfl
  leave hs hg _ _ _ hfits _ _ h := ⟨hs.leave hcoherent hg hfits, h.pending, h.types⟩
  reserve _ hs := ⟨⟨hs.store, hs.back, hs.compiled, hs.unions⟩, .of_eq rfl rfl⟩
  declare name hs hg _ hfits := ⟨hs.put hcoherent hg (.model _) hfits name, .of_eq rfl rfl⟩
  model := by
    intro s t name required fields fields' hs ht hobject hrequired hfields houtline hfinish
    have htypes {m : TypeDef} : s.types <+: s.types ++ [m] := List.prefix_append _ _
    exact ⟨hs.types htypes, ⟨.of_eq rfl, htypes⟩,
      fits_model hobject hrequired hfields houtline hfinish⟩
  settle hs hb _ _ := by
    rw [hs.back] at hb
    cases hb
  union := by
    intro s t name u hs ht _ hvariants hu
    have htypes {m : TypeDef} : s.types <+: s.types ++ [m] := List.prefix_append _ _
    exact ⟨hs.types htypes, ⟨.of_eq rfl, htypes⟩, fits_union hvariants⟩
  fit_made h := h
  back hs hmay hg hlead hpending := by
    rw [hmay.not_pending hunwinds hcoherent hg hlead] at hpending
    cases hpending
  cached hs ht hh := hs.compiled _ _ ht hh
  kept hs ht _ hid := hs.unions _ _ ht hid
  fit_literal hone hl := .of_dumpsTo (.literal _) rfl fun _ _ =>
    FieldType.dumpsTo_literal fun _ hmem => .literal hone hl hmem
  fit_anyBranch _ hn := by
    rw [hnested] at hn
    cases hn
  fit_untyped ht hd := .of_dumpsTo .any rfl fun _ _ => FieldType.dumpsTo_any fun _ => .untyped ht hd
  fit_options _ _ _ hrs := .ofOptions fun r hr => by
    obtain ⟨_, -, hfits⟩ := exists_left_of_forall₂ hrs hr
    exact hfits
  fitAs_plain := fits_plain
  fitAs_array := fits_array
  fitAs_object ht hobject hempty := .of_dumpsTo .object rfl fun _ _ =>
    FieldType.dumpsTo_object fun _ => .object ht hobject (List.isEmpty_iff.1 hempty)
  fitAs_handle _ _ _ hfits := hfits

/-! ## Models -/

/-- When a fragment without recursion, whose fragments are known by their locations, is compiled to
a model in a fresh state, whatever the model takes is dumped as JSON that conforms to the
fragment. -/
theorem conforms_of_materialize (hnested : mode.nestedUnions = true) {store : Store}
    (hunwinds : Unwinds store.view f) (hcoherent : Coherent store.view f) {name : String}
    {id : TypeId} {s' : Generation}
    (h : (compileModel mode name f).run { store } = (.ok (.model id), s')) {j : Json} {v : Value}
    (hv : materialize s'.types id (.ofJson j) = .ok v) :
    Conforms store.view f (v.toJson s'.types .set) := by
  have houtside : Inside store.view f { store } f := fun _ hl => (nomatch hl)
  have hobeys := (conformanceRegime hnested hunwinds hcoherent).obeys_compileModel name .refl
    houtside
  have hfresh : Remembering store.view f { store } :=
    ⟨rfl, rfl, fun _ _ _ h => (nomatch (h : none = some _)),
      fun _ _ _ h => (nomatch (h : none = some _))⟩
  obtain ⟨-, hok, -⟩ := hobeys hfresh
  rw [h] at hok
  obtain ⟨-, -, hfits⟩ := hok _ rfl
  obtain ⟨-, t, ht, rfl⟩ := materialize_eq_ok_iff.1 hv
  exact hfits.dumpsTo (List.prefix_refl _) j t ht

/-! ### A schema without references -/

section NoDocuments

variable (hview : ∀ uri j, view uri ≠ .content j)

include hview

theorem unwinds_of_no_documents : Unwinds view f := by
  intro t g _ hp hr
  exact absurd (hr.sizeOf_le hview) (Nat.not_le.2 hp.sizeOf_lt)

end NoDocuments

/-- A schema of items with a number, labels and an owner. -/
def itemRoot : Fragment where
  content := .obj [("type", .str "object"), ("required", .arr [.str "id"]), ("properties", .obj [
    ("id", .obj [("type", .str "integer")]),
    ("labels", .obj [("type", .str "array"), ("items", .obj [("type", .str "string")])]),
    ("owner", .obj [("type", .str "object"), ("properties", .obj [
      ("active", .obj [("type", .arr [.str "boolean", .str "null"])])])])])]
  document := "memory:///item.json"
  pointer := ""

/-- No documents can be had. -/
def noStore : Store := .empty fun _ => .unavailable ""

/-- An item whose number is a text. -/
def itemData : Json :=
  .obj [("id", .str "5"), ("labels", .arr [.str "new"]), ("owner", .obj [("active", .str "yes")])]

/-- Whether a model was compiled that takes the item. -/
def itemTest (r : Except Failure Handle × Generation) : Bool :=
  match r.1 with
  | .ok (.model id) => (materialize r.2.types id (.ofJson itemData)).toOption.isSome
  | _ => false

/-- The item is taken by its model, and what is dumped conforms to the schema. -/
theorem conforms_itemRoot : ∃ id s' v,
    (compileModel { config := {} } "Item" itemRoot).run { store := noStore } =
      (.ok (.model id), s') ∧
    materialize s'.types id (.ofJson itemData) = .ok v ∧
    Conforms noStore.view itemRoot (v.toJson s'.types .set) := by
  have hview : ∀ uri j, noStore.view uri ≠ .content j := fun _ _ h => (nomatch h)
  have htest : itemTest ((compileModel { config := {} } "Item" itemRoot).run
      { store := noStore }) = true := by
    decide +kernel
  rcases hrun : (compileModel { config := {} } "Item" itemRoot).run { store := noStore } with
    ⟨result, s'⟩
  rw [hrun] at htest
  unfold itemTest at htest
  dsimp only at htest
  split at htest
  · rename_i id
    obtain ⟨v, hv⟩ := Option.isSome_iff_exists.1 htest
    have hv := eq_ok_of_toOption hv
    refine ⟨id, s', v, rfl, hv, ?_⟩
    exact conforms_of_materialize rfl (unwinds_of_no_documents hview)
      (coherent_of_levels (n := 3) hview (by decide +kernel) (by decide +kernel)) hrun hv
  · cases htest

/-! ### Fragments with one location -/

/-- A schema with a property that refers to a fragment of another document, at its own location. -/
def collidingRoot : Fragment where
  content := .obj [("type", .str "object"),
    ("properties", .obj [("p", .obj [("$ref", .str "memory:/s#/x#/y")])])]
  document := "memory:/s#/x"
  pointer := "/y"

/-- The property. -/
def collidingProperty : Fragment where
  content := .obj [("$ref", .str "memory:/s#/x#/y")]
  document := "memory:/s#/x"
  pointer := "/y/properties/p"

/-- The other document, with texts at the location. -/
def collidingStore : Store :=
  (Store.empty fun _ => .unavailable "").add "memory:/s"
    (.obj [("x#", .obj [("y", .obj [("type", .str "string")])])])

/-- The property stands for texts. -/
theorem exists_collidingTarget : ∃ t, Hop collidingStore.view collidingProperty t ∧
    t.document = "memory:/s" ∧ t.ref = none ∧ t.parts = [] ∧ t.declared = ["string"] ∧
    t.isObject = false := by
  have h : ((Store.resolveRef "memory:/s#/x#/y" collidingProperty).run
      (Store.empty collidingStore.view)).1.toOption.any (fun t =>
        decide (t.document = "memory:/s" ∧ t.ref = none ∧ t.parts.isEmpty = true ∧
          t.declared = ["string"] ∧ t.isObject = false)) = true := by
    decide +kernel
  obtain ⟨t, ht, htest⟩ := (Option.any_eq_true _ _).1 h
  obtain ⟨hdocument, href, hparts, hdeclared, hobject⟩ := of_decide_eq_true htest
  exact ⟨t, ⟨_, rfl, eq_ok_of_toOption ht⟩, hdocument, href, List.isEmpty_iff.1 hparts, hdeclared,
    hobject⟩

theorem eq_of_hasPart_collidingRoot {g : Fragment} (h : collidingRoot.HasPart g) :
    g = collidingProperty := by
  have hparts : collidingRoot.parts = [collidingProperty] := by rfl
  exact List.mem_singleton.1 (hparts ▸ h.mem_parts)

theorem unwinds_collidingRoot : Unwinds collidingStore.view collidingRoot := by
  obtain ⟨t, hhop, hdocument, href, hparts, -, -⟩ := exists_collidingTarget
  have hproperty {g : Fragment} (h : collidingProperty.HasPart g) : False := by
    have hparts : collidingProperty.parts = [] := by rfl
    exact List.not_mem_nil (hparts ▸ h.mem_parts)
  have htarget {g : Fragment} (h : t.HasPart g) : False :=
    List.not_mem_nil (hparts ▸ h.mem_parts)
  have hhops {g h : Fragment} (hg : g = collidingRoot ∨ g = collidingProperty ∨ g = t)
      (hh : Hop collidingStore.view g h) : g = collidingProperty ∧ h = t := by
    rcases hg with rfl | rfl | rfl
    · obtain ⟨ref, hr, -⟩ := hh
      cases hr
    · exact ⟨rfl, hh.unique hhop⟩
    · obtain ⟨ref, hr, -⟩ := hh
      rw [href] at hr
      cases hr
  have hreach {g : Fragment} (h : Reaches collidingStore.view collidingRoot g) :
      g = collidingRoot ∨ g = collidingProperty ∨ g = t := by
    refine h.mem_of_closed (S := {g | g = collidingRoot ∨ g = collidingProperty ∨ g = t})
      (.inl rfl) ?_ fun g hg h hh => .inr (.inr (hhops hg hh).2)
    rintro g (rfl | rfl | rfl) h hp
    · exact .inr (.inl (eq_of_hasPart_collidingRoot hp))
    · exact (hproperty hp).elim
    · exact (htarget hp).elim
  have hbelow {g : Fragment} (h : Reaches collidingStore.view collidingProperty g) :
      g = collidingProperty ∨ g = t := by
    refine h.mem_of_closed (S := {g | g = collidingProperty ∨ g = t}) (.inl rfl) ?_
      fun g hg h hh => .inr (hhops (.inr hg) hh).2
    rintro g (rfl | rfl) h hp
    · exact (hproperty hp).elim
    · exact (htarget hp).elim
  intro g h hg hp hr
  rcases hreach hg with rfl | rfl | rfl
  · cases eq_of_hasPart_collidingRoot hp
    rcases hbelow hr with he | he
    · have hpointer : "/y" = "/y/properties/p" := congrArg Fragment.pointer he
      exact absurd hpointer (by decide)
    · have hd : "memory:/s#/x" = t.document := congrArg Fragment.document he
      rw [hdocument] at hd
      exact absurd hd (by decide)
  · exact hproperty hp
  · exact htarget hp

/-- Whether a value is an object with one member, an empty object. -/
def isNested : Json → Bool
  | .obj [(_, .obj [])] => true
  | _ => false

/-- Whether a model was compiled that takes an empty object for the property. -/
def collidingTest (r : Except Failure Handle × Generation) : Bool :=
  match r.1 with
  | .ok (.model id) =>
    (materialize r.2.types id (.ofJson (.obj [("p", .obj [])]))).toOption.any fun v =>
      isNested (v.toJson r.2.types .set)
  | _ => false

/-- Objects conform only where objects are declared. -/
theorem isObject_of_conforms {t : Fragment} {members : List (String × Json)}
    (h : Conforms view t (.obj members)) (hparts : t.parts = []) (hdeclared : t.declared ≠ [])
    (hknown : ∀ name ∈ t.declared, name ∈ jsonTypes) :
    "object" ∈ t.declared ∨ t.isObject = true := by
  generalize hj : Json.obj members = j at h
  cases h with
  | untyped _ hd => exact absurd hd hdeclared
  | unknown _ hmem hn => exact absurd (hknown _ hmem) hn
  | scalar _ _ hs =>
    subst hj
    cases hs
  | array => cases hj
  | object _ ho _ => exact .inl ho
  | record ho _ _ => exact .inr ho
  | @literal _ _ l => cases l <;> cases hj
  | branch hb _ =>
    have hmem := (Fragment.HasPart.branch hb).mem_parts
    rw [hparts] at hmem
    cases hmem

theorem not_conforms_of_isNested {j : Json} (h : isNested j = true) :
    ¬Conforms collidingStore.view collidingRoot j := by
  obtain ⟨t, hhop, hdocument, href, hparts, hdeclared, hobject⟩ := exists_collidingTarget
  have hinner : ¬Conforms collidingStore.view t (.obj []) := by
    intro hc
    rcases isObject_of_conforms hc hparts (by simp [hdeclared])
      (by simp [hdeclared, jsonTypes]) with ho | ho
    · simp [hdeclared] at ho
    · simp [hobject] at ho
  intro hc
  unfold isNested at h
  split at h
  · rename_i key
    generalize hj : Json.obj [(key, .obj [])] = j at hc
    cases hc with
    | untyped _ hd => cases hd
    | unknown _ hmem hn =>
      cases List.mem_singleton.1 hmem
      exact hn (by decide)
    | scalar _ _ hs =>
      subst hj
      cases hs
    | array => cases hj
    | object _ _ hp => cases hp
    | record _ hmembers _ =>
      cases hj
      have hentry := hmembers _ (List.mem_singleton_self _)
      cases hentry with
      | value hp hpart =>
        cases eq_of_hasPart_collidingRoot (.property hp)
        cases hpart with
        | leads hlead hc =>
          cases hlead.eq_of_hop hhop href
          exact hinner hc
    | @literal _ _ l => cases l <;> cases hj
    | branch hb _ => cases hb
  · cases h

/-- The schema has no recursion, but its model takes an object where a text is declared, and dumps
it again. -/
theorem exists_not_conforms : ∃ id s' v, Unwinds collidingStore.view collidingRoot ∧
    (compileModel { config := {} } "Record" collidingRoot).run { store := collidingStore } =
      (.ok (.model id), s') ∧
    materialize s'.types id (.ofJson (.obj [("p", .obj [])])) = .ok v ∧
    ¬Conforms collidingStore.view collidingRoot (v.toJson s'.types .set) := by
  have htest : collidingTest ((compileModel { config := {} } "Record" collidingRoot).run
      { store := collidingStore }) = true := by
    decide +kernel
  rcases hrun : (compileModel { config := {} } "Record" collidingRoot).run
    { store := collidingStore } with ⟨result, s'⟩
  rw [hrun] at htest
  unfold collidingTest at htest
  dsimp only at htest
  split at htest
  · rename_i id
    obtain ⟨v, hv, hnested⟩ := (Option.any_eq_true _ _).1 htest
    exact ⟨id, s', v, unwinds_collidingRoot, rfl, eq_ok_of_toOption hv,
      not_conforms_of_isNested hnested⟩
  · cases htest

end ShapeSum
