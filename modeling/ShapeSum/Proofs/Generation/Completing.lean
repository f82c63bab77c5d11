import ShapeSum.Proofs.Generation.Closing
import ShapeSum.Proofs.Generation.Relating
import ShapeSum.Proofs.Types.Resolved

/-!
# Models are completed

A model that is made inside of others may keep the names of some of them.  Then it is one
of the session, and the session knows that there was a reference back (`Owes`), so its
names are resolved when the compilation ends that began the session.  Hence a compilation
that is not inside another one leaves no names in models where there were none, and
neither does a generation (`idle_of_generate`): nothing that it makes is ever found to be
incomplete.

A mark can get lost only in a compilation that fails, so inside of a compilation it is
enough to look at runs that keep all marks.
-/

namespace ShapeSum

variable {mode : Mode} {s s' s'' : Generation} {f : Fragment}

/-! ## Handles that are no labels -/

/-- Nothing that was compiled is known by a label only. -/
def Generation.Unlabelled (s : Generation) : Prop :=
  ∀ l content text, Entries.get? s.names.compiled l ≠ some (content, .label text)

namespace Generation.Unlabelled

theorem of_names (hs : s.Unlabelled) (h : s'.names = s.names) : s'.Unlabelled := by
  unfold Unlabelled
  rw [h]
  exact hs

/-- A name is put down for something that is no label. -/
theorem put (hs : s.Unlabelled) {name : String} {handle : Handle} {f : Option Fragment}
    (hhandle : ∀ text, handle ≠ .label text) : (s.put name handle f).Unlabelled := by
  cases f with
  | none => exact hs
  | some f =>
    intro l content text h
    change Entries.get? (Entries.set s.names.compiled f.location (f.content, handle)) l = _ at h
    rw [Entries.get?_set] at h
    split at h
    · cases h
      exact hhandle text rfl
    · exact hs l content text h

/-- A type that is remembered has no names in it. -/
theorem names_of_typeOf? (hs : s.Unlabelled) {handle : Handle}
    (h : s.names.typeOf? f = some handle) : handle.fieldType.names = [] := by
  obtain ⟨content, hget, -⟩ := Namespace.remembers_of_typeOf? h
  cases handle with
  | label text => exact absurd hget (hs _ _ _)
  | _ => rfl

end Generation.Unlabelled

/-! ## What a session owes -/

theorem MarksKept.busy (h : MarksKept s s') (hs : Busy s) : Busy s' := by
  obtain ⟨l, n, hl⟩ := hs
  have hhas : Entries.has s.pending l = true := Option.isSome_iff_exists.2 ⟨n, hl⟩
  exact ⟨l, Option.isSome_iff_exists.1 (h l hhas)⟩

/-- A part of a compilation keeps the types, and of the models that it makes those with names left
are of the session, which then knows of a reference back. -/
structure Owes (s s' : Generation) : Prop where
  /-- The types are kept. -/
  types : s.types <+: s'.types
  /-- The models of the session are kept. -/
  session : s.session ⊆ s'.session
  /-- References back stay known. -/
  flag : s.backReference = true → s'.backReference = true
  /-- The models with names left. -/
  named : ∀ {id m}, s.types.length ≤ id → s'.types.model? id = some m → ¬m.IsResolved →
    id ∈ s'.session ∧ s'.backReference = true

namespace Owes

/-- No model is made. -/
theorem quiet (htypes : s.types <+: s'.types)
    (hmodels : ∀ {id m}, s.types.length ≤ id → s'.types.model? id ≠ some m)
    (hsession : s'.session = s.session) (hflag : s.backReference = true → s'.backReference = true) :
    Owes s s' :=
  ⟨htypes, fun _ h => hsession ▸ h, hflag, fun hid hm => absurd hm (hmodels hid)⟩

theorem same (htypes : s'.types = s.types) (hsession : s'.session = s.session)
    (hflag : s.backReference = true → s'.backReference = true) : Owes s s' := by
  refine .quiet (by rw [htypes]) (fun hid hm => ?_) hsession hflag
  rw [htypes] at hm
  exact Nat.not_lt.2 hid (Types.lt_length_of_model? hm)

theorem trans (h : Owes s s') (h' : Owes s' s'') : Owes s s'' where
  types := h.types.trans h'.types
  session _ hid := h'.session (h.session hid)
  flag hs := h'.flag (h.flag hs)
  named {id m} hid hm hnamed := by
    by_cases hlt : id < s'.types.length
    · rw [Types.model?_eq_of_lt h'.types hlt] at hm
      obtain ⟨hmem, hflag⟩ := h.named hid hm hnamed
      exact ⟨h'.session hmem, h'.flag hflag⟩
    · exact h'.named (Nat.not_lt.1 hlt) hm hnamed

end Owes

/-- A computation adds no marks and no labels, and inside of a compilation that keeps its marks
everything is owed. -/
structure Advances (s s' : Generation) : Prop where
  /-- What is marked was marked before. -/
  marks : ∀ l, Entries.has s'.pending l = true → Entries.has s.pending l = true
  /-- No label is added. -/
  handles : s.Unlabelled → s'.Unlabelled
  /-- What is owed. -/
  owes : s.Unlabelled → Busy s → MarksKept s s' → Owes s s'

namespace Advances

/-- What is kept at the end was kept before the last part. -/
theorem kept_before (h : Advances s' s'') (hkept : MarksKept s s'') : MarksKept s s' :=
  fun l hl => h.marks l (hkept l hl)

/-- What is kept from the beginning is kept after the first part. -/
theorem kept_after (h : Advances s s') (hkept : MarksKept s s'') : MarksKept s' s'' :=
  fun l hl => hkept l (h.marks l hl)

/-- Marks and names stay. -/
theorem of_same (hp : s'.pending = s.pending) (hn : s'.names = s.names) (h : Owes s s') :
    Advances s s' :=
  ⟨fun _ hl => hp ▸ hl, fun hs => hs.of_names hn, fun _ _ _ => h⟩

theorem trans (h : Advances s s') (h' : Advances s' s'') : Advances s s'' where
  marks l hl := h.marks l (h'.marks l hl)
  handles hs := h'.handles (h.handles hs)
  owes hs hbusy hkept :=
    have hkept' := h'.kept_before hkept
    (h.owes hs hbusy hkept').trans
      (h'.owes (h.handles hs) (hkept'.busy hbusy) (h.kept_after hkept))

end Advances

theorem outward_advances (mode : Mode) : Outward mode Advances where
  refl _ := .of_same rfl rfl (.same rfl rfl id)
  trans := .trans
  aside h hsession hback := .of_same h.pending h.names (.same h.types hsession (hback ▸ id))
  refer _ := .of_same rfl rfl (.same rfl rfl fun _ => rfl)
  reserve _ := ⟨fun _ hl => hl, fun hs => hs.put nofun, fun _ _ _ => .same rfl rfl id⟩
  union {s s' f name variants u} _ _ h _ := by
    refine ⟨h.marks, fun hs => (h.handles hs).put nofun, fun hs hbusy hkept => ?_⟩
    have hunion : Owes s' { s' with types := s'.types ++ [.union u] } := by
      refine .quiet (List.prefix_append ..) (fun {id m} hid hm => ?_) rfl fun hb => hb
      have hm : s'.types.model? id = some m := (Types.model?_append_union ..).symm.trans hm
      exact Nat.not_lt.2 hid (Types.lt_length_of_model? hm)
    have henter : Owes s (s.enter f.location) := .same rfl rfl id
    exact ((henter.trans (h.owes hs hbusy hkept)).trans hunion).trans (.same rfl rfl fun hb => hb)

/-! ## The end of a session -/

theorem names_of_ownType (model : String) (id : TypeId) :
    ∀ n t, ownType? model id n = some t → t.names = [] := by
  intro n t ht
  unfold ownType? at ht
  split at ht
  · cases ht
    rfl
  · split at ht
    · cases ht
    · split at ht <;> cases ht
      rfl

/-- The end of a session changes types only, and every model is resolved then but those that stayed
as they were. -/
structure Settles (ids : List TypeId) (s s' : Generation) : Prop where
  pending : s'.pending = s.pending
  names : s'.names = s.names
  /-- The models. -/
  resolved : ∀ {id m}, s'.types.model? id = some m →
    m.IsResolved ∨ id ∉ ids ∧ s.types.model? id = some m

theorem settles_of_run_settleAll {ids : List TypeId} (h : (settleAll ids).run s = (.ok (), s')) :
    Settles ids s s' := by
  induction ids generalizing s with
  | nil =>
    cases h
    exact ⟨rfl, rfl, fun hm => .inr ⟨List.not_mem_nil, hm⟩⟩
  | cons i ids ih =>
    unfold settleAll at h
    obtain ⟨_, _, hget, h⟩ := exists_of_run_bind h
    cases hget
    split at h
    · rename_i hnone
      obtain ⟨hp, hn, hresolved⟩ := ih h
      refine ⟨hp, hn, fun {id m} hm => (hresolved hm).imp_right fun ⟨hid, hm⟩ => ⟨?_, hm⟩⟩
      rintro (_ | ⟨_, hmem⟩)
      · cases hnone.symm.trans hm
      · exact hid hmem
    · rename_i m₀ hm₀
      split at h
      · cases h
      · rename_i m₁ hsettle
        obtain ⟨_, s₁, hset, h⟩ := exists_of_run_bind h
        cases hset
        obtain ⟨hp, hn, hresolved⟩ := ih h
        refine ⟨hp, hn, fun {id m} hm => ?_⟩
        rcases hresolved hm with hm | ⟨hid, hm⟩
        · exact .inl hm
        · rw [show _ = _ from Types.model?_set hm₀ m₁ id] at hm
          split at hm
          · cases hm
            exact .inl (Model.isResolved_of_settle hsettle)
          · rename_i hne
            refine .inr ⟨?_, hm⟩
            rintro (_ | ⟨_, hmem⟩)
            · exact hne rfl
            · exact hid hmem

theorem settles_of_run_endSession {outermost : Bool}
    (h : (endSession outermost).run s = (.ok (), s')) :
    Settles [] s s' ∧ (outermost = true → s.backReference = true → Settles s.session s s') := by
  unfold endSession at h
  obtain ⟨_, _, hget, h⟩ := exists_of_run_bind h
  cases hget
  split at h
  · have hall := settles_of_run_settleAll h
    exact ⟨⟨hall.pending, hall.names,
      fun hm => (hall.resolved hm).imp_right fun h => ⟨List.not_mem_nil, h.2⟩⟩, fun _ _ => hall⟩
  · rename_i hquiet
    obtain ⟨-, rfl⟩ := of_run_pure h
    exact ⟨⟨rfl, rfl, fun hm => .inr ⟨List.not_mem_nil, hm⟩⟩,
      fun ho hb => absurd (Bool.and_eq_true_iff.2 ⟨ho, hb⟩) hquiet⟩

/-! ## Types of properties -/

/-- The types that are found for properties have no names in them unless they are marked as
references back. -/
def Notices (annotate : Annotate) : Prop :=
  ∀ {property : String} {f : Fragment} {s s' : Generation} {r : FieldType × Bool},
    (annotate property f).run s = (.ok r, s') → s.Unlabelled → r.1.names = [] ∨ r.2 = true

/-- The type of a compiled fragment has no names in it. -/
theorem names_of_run_compile {annotate : Annotate} {name : String} {handle : Handle}
    (h : (compile mode annotate name f).run s = (.ok handle, s')) (hs : s.Unlabelled) :
    handle.fieldType.names = [] := by
  unfold compile at h
  split at h
  · obtain ⟨_, _, hget, h⟩ := exists_of_run_bind h
    cases hget
    split at h
    · rename_i hremembered
      obtain ⟨rfl, rfl⟩ := of_run_pure h
      exact hs.names_of_typeOf? hremembered
    · obtain ⟨id, b, -, -, -, rfl, -⟩ := of_run_compileNew h
      rfl
  · cases h

section Properties

variable {annotate : Annotate} (hN : Notices annotate)

include hN

theorem notices_typeFor {property jsonType : String} {reference : Option String}
    {r : FieldType × Bool}
    (h : (typeFor mode annotate property reference f jsonType).run s = (.ok r, s'))
    (hs : s.Unlabelled) : r.1.names = [] ∨ r.2 = true := by
  by_cases hobject : jsonType = "object"
  · subst hobject
    change (objectType mode annotate property reference f).run s = _ at h
    unfold objectType at h
    split at h
    · obtain ⟨rfl, rfl⟩ := of_run_pure h
      exact .inl rfl
    · obtain ⟨raw, s₁, hname, h⟩ := exists_of_run_bind h
      obtain ⟨-, rfl⟩ := of_run_ofExcept hname
      obtain ⟨_, _, hnames, h⟩ := exists_of_run_bind h
      cases hnames
      obtain ⟨handle, s₂, hcompile, h⟩ := exists_of_run_bind h
      obtain ⟨rfl, rfl⟩ := of_run_pure h
      exact .inl (names_of_run_compile hcompile hs)
  by_cases harray : jsonType = "array"
  · subst harray
    obtain ⟨⟨item, isBack⟩, s₁, hitem, h⟩ := exists_of_run_bind h
    obtain ⟨rfl, rfl⟩ := of_run_pure h
    have hnoticed : item.names = [] ∨ isBack = true := by
      unfold itemType at hitem
      split at hitem
      · exact hN hitem hs
      · obtain ⟨he, rfl⟩ := of_run_pure hitem
        cases he
        exact .inl rfl
    refine hnoticed.imp_left fun hnone => ?_
    dsimp only
    split <;> exact hnone
  · rw [Regime.typeFor_eq_plainType mode annotate property reference f hobject harray] at h
    obtain ⟨rfl, rfl⟩ := of_run_pure h
    refine .inl ?_
    unfold plainType
    split <;> rfl

variable (hA : ∀ property f, CarriesOver Advances (annotate property f))
  (hC : ∀ name f, CarriesOver Advances (compile mode annotate name f))

include hA hC

theorem notices_typesFor {property : String} {reference : Option String}
    {jsonTypes : List String} {r : List FieldType × Bool}
    (h : (typesFor mode annotate property reference f jsonTypes).run s = (.ok r, s'))
    (hs : s.Unlabelled) : (∀ t ∈ r.1, t.names = []) ∨ r.2 = true := by
  induction jsonTypes generalizing s r with
  | nil =>
    obtain ⟨rfl, rfl⟩ := of_run_pure h
    exact .inl fun _ ht => nomatch ht
  | cons j js ih =>
    obtain ⟨⟨o, isBack⟩, s₁, hfirst, h⟩ := exists_of_run_bind h
    obtain ⟨⟨os, anyBack⟩, s₂, hrest, h⟩ := exists_of_run_bind h
    obtain ⟨rfl, rfl⟩ := of_run_pure h
    have hadvances : Advances s s₁ :=
      carriesOver_typeFor (outward_advances mode) hC hA property reference f j _ _ _ hfirst
    rcases notices_typeFor hN hfirst hs with ho | hback
    · rcases ih hrest (hadvances.handles hs) with hos | hback
      · exact .inl (List.forall_mem_cons.2 ⟨ho, hos⟩)
      · exact .inr (Bool.or_eq_true_iff.2 (.inr hback))
    · exact .inr (Bool.or_eq_true_iff.2 (.inl hback))

theorem notices_newType {property : String} {reference : Option String} {r : FieldType × Bool}
    (h : (newType mode annotate property reference f).run s = (.ok r, s')) (hs : s.Unlabelled) :
    r.1.names = [] ∨ r.2 = true := by
  unfold newType at h
  split at h
  · split at h
    · obtain ⟨id, s₁, -, h⟩ := exists_of_run_bind h
      obtain ⟨rfl, rfl⟩ := of_run_pure h
      exact .inl rfl
    · obtain ⟨rfl, rfl⟩ := of_run_pure h
      exact .inl rfl
  · split at h
    · obtain ⟨rfl, rfl⟩ := of_run_pure h
      exact .inl rfl
    · unfold typeByJsonTypes at h
      split at h
      · obtain ⟨rfl, rfl⟩ := of_run_pure h
        exact .inl rfl
      · obtain ⟨⟨os, isBack⟩, s₁, htypes, h⟩ := exists_of_run_bind h
        obtain ⟨rfl, rfl⟩ := of_run_pure h
        refine (notices_typesFor hN hA hC htypes hs).imp_left fun hos => ?_
        refine List.eq_nil_iff_forall_not_mem.2 fun n hn => ?_
        obtain ⟨t, ht, hn⟩ := FieldType.exists_mem_names_of_ofOptions hn
        rw [hos t ht] at hn
        cases hn

theorem notices_annotateOnce : Notices (annotateOnce mode annotate) := by
  intro property f s s' r h hs
  obtain ⟨chain, s₁, hresolve, h⟩ := exists_of_run_bind h
  have hs₁ : s₁.Unlabelled := by
    rw [Generating.run_onStore] at hresolve
    obtain ⟨-, rfl⟩ := Prod.mk.inj hresolve
    exact hs
  obtain ⟨_, _, hget, h⟩ := exists_of_run_bind h
  cases hget
  split at h
  · obtain ⟨rfl, rfl⟩ := of_run_pure h
    exact .inr rfl
  · split at h
    · rename_i hremembered
      obtain ⟨rfl, rfl⟩ := of_run_pure h
      exact .inl (hs₁.names_of_typeOf? hremembered)
    · exact notices_newType hN hA hC h hs₁

/-! ## Compilations -/

omit hC in
/-- A session knows of a reference back as soon as a field holds a name. -/
theorem noted_compileFields (mode : Mode) {required : List String} {done fields : List Field}
    {properties : List (String × Fragment)}
    (h : (compileFields annotate required done properties).run s = (.ok fields, s'))
    (hs : s.Unlabelled) (hbusy : Busy s) (hkept : MarksKept s s')
    (hdone : ∀ g ∈ done, g.type.names = [] ∨ s.backReference = true) :
    ∀ g ∈ fields, g.type.names = [] ∨ s'.backReference = true := by
  have hQ := outward_advances mode
  induction properties generalizing done s with
  | nil =>
    obtain ⟨rfl, rfl⟩ := of_run_pure h
    exact hdone
  | cons p rest ih =>
    obtain ⟨property, f⟩ := p
    obtain ⟨⟨type, isBack⟩, s₁, hfirst, h⟩ := exists_of_run_bind h
    let needed := required.contains property || marksRequired f
    let field : Field :=
      { name := attributeName property (done.map Field.name)
        property
        required := needed
        type := if needed then type else type.optional
        description := (f.get? "description").bind Json.text? }
    let s₂ : Generation := if isBack then { s₁ with backReference := true } else s₁
    have hrest : (compileFields annotate required (done ++ [field]) rest).run s₂ =
        (.ok fields, s') := by
      cases isBack <;> exact h
    have hadvances : Advances s s₂ := by
      refine (hA property f _ _ _ hfirst).trans ?_
      cases isBack with
      | false => exact hQ.refl s₁
      | true => exact hQ.refer s₁
    have hkept₂ : MarksKept s s₂ :=
      (carriesOver_compileFields hQ hA required _ rest _ _ _ hrest).kept_before hkept
    have hflag : s.backReference = true → s₂.backReference = true :=
      (hadvances.owes hs hbusy hkept₂).flag
    refine ih hrest (hadvances.handles hs) (hkept₂.busy hbusy) (hadvances.kept_after hkept)
      (List.forall_mem_append.2 ⟨fun g hg => (hdone g hg).imp_right hflag, fun g hg => ?_⟩)
    cases List.mem_singleton.1 hg
    rcases hN hfirst hs with hnone | hback
    · refine .inl (List.eq_nil_iff_forall_not_mem.2 fun n hn => ?_)
      have hmem : n ∈ type.names := by
        have hn : n ∈ (if needed then type else type.optional).names := hn
        split at hn
        · exact hn
        · exact FieldType.mem_names_of_optional hn
      rw [hnone] at hmem
      cases hmem
    · have hback : isBack = true := hback
      exact .inr (by simp [s₂, hback])

omit hC in
/-- A model that keeps a name is owed as soon as it is one of the session. -/
theorem advances_buildModel {name : String} {id : TypeId}
    (h : (buildModel mode annotate name f).run s = (.ok id, s')) :
    Advances s { s' with session := s'.session ++ [id] } := by
  obtain ⟨required, fields, fields', s₁, -, hfields, hfinish, rfl, rfl⟩ := of_run_buildModel h
  have hadvances : Advances s s₁ :=
    carriesOver_compileFields (outward_advances mode) hA required [] f.properties _ _ _ hfields
  refine ⟨hadvances.marks, hadvances.handles, fun hs hbusy hkept => ?_⟩
  have hnoted := noted_compileFields hN hA mode hfields hs hbusy hkept fun _ hg => nomatch hg
  refine (hadvances.owes hs hbusy hkept).trans ⟨List.prefix_append .., List.subset_append_left ..,
    fun hb => hb, fun {id m} hid hm hnamed => ?_⟩
  rw [Types.model?_eq_some] at hm
  change (s₁.types ++ [.model _])[id]? = _ at hm
  rw [List.getElem?_append_right hid, List.getElem?_singleton] at hm
  split at hm
  · rename_i hzero
    cases hm
    have he : id = s₁.types.length := by omega
    refine ⟨List.mem_append_right _ (he ▸ List.mem_singleton_self _), ?_⟩
    by_contra hflag
    refine hnamed fun g' hg' => List.eq_nil_iff_forall_not_mem.2 fun n hn => ?_
    have hg' : g' ∈ fields' := hg'
    rw [eq_of_finishFields hfinish] at hg'
    obtain ⟨g, hg, rfl⟩ := List.mem_map.1 hg'
    have hmem := FieldType.mem_names_of_resolve (names_of_ownType name _) g.type hn
    rw [(hnoted g hg).resolve_right hflag] at hmem
    cases hmem
  · cases hm

omit hC in
/-- A model is compiled: nothing is known by a label, and the marks are those of before. -/
theorem advances_compileNew {name : String} {handle : Handle}
    (h : (compileNew mode annotate name f s.pending.isEmpty).run s = (.ok handle, s')) :
    Advances s s' := by
  obtain ⟨id, b, hmake, hmark, -, rfl, hend⟩ := of_run_compileNew h
  have hmade := advances_buildModel hN hA hmake
  obtain ⟨hsettles, -⟩ := settles_of_run_endSession hend
  have hbegun (outermost : Bool) : (s.begun outermost).pending = s.pending ∧
      (s.begun outermost).names = s.names := by
    cases outermost <;> exact ⟨rfl, rfl⟩
  refine ⟨fun l hl => ?_, fun hs => ?_, fun hs hbusy hkept => ?_⟩
  · rw [hsettles.pending] at hl
    obtain ⟨hne, hl⟩ := (has_unmark b f.location l).1 hl
    rw [← (hbegun _).1]
    exact ((has_mark _ f.location name l).1 (hmade.marks l hl)).resolve_left hne
  · have hb : b.Unlabelled := hmade.handles (hs.of_names (hbegun _).2)
    have hcompiled : (b.put name (.model id) (some f)).Unlabelled := hb.put nofun
    exact hcompiled.of_names hsettles.names
  · -- Something is being compiled, so this compilation began no session and ends none.
    rw [hbusy.pending_ne_nil] at hmake hend hmade
    cases hend
    have hmark' : Owes s (s.mark f.location name) := .same rfl rfl fun hb => hb
    exact (hmark'.trans (hmade.owes hs (busy_mark ..) (.mark hmark hkept))).trans
      (.same rfl rfl fun hb => hb)

omit hC in
theorem advances_compile (name : String) (f : Fragment) :
    CarriesOver Advances (compile mode annotate name f) := by
  intro s handle s' h
  unfold compile at h
  split at h
  · obtain ⟨_, _, hget, h⟩ := exists_of_run_bind h
    cases hget
    split at h
    · obtain ⟨-, rfl⟩ := of_run_pure h
      exact (outward_advances mode).refl s
    · exact advances_compileNew hN hA h
  · cases h

end Properties

/-- At every depth the types of properties are found so. -/
theorem advances_annotateWithin (mode : Mode) (depth : Nat) :
    Notices (annotateWithin mode depth) ∧
      ∀ property f, CarriesOver Advances (annotateWithin mode depth property f) := by
  induction depth with
  | zero => exact ⟨nofun, fun _ _ => carriesOver_throw _⟩
  | succ depth ih =>
    obtain ⟨hN, hA⟩ := ih
    have hC : ∀ name f, CarriesOver Advances (compile mode (annotateWithin mode depth) name f) :=
      advances_compile hN hA
    exact ⟨notices_annotateOnce hN hA hC,
      carriesOver_annotateOnce (outward_advances mode) hC hA⟩

/-! ## Between compilations -/

/-- Nothing is being compiled, no label stands for a type, and no name is left in a model. -/
structure Generation.Idle (s : Generation) : Prop where
  /-- Nothing is being compiled. -/
  pending : s.pending = []
  /-- No label stands for a type. -/
  unlabelled : s.Unlabelled
  /-- No name is left in a model. -/
  resolved : s.types.Resolved

theorem outward_idle (mode : Mode) : Outward mode fun s s' => s.Idle → s'.Idle where
  refl _ := id
  trans h h' hs := h' (h hs)
  aside h _ _ hs :=
    ⟨h.pending.trans hs.pending, hs.unlabelled.of_names h.names, h.types ▸ hs.resolved⟩
  refer _ hs := ⟨hs.pending, hs.unlabelled, hs.resolved⟩
  reserve _ hs := ⟨hs.pending, hs.unlabelled.put nofun, hs.resolved⟩
  union {s s' f name variants u} _ _ h _ hs := by
    have hs' : s'.Idle := h ⟨hs.pending, hs.unlabelled, hs.resolved⟩
    refine ⟨hs'.pending, hs'.unlabelled.put nofun, fun {id m} hm => ?_⟩
    exact hs'.resolved ((Types.model?_append_union s'.types u id).symm.trans hm)

/-- A compilation that is not inside another one resolves the names in the models that it makes. -/
theorem idle_compile (depth : Nat) (name : String) (f : Fragment) :
    CarriesOver (fun s s' => s.Idle → s'.Idle)
      (compile mode (annotateWithin mode depth) name f) := by
  intro s handle s' h hs
  unfold compile at h
  split at h
  · obtain ⟨_, _, hget, h⟩ := exists_of_run_bind h
    cases hget
    split at h
    · obtain ⟨-, rfl⟩ := of_run_pure h
      exact hs
    · obtain ⟨hN, hA⟩ := advances_annotateWithin mode depth
      have hadvances := advances_compileNew hN hA h
      have hfree := (pending_eq_nil_iff s).1 hs.pending
      rw [hs.pending] at h
      obtain ⟨id, b, hmake, hmark, -, rfl, hend⟩ := of_run_compileNew h
      obtain ⟨hquiet, hsettles⟩ := settles_of_run_endSession hend
      have hkept : MarksKept (s.begun true) (b.unmark f.location) := by
        intro l hl
        exact absurd hl (hfree l)
      have howes : Owes ((s.begun true).mark f.location name)
          { b with session := b.session ++ [id] } :=
        (advances_buildModel hN hA hmake).owes hs.unlabelled (busy_mark ..) (.mark hmark hkept)
      refine ⟨(pending_eq_nil_iff _).2 fun l hl => hfree l (hadvances.marks l hl),
        hadvances.handles hs.unlabelled, fun {id' m} hm => ?_⟩
      -- A model with names left would be one of the session, and the end of the session settles it.
      by_contra hnamed
      obtain ⟨-, hmade⟩ := (hquiet.resolved hm).resolve_left hnamed
      by_cases hlt : id' < s.types.length
      · exact hnamed (hs.resolved ((Types.model?_eq_of_lt howes.types hlt).symm.trans hmade))
      · obtain ⟨hmem, hflag⟩ := howes.named (Nat.not_lt.1 hlt) hmade hnamed
        exact (((hsettles rfl hflag).resolved hm).resolve_left hnamed).1 hmem
  · cases h

/-- A generation that succeeds leaves no name in a model. -/
theorem idle_of_generate {base : String} {id : TypeId}
    (h : (generate mode base f).run s = (.ok id, s')) (hs : s.Idle) : s'.Idle :=
  carriesOver_unionOf (outward_idle mode) (idle_compile mode.depth) base f s id s'
    (run_unionOf_of_generate h) hs

end ShapeSum
