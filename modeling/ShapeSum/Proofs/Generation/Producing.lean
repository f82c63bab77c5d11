import ShapeSum.Proofs.Generation.Makings

/-!
# What a compilation produces

Inside a compilation every function of the generation that succeeds, with all marks left
in place, produces a row of makings.  The function for the types of properties notes
references back (`Notes`); given that it does so within a depth, the other functions do
what they should, and it does so within one depth more (`notes_annotateWithin`).

A mark can get lost only when a fragment is compiled while it is being compiled already.
Then the compilation around it fails, so here it is enough to look at runs that keep all
marks.
-/

namespace ShapeSum

variable {α : Type} {mode : Mode} {s s' : Generation} {f t : Fragment}

/-- The types that are found for properties inside a compilation note references back. -/
def Notes (mode : Mode) (annotate : Annotate) : Prop :=
  ∀ {property : String} {f : Fragment} {s s' : Generation} {r : FieldType × Bool},
    (annotate property f).run s = (.ok r, s') → Busy s → MarksKept s s' →
    ∃ ms, Produces mode s ms s' ∧ Noted s.marked s' f r

/-! ## Elementary computations -/

theorem of_run_pure {a a' : α} (h : (pure a : Generating α).run s = (.ok a', s')) :
    a' = a ∧ s = s' := by
  cases h
  exact ⟨rfl, rfl⟩

theorem of_run_ofExcept {r : Except Failure α} {a : α}
    (h : (Generating.ofExcept r).run s = (.ok a, s')) : r = .ok a ∧ s = s' := by
  have h : (r, s) = (.ok a, s') := h
  cases h
  exact ⟨rfl, rfl⟩

theorem of_run_onStore (mode : Mode) {x : Resolving α} {a : α} (hx : Transparent x)
    (h : (Generating.onStore x).run s = (.ok a, s')) :
    (x.run s.store).1 = .ok a ∧ Produces mode s [] s' := by
  rw [Generating.run_onStore] at h
  obtain ⟨hr, rfl⟩ := Prod.mk.inj h
  exact ⟨hr, .aside (hx.keeps s.store) rfl List.prefix_rfl rfl rfl id⟩

theorem of_run_resolve (mode : Mode) (h : (Generating.onStore (resolve f)).run s = (.ok t, s')) :
    LeadsTo s.store.view f t ∧ Produces mode s [] s' := by
  obtain ⟨hr, hquiet⟩ := of_run_onStore mode (transparent_resolve f) h
  exact ⟨leadsTo_iff.2 hr, hquiet⟩

theorem of_run_report (mode : Mode) {e : Event} (h : (Generating.report e).run s = (.ok (), s')) :
    Produces mode s [] s' := by
  cases h
  exact .aside rfl rfl List.prefix_rfl rfl rfl id

theorem of_run_addType {d : TypeDef} {id : TypeId}
    (h : (Generating.addType d).run s = (.ok id, s')) :
    id = s.types.length ∧ s' = { s with types := s.types ++ [d] } := by
  cases h
  exact ⟨rfl, rfl⟩

theorem of_run_reserve (mode : Mode) {name : String}
    (h : (Generating.reserve name).run s = (.ok (), s')) : Produces mode s [] s' := by
  rw [Generating.run_reserve, Generating.run_declare] at h
  split at h
  · cases h
  · rename_i hfree
    cases h
    have hput : Extends s (s.put name .reserved none) := .put (.inl (Bool.eq_false_iff.2 hfree))
    exact .quiet hput rfl rfl

/-! ## Compilations -/

section Depth

variable {depth : Nat}

theorem charted_anyName (depth : Nat) (property : String) (f : Fragment) (s : Generation) :
    Charted mode (fun _ _ => True) (annotateWithin mode depth property f) s Anything :=
  charted_annotateWithin (fun _ _ _ => trivial) depth property f s

variable (hA : Notes mode (annotateWithin mode depth))

include hA

theorem produces_compileFields {required : List String} {done fields : List Field}
    {properties : List (String × Fragment)}
    (h : (compileFields (annotateWithin mode depth) required done properties).run s =
      (.ok fields, s')) (hs : Busy s) (hkept : MarksKept s s') :
    ∃ ms fresh, Produces mode s ms s' ∧ fields = done ++ fresh ∧
      List.Forall₂ (FieldFor (Flagged s.marked s') required) properties fresh := by
  induction properties generalizing done s with
  | nil =>
    cases h
    exact ⟨[], [], .refl _, (List.append_nil _).symm, .nil⟩
  | cons p rest ih =>
    obtain ⟨property, f⟩ := p
    obtain ⟨⟨type, isBack⟩, s₁, hfirst, h⟩ := exists_of_run_bind h
    let field : Field :=
      { name := attributeName property (done.map Field.name)
        property
        required := required.contains property || marksRequired f
        type := if required.contains property || marksRequired f then type else type.optional
        description := (f.get? "description").bind Json.text? }
    let s₂ : Generation := if isBack then { s₁ with backReference := true } else s₁
    have hrest : (compileFields (annotateWithin mode depth) required (done ++ [field]) rest).run
        s₂ = (.ok fields, s') := by
      cases isBack <;> exact h
    have hflag : Produces mode s₁ [] s₂ := by
      cases isBack with
      | false => exact .refl s₁
      | true => exact .aside rfl rfl List.prefix_rfl rfl rfl fun _ => rfl
    have hkept₂ : MarksKept s s₂ :=
      hkept.before hrest (charted_compileFields (charted_anyName depth) required _ rest)
    have hkept₁ : MarksKept s s₁ := by
      cases isBack <;> exact hkept₂
    obtain ⟨ms, hms, hnoted⟩ := hA hfirst hs hkept₁
    have hms := hms.before hflag
    obtain ⟨ms', fresh, hms', rfl, hfresh⟩ :=
      ih hrest (hs.of_marked hms.marked) (hkept.from hms.marked)
    rw [hms.marked] at hfresh
    refine ⟨ms ++ ms', field :: fresh, hms.trans hms', by simp, .cons ⟨rfl, rfl, type, isBack, ?_,
      rfl⟩ hfresh⟩
    refine ⟨(hflag.trans hms').noted hnoted, fun hback => hms'.flag ?_⟩
    cases hback
    rfl

omit hA in
/-- How a model is made: its fields are found, finished and added to the types. -/
theorem of_run_buildModel {annotate : Annotate} {name : String} {id : TypeId}
    (h : (buildModel mode annotate name f).run s = (.ok id, s')) :
    ∃ required fields fields' s₁, requiredNames f = .ok required ∧
      (compileFields annotate required [] f.properties).run s = (.ok fields, s₁) ∧
      finishFields name s₁.types.length fields = .ok fields' ∧ id = s₁.types.length ∧
      s' = { s₁ with
        types := s₁.types ++ [.model ⟨name, fields', mode.config.frozenPayloads⟩] } := by
  unfold buildModel at h
  obtain ⟨required, s₀, hread, h⟩ := exists_of_run_bind h
  obtain ⟨hrequired, rfl⟩ := of_run_ofExcept hread
  obtain ⟨fields, s₁, hfields, h⟩ := exists_of_run_bind h
  obtain ⟨_, _, hget, h⟩ := exists_of_run_bind h
  cases hget
  obtain ⟨fields', s₂, hcreate, h⟩ := exists_of_run_bind h
  obtain ⟨hfinish, rfl⟩ := of_run_ofExcept hcreate
  obtain ⟨rfl, rfl⟩ := of_run_addType h
  exact ⟨required, fields, fields', s₁, hrequired, hfields, hfinish, rfl, rfl⟩

/-- The making of a model produces the makings inside it, and the model stands. -/
theorem produces_buildModel {name : String} {id : TypeId}
    (h : (buildModel mode (annotateWithin mode depth) name f).run s = (.ok id, s')) (hs : Busy s)
    (hkept : MarksKept s s') :
    ∃ ms, Produces mode s ms s' ∧ (⟨name, f, id, s, s'⟩ : Making).Drafted mode s' ∧
      (∀ m ∈ ms, m.id < id) ∧ s.types.length ≤ id := by
  obtain ⟨required, fields, fields', s₁, hrequired, hfields, hfinish, rfl, rfl⟩ :=
    of_run_buildModel h
  obtain ⟨ms, fields, hms, rfl, hfields⟩ := produces_compileFields hA hfields hs hkept
  have hadd : Produces mode s₁ [] { s₁ with types := s₁.types ++
      [.model ⟨name, fields', mode.config.frozenPayloads⟩] } :=
    .aside rfl rfl (List.prefix_append ..) rfl rfl fun hb => hb
  refine ⟨ms, hms.before hadd, ⟨required, fields, fields', hrequired, ?_, hfinish, ?_⟩,
    fun m hm => (hms.stands m hm).drafted.lt_length, hms.length⟩
  · exact hfields.imp fun _ _ hfield => hfield.imp fun _ _ hr => hadd.flagged hr
  · rw [Types.model?_eq_some]
    exact List.getElem?_concat_length

omit hA in
/-- How a new model comes about. -/
theorem of_run_compileNew {annotate : Annotate} {name : String} {outermost : Bool} {handle : Handle}
    (h : (compileNew mode annotate name f outermost).run s = (.ok handle, s')) :
    ∃ id b, (buildModel mode annotate name f).run ((s.begun outermost).mark f.location name) =
        (.ok id, b) ∧ Entries.has b.pending f.location = true ∧ b.names.contains name = false ∧
      handle = .model id ∧ (endSession outermost).run (b.compiled name id f) = (.ok (), s') := by
  obtain ⟨_, s₀, hbegin, h⟩ := exists_of_run_bind h
  have hbegin : (.ok (), s.begun outermost) = ((.ok (), s₀) : Except Failure Unit × _) := hbegin
  cases hbegin
  obtain ⟨id, s₁, hmake, h⟩ := exists_of_run_bind h
  rw [run_whilePending] at hmake
  rcases hr : (buildModel mode annotate name f).run ((s.begun outermost).mark f.location name)
    with ⟨r, b⟩
  rw [hr] at hmake
  dsimp only at hmake
  split at hmake
  · rename_i hmark
    cases hmake
    obtain ⟨_, s₂, hdeclare, h⟩ := exists_of_run_bind h
    rw [Generating.run_declare] at hdeclare
    split at hdeclare
    · cases hdeclare
    · rename_i hfree
      cases hdeclare
      obtain ⟨_, s₃, hsession, h⟩ := exists_of_run_bind h
      cases hsession
      obtain ⟨_, s₄, hreport, h⟩ := exists_of_run_bind h
      cases hreport
      obtain ⟨_, s₅, hend, h⟩ := exists_of_run_bind h
      obtain ⟨rfl, rfl⟩ := of_run_pure h
      exact ⟨id, b, rfl, hmark, Bool.eq_false_iff.2 hfree, rfl, hend⟩
  · cases hmake

/-- A compilation inside another one produces its own model last. -/
theorem produces_compileNew {name : String} {handle : Handle}
    (h : (compileNew mode (annotateWithin mode depth) name f false).run s = (.ok handle, s'))
    (hkept : MarksKept s s') :
    ∃ ms, Produces mode s ms s' := by
  obtain ⟨id, b, hmake, hmark, hnew, rfl, hend⟩ := of_run_compileNew h
  cases hend
  have hfree : s.marked f.location = none := by
    by_contra hne
    have hmarked := hkept f.location (Option.ne_none_iff_isSome.1 hne)
    exact ((has_unmark b f.location f.location).1 hmarked).1 rfl
  obtain ⟨ms, hms, hdrafted, hid, hlen⟩ :=
    produces_buildModel hA hmake (busy_mark ..) (.mark hmark hkept)
  exact ⟨_, hms.made hfree hnew ⟨depth, hmake⟩ hdrafted hid hlen⟩

theorem produces_compile {name : String} {handle : Handle}
    (h : (compile mode (annotateWithin mode depth) name f).run s = (.ok handle, s'))
    (hs : Busy s) (hkept : MarksKept s s') : ∃ ms, Produces mode s ms s' := by
  unfold compile at h
  split at h
  · obtain ⟨_, _, hget, h⟩ := exists_of_run_bind h
    cases hget
    split at h
    · obtain ⟨-, rfl⟩ := of_run_pure h
      exact ⟨[], .refl s⟩
    · rw [hs.pending_ne_nil] at h
      exact produces_compileNew hA h hkept
  · cases h

/-! ## Unions -/

omit hA in
theorem of_run_branchTarget (mode : Mode) {branch : Fragment}
    (h : (branchTarget branch).run s = (.ok t, s')) : Produces mode s [] s' := by
  have hcheck {target : Fragment} {s : Generation} (h : (if target.isObject then return target
      else throw (.generation (.nonObject target.location target.content)) :
        Generating Fragment).run s = (.ok t, s')) : s = s' := by
    split at h
    · exact (of_run_pure h).2
    · cases h
  unfold branchTarget at h
  by_cases hr : branch.ref.isSome = true
  · simp only [hr, if_true] at h
    obtain ⟨target, s₁, hresolve, h⟩ := exists_of_run_bind h
    cases hcheck h
    exact (of_run_resolve mode hresolve).2
  · simp only [hr] at h
    cases hcheck h
    exact .refl s

omit hA in
theorem of_run_nameBranch {base name : String} {branch : Fragment}
    (h : (nameBranch mode base branch).run s = (.ok name, s')) : Produces mode s [] s' := by
  unfold nameBranch at h
  split at h
  · obtain ⟨_, _, hnames, h⟩ := exists_of_run_bind h
    cases hnames
    obtain ⟨-, rfl⟩ := of_run_ofExcept h
    exact .refl s
  · cases h
    exact .aside rfl rfl List.prefix_rfl rfl rfl id

theorem produces_branchType {base : String} {branch : Fragment} {r : String × Handle}
    (h : (branchType mode (annotateWithin mode depth) base branch t).run s = (.ok r, s'))
    (hs : Busy s) (hkept : MarksKept s s') : ∃ ms, Produces mode s ms s' := by
  obtain ⟨_, _, hget, h⟩ := exists_of_run_bind h
  cases hget
  split at h
  · obtain ⟨-, rfl⟩ := of_run_pure h
    exact ⟨[], .refl s⟩
  · obtain ⟨-, rfl⟩ := of_run_pure h
    exact ⟨[], .refl s⟩
  · cases h
  · obtain ⟨name, s₁, hname, h⟩ := exists_of_run_bind h
    obtain ⟨handle, s₂, hcompile, h⟩ := exists_of_run_bind h
    obtain ⟨-, rfl⟩ := of_run_pure h
    have hquiet : Produces mode s [] s₁ := of_run_nameBranch hname
    obtain ⟨ms, hms⟩ := produces_compile hA hcompile (hs.of_marked hquiet.marked)
      (hkept.from hquiet.marked)
    exact ⟨ms, hquiet.after hms⟩

theorem produces_compileVariant {base : String} {branch : Fragment} {v : Variant}
    (h : (compileVariant mode (annotateWithin mode depth) base branch).run s = (.ok v, s'))
    (hs : Busy s) (hkept : MarksKept s s') : ∃ ms, Produces mode s ms s' := by
  obtain ⟨target, s₁, htarget, h⟩ := exists_of_run_bind h
  obtain ⟨⟨typeName, handle⟩, s₂, htype, h⟩ := exists_of_run_bind h
  obtain ⟨_, s₃, hreport, h⟩ := exists_of_run_bind h
  obtain ⟨_, _, hget, h⟩ := exists_of_run_bind h
  cases hget
  obtain ⟨-, rfl⟩ := of_run_ofExcept h
  have hquiet : Produces mode s [] s₁ := of_run_branchTarget mode htarget
  have hreported : Produces mode s₂ [] s₃ := of_run_report mode hreport
  have hkept₁ : MarksKept s₁ s₂ := (hkept.from hquiet.marked).upto hreported.marked
  obtain ⟨ms, hms⟩ := produces_branchType hA htype (hs.of_marked hquiet.marked) hkept₁
  exact ⟨ms, (hquiet.after hms).before hreported⟩

theorem produces_compileVariants {base : String} {branches : List Fragment} {vs : List Variant}
    (h : (compileVariants mode (annotateWithin mode depth) base branches).run s = (.ok vs, s'))
    (hs : Busy s) (hkept : MarksKept s s') : ∃ ms, Produces mode s ms s' := by
  induction branches generalizing s vs with
  | nil =>
    cases h
    exact ⟨[], .refl _⟩
  | cons b bs ih =>
    obtain ⟨v, s₁, hfirst, h⟩ := exists_of_run_bind h
    obtain ⟨vs', s₂, hrest, h⟩ := exists_of_run_bind h
    obtain ⟨-, rfl⟩ := of_run_pure h
    have hkept₁ : MarksKept s s₁ := hkept.before hrest
      (charted_compileVariants (charted_anyName depth) (fun _ _ _ => trivial) base bs)
    obtain ⟨ms, hms⟩ := produces_compileVariant hA hfirst hs hkept₁
    have hkept₂ : MarksKept s₁ s₂ := hkept.from hms.marked
    obtain ⟨ms', hms'⟩ := ih hrest (hs.of_marked hms.marked) hkept₂
    exact ⟨ms ++ ms', hms.trans hms'⟩

theorem produces_draftUnion {base : String} {r : String × TypeId}
    (h : (draftUnion mode (annotateWithin mode depth) base f).run s = (.ok r, s'))
    (hs : Busy s) (hkept : MarksKept s s') : ∃ ms, Produces mode s ms s' := by
  unfold draftUnion at h
  obtain ⟨_, _, hnames, h⟩ := exists_of_run_bind h
  cases hnames
  obtain ⟨_, s₁, hreserve, h⟩ := exists_of_run_bind h
  have hreserved : Produces mode s [] s₁ := of_run_reserve mode hreserve
  obtain ⟨_, s₂, hreport, h⟩ := exists_of_run_bind h
  have hreported : Produces mode s₁ [] s₂ := of_run_report mode hreport
  obtain ⟨variants, s₃, hvariants, h⟩ := exists_of_run_bind h
  obtain ⟨union, s₄, hunion, h⟩ := exists_of_run_bind h
  obtain ⟨-, rfl⟩ := of_run_ofExcept hunion
  obtain ⟨id, s₅, hadd, h⟩ := exists_of_run_bind h
  obtain ⟨-, rfl⟩ := of_run_pure h
  obtain ⟨-, rfl⟩ := of_run_addType hadd
  have hquiet : Produces mode s [] s₂ := hreserved.after hreported
  obtain ⟨ms, hms⟩ := produces_compileVariants hA hvariants (hs.of_marked hquiet.marked)
    (hkept.from hquiet.marked)
  exact ⟨ms, (hquiet.after hms).before
    (.aside rfl rfl (List.prefix_append ..) rfl rfl fun hb => hb)⟩

theorem produces_unionOf {base : String} {id : TypeId}
    (h : (unionOf mode (annotateWithin mode depth) base f).run s = (.ok id, s'))
    (hs : Busy s) (hkept : MarksKept s s') : ∃ ms, Produces mode s ms s' := by
  obtain ⟨target, s₁, hresolve, h⟩ := exists_of_run_bind h
  obtain ⟨-, hquiet⟩ := of_run_resolve mode hresolve
  have hs₁ : Busy s₁ := hs.of_marked hquiet.marked
  have hkept₁ : MarksKept s₁ s' := hkept.from hquiet.marked
  obtain ⟨_, _, hget, h⟩ := exists_of_run_bind h
  cases hget
  split at h
  · obtain ⟨-, rfl⟩ := of_run_pure h
    exact ⟨[], hquiet⟩
  · split at h
    · cases h
    · split at h
      · cases h
      · rw [run_buildUnion] at h
        split at h
        · rename_i name id' s₂ hdraft
          split at h
          · rename_i hreserved
            cases h
            obtain ⟨ms, hms⟩ := produces_draftUnion hA hdraft hs₁ hkept₁
            have henter : Produces mode s₁ [] (s₁.enter target.location) :=
              .aside rfl rfl List.prefix_rfl rfl rfl fun hb => hb
            have hput : Extends s₂ (s₂.put name (.union id) (some target)) := .put (.inr hreserved)
            refine ⟨ms, hquiet.after (henter.after (hms.before ?_))⟩
            exact .quiet ⟨hput.view, hput.types, hput.names, hput.compiled, hput.flag⟩ rfl rfl
          · cases h
        · cases h

/-! ## The types of properties -/

/-- A type that is found for one of the JSON types of a fragment stands for arrays when it is that of
arrays, with references back noted in the items, and takes no arrays when it is another one. -/
structure NotedAs (marked : String → Option String) (s : Generation) (t : Fragment)
    (jsonType : String) (r : FieldType × Bool) : Prop where
  /-- The type of arrays. -/
  array : jsonType = "array" → ∃ item, r.1.ListOf item ∧ ∀ ms, t.get? "items" = some (.obj ms) →
    Noted marked s (t.part "items" (.obj ms)) (item, r.2)
  /-- The other types. -/
  other : jsonType ∈ jsonTypes → jsonType ≠ "array" → r.1.takesArrays = false

omit hA in
theorem NotedAs.mono {marked : String → Option String} {jsonType : String} {r : FieldType × Bool}
    (hr : NotedAs marked s t jsonType r) (h : Extends s s') : NotedAs marked s' t jsonType r := by
  refine ⟨fun he => ?_, hr.other⟩
  obtain ⟨item, hlist, hitem⟩ := hr.array he
  exact ⟨item, hlist, fun ms hms => h.noted (hitem ms hms)⟩

omit hA in
theorem takesArrays_fieldType (h : Handle) : h.fieldType.takesArrays = false := by
  cases h <;> rfl

theorem produces_itemType {property : String} {r : FieldType × Bool}
    (h : (itemType (annotateWithin mode depth) property t).run s = (.ok r, s')) (hs : Busy s)
    (hkept : MarksKept s s') : ∃ ms, Produces mode s ms s' ∧
      ∀ members, t.get? "items" = some (.obj members) →
        Noted s.marked s' (t.part "items" (.obj members)) r := by
  unfold itemType at h
  split at h
  · rename_i members hitems
    obtain ⟨ms, hms, hnoted⟩ := hA h hs hkept
    refine ⟨ms, hms, fun members' he => ?_⟩
    cases hitems.symm.trans he
    exact hnoted
  · rename_i hitems
    obtain ⟨-, rfl⟩ := of_run_pure h
    exact ⟨[], .refl s, fun members he => absurd he (hitems members)⟩

theorem produces_objectType {property : String} {reference : Option String} {r : FieldType × Bool}
    (h : (objectType mode (annotateWithin mode depth) property reference t).run s = (.ok r, s'))
    (hs : Busy s) (hkept : MarksKept s s') :
    ∃ ms, Produces mode s ms s' ∧ r.1.takesArrays = false := by
  unfold objectType at h
  split at h
  · obtain ⟨rfl, rfl⟩ := of_run_pure h
    exact ⟨[], .refl s, rfl⟩
  · obtain ⟨raw, s₁, hname, h⟩ := exists_of_run_bind h
    obtain ⟨-, rfl⟩ := of_run_ofExcept hname
    obtain ⟨_, _, hnames, h⟩ := exists_of_run_bind h
    cases hnames
    obtain ⟨handle, s₂, hcompile, h⟩ := exists_of_run_bind h
    obtain ⟨rfl, rfl⟩ := of_run_pure h
    obtain ⟨ms, hms⟩ := produces_compile hA hcompile hs hkept
    exact ⟨ms, hms, takesArrays_fieldType handle⟩

theorem produces_typeFor {property jsonType : String} {reference : Option String}
    {r : FieldType × Bool}
    (h : (typeFor mode (annotateWithin mode depth) property reference t jsonType).run s =
      (.ok r, s')) (hs : Busy s) (hkept : MarksKept s s') :
    ∃ ms, Produces mode s ms s' ∧ NotedAs s.marked s' t jsonType r := by
  unfold typeFor at h
  split at h
  case h_1 =>
    obtain ⟨ms, hms, hscalar⟩ := produces_objectType hA h hs hkept
    exact ⟨ms, hms, nofun, fun _ _ => hscalar⟩
  case h_2 =>
    obtain ⟨⟨item, isBack⟩, s₁, hitem, h⟩ := exists_of_run_bind h
    obtain ⟨rfl, rfl⟩ := of_run_pure h
    obtain ⟨ms, hms, hnoted⟩ := produces_itemType hA hitem hs hkept
    refine ⟨ms, hms, fun _ => ⟨item, ?_, hnoted⟩, fun _ hne => absurd rfl hne⟩
    by_cases hfrozen : mode.config.frozenPayloads = true
    · simp only [hfrozen, if_true]
      exact .tuple
    · simp only [hfrozen]
      exact .list
  case h_8 hobject harray hstring hinteger hnumber hboolean hnull =>
    obtain ⟨rfl, rfl⟩ := of_run_pure h
    refine ⟨[], .refl s, fun he => absurd he harray, fun hmem _ => ?_⟩
    simp only [jsonTypes, List.mem_cons, List.not_mem_nil, or_false] at hmem
    rcases hmem with he | he | he | he | he | he | he <;> contradiction
  all_goals
    obtain ⟨rfl, rfl⟩ := of_run_pure h
    exact ⟨[], .refl s, nofun, fun _ _ => rfl⟩

theorem produces_typesFor {property : String} {reference : Option String}
    {jsonTypes : List String} {r : List FieldType × Bool}
    (h : (typesFor mode (annotateWithin mode depth) property reference t jsonTypes).run s =
      (.ok r, s')) (hs : Busy s) (hkept : MarksKept s s') :
    ∃ ms rs, Produces mode s ms s' ∧ List.Forall₂ (NotedAs s.marked s' t) jsonTypes rs ∧
      r = (rs.map Prod.fst, rs.any Prod.snd) := by
  induction jsonTypes generalizing s r with
  | nil =>
    cases h
    exact ⟨[], [], .refl _, .nil, rfl⟩
  | cons j js ih =>
    obtain ⟨⟨o, isBack⟩, s₁, hfirst, h⟩ := exists_of_run_bind h
    obtain ⟨⟨os, anyBack⟩, s₂, hrest, h⟩ := exists_of_run_bind h
    obtain ⟨rfl, rfl⟩ := of_run_pure h
    have hkept₁ : MarksKept s s₁ := hkept.before hrest (charted_typesFor (charted_anyName depth)
      (fun _ _ _ => trivial) property reference t js)
    obtain ⟨ms, hms, hnoted⟩ := produces_typeFor hA hfirst hs hkept₁
    obtain ⟨ms', rs, hms', hrs, he⟩ := ih hrest (hs.of_marked hms.marked) (hkept.from hms.marked)
    rw [hms.marked] at hrs
    refine ⟨ms ++ ms', (o, isBack) :: rs, hms.trans hms', .cons (hnoted.mono hms'.toExtends) hrs, ?_⟩
    cases he
    rfl

/-- References back are noted in the layer of an array. -/
def NotedItems (marked : String → Option String) (s : Generation) (t : Fragment)
    (r : FieldType × Bool) : Prop :=
  ∀ k ms u, t.IsArray → t.get? "items" = some (.obj ms) →
    LeadsBack s.store.view marked s.names k (t.part "items" (.obj ms)) u →
    r.2 = true ∧ ∃ n, marked u.location = some n ∧ (FieldType.named n).Layered (k + 1) r.1

omit hA in
/-- The types for the JSON types of an array together. -/
theorem notedItems_ofOptions {marked : String → Option String} {rs : List (FieldType × Bool)}
    (hrs : List.Forall₂ (NotedAs marked s t) t.types rs) :
    NotedItems marked s t (.ofOptions (rs.map Prod.fst), rs.any Prod.snd) := by
  intro k ms u harray hitems hback
  obtain ⟨r, hr, hnoted⟩ := exists_right_of_forall₂ hrs harray.array
  obtain ⟨item, hlist, hitem⟩ := hnoted.array rfl
  obtain ⟨hflag, n, hn, -⟩ := hitem ms hitems k u hback
  refine ⟨List.any_eq_true.2 ⟨r, hr, hflag⟩, n, hn, ?_⟩
  refine FieldType.layered_ofOptions ⟨_, List.mem_map_of_mem hr, hlist.takesArrays⟩
    fun o ho harr => ?_
  obtain ⟨r', hr', rfl⟩ := List.mem_map.1 ho
  obtain ⟨j, hj, hnoted'⟩ := exists_left_of_forall₂ hrs hr'
  by_cases hja : j = "array"
  · obtain ⟨item', hlist', hitem'⟩ := hnoted'.array hja
    obtain ⟨-, n', hn', hlayered⟩ := hitem' ms hitems k u hback
    cases hn.symm.trans hn'
    exact ⟨item', hlist', hlayered⟩
  · rw [hnoted'.other (harray.types j hj) hja] at harr
    cases harr

theorem produces_newType {property : String} {reference : Option String} {r : FieldType × Bool}
    (h : (newType mode (annotateWithin mode depth) property reference t).run s = (.ok r, s'))
    (hs : Busy s) (hkept : MarksKept s s') :
    ∃ ms, Produces mode s ms s' ∧ NotedItems s.marked s' t r := by
  unfold newType at h
  split at h
  · rename_i hchoice
    have hvacuous : NotedItems s.marked s' t r := by
      intro k ms u harray
      rw [harray.noBranches] at hchoice
      cases hchoice
    split at h
    · obtain ⟨id, s₁, hunion, h⟩ := exists_of_run_bind h
      obtain ⟨-, rfl⟩ := of_run_pure h
      obtain ⟨ms, hms⟩ := produces_unionOf hA hunion hs hkept
      exact ⟨ms, hms, hvacuous⟩
    · obtain ⟨-, rfl⟩ := of_run_pure h
      exact ⟨[], .refl s, hvacuous⟩
  · split at h
    · rename_i values hvalues
      obtain ⟨-, rfl⟩ := of_run_pure h
      refine ⟨[], .refl s, fun k ms u harray => ?_⟩
      rw [harray.noLiterals] at hvalues
      cases hvalues
    · unfold typeByJsonTypes at h
      split at h
      · rename_i huntyped
        obtain ⟨-, rfl⟩ := of_run_pure h
        refine ⟨[], .refl s, fun k ms u harray => ?_⟩
        have hempty : t.types = [] := List.isEmpty_iff.1 (Bool.and_eq_true_iff.1 huntyped).1
        have harray := harray.array
        rw [hempty] at harray
        cases harray
      · obtain ⟨⟨os, isBack⟩, s₁, htypes, h⟩ := exists_of_run_bind h
        obtain ⟨rfl, rfl⟩ := of_run_pure h
        obtain ⟨ms, rs, hms, hrs, he⟩ := produces_typesFor hA htypes hs hkept
        cases he
        refine ⟨ms, hms, fun k ms u harray => ?_⟩
        have hdeclared : t.types.isEmpty = false := by
          rw [List.isEmpty_eq_false_iff]
          exact List.ne_nil_of_mem harray.array
        rw [hdeclared] at hrs
        exact notedItems_ofOptions hrs k ms u harray

/-- What is found for a property notes references back. -/
theorem notes_annotateOnce : Notes mode (annotateOnce mode (annotateWithin mode depth)) := by
  intro property f s s' r h hs hkept
  obtain ⟨chain, s₁, hresolve, h⟩ := exists_of_run_bind h
  obtain ⟨hchain, hquiet⟩ := of_run_onStore mode (transparent_resolveChain f) hresolve
  have hlead : LeadsTo s.store.view f chain.target :=
    leadsTo_iff.2 (resolve_run_eq_ok_iff.2 ⟨chain, hchain, rfl⟩)
  obtain ⟨_, _, hget, h⟩ := exists_of_run_bind h
  cases hget
  have hmarked : Entries.get? s₁.pending chain.target.location =
      s.marked chain.target.location := congrFun hquiet.marked _
  rw [hmarked] at h
  cases hp : s.marked chain.target.location with
  | some name =>
    rw [hp] at h
    obtain ⟨rfl, rfl⟩ := of_run_pure h
    refine ⟨[], hquiet, fun k t hback => ⟨rfl, name, ?_⟩⟩
    rw [hquiet.view] at hback
    cases hback with
    | reference hlead' hmark =>
      cases hlead.unique hlead'
      exact ⟨hp, rfl⟩
    | items hlead' hfree =>
      cases hlead.unique hlead'
      cases hp.symm.trans hfree
  | none =>
    rw [hp] at h
    dsimp only at h
    split at h
    · rename_i handle hremembered
      obtain ⟨rfl, rfl⟩ := of_run_pure h
      refine ⟨[], hquiet, fun k t hback => ?_⟩
      rw [hquiet.view] at hback
      cases hback with
      | reference hlead' hmark =>
        cases hlead.unique hlead'
        rw [hp] at hmark
        cases hmark
      | items hlead' _ hfree =>
        cases hlead.unique hlead'
        unfold Namespace.typeOf? at hremembered
        rw [hfree] at hremembered
        cases hremembered
    · obtain ⟨ms, hms, hitems⟩ := produces_newType hA h (hs.of_marked hquiet.marked)
        (hkept.from hquiet.marked)
      refine ⟨ms, hquiet.after hms, fun k t hback => ?_⟩
      have hview : s'.store.view = s.store.view := hms.view.trans hquiet.view
      rw [hquiet.marked] at hitems
      cases hback with
      | reference hlead' hmark =>
        rw [hview] at hlead'
        cases hlead.unique hlead'
        rw [hp] at hmark
        cases hmark
      | items hlead' _ _ harray hget hback =>
        rw [hview] at hlead'
        cases hlead.unique hlead'
        exact hitems _ _ _ harray hget hback

end Depth

/-- References back are noted, however deep fragments may be nested. -/
theorem notes_annotateWithin (mode : Mode) (depth : Nat) : Notes mode (annotateWithin mode depth) := by
  induction depth with
  | zero =>
    intro property f s s' r h
    cases h
  | succ depth ih => exact notes_annotateOnce ih

end ShapeSum
