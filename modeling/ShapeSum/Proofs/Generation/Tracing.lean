import ShapeSum.Proofs.Generation.Assembling
import ShapeSum.Proofs.Generation.Growing
import ShapeSum.Proofs.Generation.Obeying

/-!
# Generations traced to their end

A part of a generation that succeeds is *traced* to the state `e` in which the whole of it
ends: its last state grows out of its first one, and if it grows into `e` in turn, then it
is on the way there like the first one, so what the part has put down is linked
(`Traced`).

This is shown function by function, with the runs inverted, and given that the types of
properties are traced within a depth, those within one depth more are (`Traces`).  A whole
generation on a fresh state ends where everything is linked (`onWay_of_generate`).
Nothing is said of parts that fail: the generation fails with them.
-/

namespace ShapeSum

variable {α : Type} {mode : Mode} {root f t : Fragment} {e s s' s'' : Generation} {P Q : Prop}
  {property : String} {reference : Option String}

/-! ## Traced parts -/

/-- A part of a generation that ends in `e` is traced: what is on the way to `e` stays so, and
something is achieved. -/
def Traced (root : Fragment) (e s s' : Generation) (P : Prop) : Prop :=
  Grows s s' ∧ (Grows s' e → OnWay root e s → OnWay root e s' ∧ P)

namespace Traced

theorem pure (h : OnWay root e s → P) : Traced root e s s P :=
  ⟨.refl s, fun _ hs => ⟨hs, h hs⟩⟩

theorem trans (h : Traced root e s s' P) (h' : Traced root e s' s'' Q) :
    Traced root e s s'' (P ∧ Q) := by
  refine ⟨h.1.trans h'.1, fun he hs => ?_⟩
  obtain ⟨hs', hp⟩ := h.2 (h'.1.trans he) hs
  obtain ⟨hs'', hq⟩ := h'.2 he hs'
  exact ⟨hs'', hp, hq⟩

theorem imp (h : Traced root e s s' P) (hpq : OnWay root e s' → P → Q) :
    Traced root e s s' Q := by
  refine ⟨h.1, fun he hs => ?_⟩
  obtain ⟨hs', hp⟩ := h.2 he hs
  exact ⟨hs', hpq hs' hp⟩

/-- A step that adds nothing to link. -/
theorem aside (h : Grows s s') (hcompiled : s'.names.compiled = s.names.compiled)
    (hunions : s'.unions = s.unions) (htypes : s'.types = s.types) : Traced root e s s' True :=
  ⟨h, fun he hs => ⟨hs.aside h he hcompiled hunions htypes, trivial⟩⟩

/-- A step that touches neither names, types, marks nor reports. -/
theorem quiet (hview : s'.store.view = s.store.view) (hnames : s'.names = s.names)
    (hunions : s'.unions = s.unions) (htypes : s'.types = s.types)
    (hpending : s'.pending = s.pending) (hlog : s'.log = s.log) : Traced root e s s' True :=
  .aside (.aside hview (htypes ▸ Types.grow_refl _) hnames hpending hlog)
    (congrArg Namespace.compiled hnames) hunions htypes

/-- The references from a fragment end where they do by the documents that there are in the end. -/
theorem leads (h : OnWay root e s) (hlead : LeadsTo s.store.view f t) :
    LeadsTo e.store.view f t := by
  rwa [h.grows.view]

end Traced

/-- The types that are found for properties are linked to the properties' fragments. -/
def Traces (root : Fragment) (e : Generation) (annotate : Annotate) : Prop :=
  ∀ {property : String} {f : Fragment} {s s' : Generation} {r : FieldType × Bool},
    (annotate property f).run s = (.ok r, s') → Reaches s.store.view root f →
    Traced root e s s' (Linked e f r.1)

/-! ## Elementary computations -/

theorem traced_onStore {x : Resolving α} {a : α} (hx : Transparent x)
    (h : (Generating.onStore x).run s = (.ok a, s')) :
    (x.run s.store).1 = .ok a ∧ Traced root e s s' True := by
  rw [Generating.run_onStore] at h
  obtain ⟨hr, rfl⟩ := Prod.mk.inj h
  exact ⟨hr, .quiet (hx.keeps s.store) rfl rfl rfl rfl rfl⟩

theorem traced_resolve (h : (Generating.onStore (resolve f)).run s = (.ok t, s')) :
    LeadsTo s.store.view f t ∧ Traced root e s s' True := by
  obtain ⟨hr, htraced⟩ := traced_onStore (transparent_resolve f) h
  exact ⟨leadsTo_iff.2 hr, htraced⟩

theorem traced_report {event : Event} (h : (Generating.report event).run s = (.ok (), s'))
    (hevent : ∀ n l, event ≠ .compiled n l) : Traced root e s s' True := by
  cases h
  exact .aside (.report hevent) rfl rfl rfl

theorem traced_reserve {name : String} (h : (Generating.reserve name).run s = (.ok (), s')) :
    Traced root e s s' True := by
  rw [Generating.run_reserve, Generating.run_declare] at h
  split at h
  · cases h
  · rename_i hfree
    cases h
    exact .aside (.put (.inl (Bool.eq_false_iff.2 hfree)) (by simp) none) rfl rfl rfl

theorem traced_settleAll {ids : List TypeId} (h : (settleAll ids).run s = (.ok (), s')) :
    Traced root e s s' True := by
  induction ids generalizing s with
  | nil =>
    cases h
    exact .pure fun _ => trivial
  | cons id ids ih =>
    unfold settleAll at h
    obtain ⟨_, _, hget, h⟩ := exists_of_run_bind h
    cases hget
    split at h
    · exact ih h
    · rename_i m hm
      split at h
      · cases h
      · rename_i m' hsettle
        obtain ⟨_, s₁, hset, h⟩ := exists_of_run_bind h
        cases hset
        have hstep : Traced root e s { s with types := s.types.set id (.model m') } True :=
          ⟨.aside rfl (Types.grow_settle hm hsettle) rfl rfl rfl,
            fun he hs => ⟨hs.settle he hm hsettle, trivial⟩⟩
        exact (hstep.trans (ih h)).imp fun _ _ => trivial

theorem traced_endSession {outermost : Bool}
    (h : (endSession outermost).run s = (.ok (), s')) : Traced root e s s' True := by
  unfold endSession at h
  obtain ⟨_, _, hget, h⟩ := exists_of_run_bind h
  cases hget
  split at h
  · exact traced_settleAll h
  · obtain ⟨-, rfl⟩ := of_run_pure h
    exact .pure fun _ => trivial

/-! ## Compilations -/

section Depth

variable {annotate : Annotate} (hA : Traces root e annotate)

include hA

theorem traced_compileFields {required : List String} {done fields : List Field}
    {properties : List (String × Fragment)}
    (h : (compileFields annotate required done properties).run s = (.ok fields, s'))
    (hp : ∀ p ∈ properties, Reaches s.store.view root p.2) :
    Traced root e s s' (∃ fresh, fields = done ++ fresh ∧
      List.Forall₂ (fun p field => field.IsLinked e p) properties fresh) := by
  induction properties generalizing done s with
  | nil =>
    cases h
    exact .pure fun _ => ⟨[], (List.append_nil _).symm, .nil⟩
  | cons p rest ih =>
    obtain ⟨property, f⟩ := p
    obtain ⟨hf, hrest⟩ := List.forall_mem_cons.1 hp
    obtain ⟨⟨type, isBack⟩, s₁, hfirst, h⟩ := exists_of_run_bind h
    let field : Field :=
      { name := attributeName property (done.map Field.name)
        property
        required := required.contains property || marksRequired f
        type := if required.contains property || marksRequired f then type else type.optional
        description := (f.get? "description").bind Json.text? }
    let s₂ : Generation := if isBack then { s₁ with backReference := true } else s₁
    have hrun : (compileFields annotate required (done ++ [field]) rest).run s₂ =
        (.ok fields, s') := by
      cases isBack <;> exact h
    have hflag : Traced root e s₁ s₂ True := by
      cases isBack with
      | false => exact .pure fun _ => trivial
      | true => exact .quiet rfl rfl rfl rfl rfl rfl
    have hbefore := (hA hfirst hf).trans hflag
    have hafter := ih hrun fun p hp => hbefore.1.view ▸ hrest p hp
    refine (hbefore.trans hafter).imp fun _ hlinked => ?_
    obtain ⟨⟨htype, -⟩, fresh, rfl, hfresh⟩ := hlinked
    refine ⟨field :: fresh, by simp, .cons ⟨rfl, ?_⟩ hfresh⟩
    show Linked e f (if required.contains property || marksRequired f then type else type.optional)
    split
    · exact htype
    · exact htype.optional

omit hA in
/-- A model's own name is given the type of its location from the model's creation on. -/
theorem faithful_ownType {name : String} {id : TypeId} {m : Model} (hs : Grows s e)
    (hm : s.types.model? id = some m) (hname : m.name = name) :
    e.Faithful (ownType? name id) := by
  intro n type l hn hl
  unfold ownType? at hn
  split at hn
  · exact .inl (Option.some.inj hn).symm
  · split at hn
    · cases hn
    · split at hn
      · rename_i hown
        cases hn
        have he : n = name := by simp_all
        exact .inr ⟨id, rfl, isModelAt_of_grows hs hm (hname.trans he.symm ▸ hl)⟩
      · cases hn

/-- A model is made of linked fields, while its fragment is being compiled under its name. -/
theorem traced_buildModel {name : String} {id : TypeId}
    (h : (buildModel mode annotate name f).run s = (.ok id, s')) (hf : Reaches s.store.view root f)
    (hmark : s.marked f.location = some name) :
    (∃ m, s'.types.model? id = some m ∧ m.name = name) ∧ Traced root e s s' True := by
  obtain ⟨required, fields, fields', s₁, -, hfields, hfinish, rfl, rfl⟩ := of_run_buildModel h
  let m : Model := ⟨name, fields', mode.config.frozenPayloads⟩
  have hm : ({ s₁ with types := s₁.types ++ [.model m] } : Generation).types.model?
      s₁.types.length = some m := Types.model?_eq_some.2 List.getElem?_concat_length
  have hbefore := traced_compileFields hA hfields fun p hp => hf.part (.property hp)
  have hadd : Grows s₁ { s₁ with types := s₁.types ++ [.model m] } :=
    .aside rfl (Types.grow_append _ _) rfl rfl rfl
  refine ⟨⟨m, hm, rfl⟩, hbefore.1.trans hadd, fun he hs => ?_⟩
  obtain ⟨hs₁, fresh, rfl, hfresh⟩ := hbefore.2 (hadd.trans he) hs
  refine ⟨hs₁.addModel he ⟨f, hs.grows.view ▸ hf, hs.honours hmark, ?_⟩, trivial⟩
  show List.Forall₂ _ f.properties fields'
  rw [eq_of_finishFields hfinish]
  exact isLinked_resolve (faithful_ownType he hm rfl) hfresh

/-- A new model is made at the location of its fragment. -/
theorem traced_compileNew {name : String} {outermost : Bool} {handle : Handle}
    (h : (compileNew mode annotate name f outermost).run s = (.ok handle, s'))
    (hf : Reaches s.store.view root f) : Traced root e s s' (e.IsAt f.location handle) := by
  obtain ⟨id, b, hmake, -, hfree, rfl, hend⟩ := of_run_compileNew h
  have hbegin : Traced root e s (s.begun outermost) True := by
    cases outermost <;> exact .quiet rfl rfl rfl rfl rfl rfl
  let a : Generation := s.begun outermost
  let c : Generation := b.compiled name id f
  have hfa : Reaches (a.mark f.location name).store.view root f := hbegin.1.view ▸ hf
  obtain ⟨⟨m, hm, hname⟩, hmade⟩ :=
    traced_buildModel hA hmake hfa ((marked_mark ..).trans (if_pos rfl))
  have hbc : Grows b c := .compiled hfree hm hname
  -- The mark is gone at the end, so nothing is marked but what was before.
  have hac : Grows a c := (hmade.1.trans hbc).unmark
  have hmiddle : Traced root e a c (e.IsAt f.location (.model id)) := by
    refine ⟨hac, fun he hs => ?_⟩
    have hreported : e.HasCompiled name f.location :=
      he.log (List.mem_append_right _ (List.mem_singleton_self _))
    have hat : e.IsAt f.location (.model id) :=
      isModelAt_of_grows (hbc.trans he) hm (hname.symm ▸ hreported)
    have hmarked : OnWay root e (a.mark f.location name) :=
      { hs with
        grows := hmade.1.trans (hbc.trans he)
        honours := fun {l n} hl => by
          rw [marked_mark] at hl
          split at hl
          · rename_i heq
            cases hl
            exact heq ▸ hreported
          · exact hs.honours hl }
    obtain ⟨hb, -⟩ := hmade.2 (hbc.trans he) hmarked
    exact ⟨hb.put hbc he hat rfl .inl rfl, hat⟩
  exact ((hbegin.trans hmiddle).trans (traced_endSession hend)).imp fun _ h => h.1.2

theorem traced_compile {name : String} {handle : Handle}
    (h : (compile mode annotate name f).run s = (.ok handle, s'))
    (hf : Reaches s.store.view root f) : Traced root e s s' (e.IsAt f.location handle) := by
  unfold compile at h
  split at h
  · obtain ⟨_, _, hget, h⟩ := exists_of_run_bind h
    cases hget
    split at h
    · rename_i handle' hremembered
      obtain ⟨rfl, rfl⟩ := of_run_pure h
      exact .pure fun hs => hs.isAt hremembered
    · exact traced_compileNew hA h hf
  · cases h

/-! ## Unions -/

omit hA in
theorem traced_branchTarget {branch : Fragment}
    (h : (branchTarget branch).run s = (.ok t, s')) :
    LeadsTo s.store.view branch t ∧ Traced root e s s' True := by
  have hcheck {target : Fragment} {s : Generation} (h : (if target.isObject then return target
      else throw (.generation (.nonObject target.location target.content)) :
        Generating Fragment).run s = (.ok t, s')) : t = target ∧ s = s' := by
    split at h
    · exact of_run_pure h
    · cases h
  unfold branchTarget at h
  by_cases hr : branch.ref.isSome = true
  · simp only [hr, if_true] at h
    obtain ⟨target, s₁, hresolve, h⟩ := exists_of_run_bind h
    obtain ⟨rfl, rfl⟩ := hcheck h
    exact traced_resolve hresolve
  · simp only [hr] at h
    obtain ⟨rfl, rfl⟩ := hcheck h
    exact ⟨leadsTo_self (Option.not_isSome_iff_eq_none.1 hr) _, .pure fun _ => trivial⟩

omit hA in
theorem traced_nameBranch {base name : String} {branch : Fragment}
    (h : (nameBranch mode base branch).run s = (.ok name, s')) : Traced root e s s' True := by
  unfold nameBranch at h
  split at h
  · obtain ⟨_, _, hnames, h⟩ := exists_of_run_bind h
    cases hnames
    obtain ⟨-, rfl⟩ := of_run_ofExcept h
    exact .pure fun _ => trivial
  · cases h
    exact .quiet rfl rfl rfl rfl rfl rfl

theorem traced_branchType {base : String} {branch : Fragment} {r : String × Handle}
    (h : (branchType mode annotate base branch t).run s = (.ok r, s'))
    (ht : Reaches s.store.view root t) : Traced root e s s' (e.IsAt t.location r.2) := by
  obtain ⟨_, _, hget, h⟩ := exists_of_run_bind h
  cases hget
  split at h
  · rename_i hremembered
    obtain ⟨rfl, rfl⟩ := of_run_pure h
    exact .pure fun hs => hs.isAt hremembered
  · rename_i hremembered
    obtain ⟨rfl, rfl⟩ := of_run_pure h
    exact .pure fun hs => hs.isAt hremembered
  · cases h
  · obtain ⟨name, s₁, hname, h⟩ := exists_of_run_bind h
    obtain ⟨handle, s₂, hcompile, h⟩ := exists_of_run_bind h
    obtain ⟨rfl, rfl⟩ := of_run_pure h
    have hnamed : Traced root e s s₁ True := traced_nameBranch hname
    exact (hnamed.trans (traced_compile hA hcompile (hnamed.1.view ▸ ht))).imp fun _ h => h.2

/-- The variant for a branch is linked to it. -/
theorem traced_compileVariant {base : String} {branch : Fragment} {v : Variant}
    (h : (compileVariant mode annotate base branch).run s = (.ok v, s'))
    (hb : Reaches s.store.view root branch) : Traced root e s s' (v.IsLinked e branch) := by
  obtain ⟨target, s₁, htarget, h⟩ := exists_of_run_bind h
  obtain ⟨⟨typeName, handle⟩, s₂, htype, h⟩ := exists_of_run_bind h
  obtain ⟨_, s₃, hreport, h⟩ := exists_of_run_bind h
  obtain ⟨_, _, hget, h⟩ := exists_of_run_bind h
  cases hget
  obtain ⟨hvariant, rfl⟩ := of_run_ofExcept h
  obtain ⟨hlead, hfirst⟩ : _ ∧ Traced root e s s₁ True := traced_branchTarget htarget
  have htyped := traced_branchType hA htype (hfirst.1.view ▸ hb.leads hlead)
  have hreported : Traced root e s₂ s₃ True := traced_report hreport (by simp)
  refine ((hfirst.trans htyped).trans hreported).imp ?_
  rintro hs ⟨⟨-, hat⟩, -⟩
  rw [Regime.handle_of_variant hvariant] at hat
  have hview : s₃.store.view = s.store.view :=
    hreported.1.view.trans (htyped.1.view.trans hfirst.1.view)
  exact .model (Traced.leads hs (hview ▸ hlead)) hat

theorem traced_compileVariants {base : String} {branches : List Fragment} {vs : List Variant}
    (h : (compileVariants mode annotate base branches).run s = (.ok vs, s'))
    (hb : ∀ b ∈ branches, Reaches s.store.view root b) :
    Traced root e s s' (List.Forall₂ (fun b v => v.IsLinked e b) branches vs) := by
  induction branches generalizing s vs with
  | nil =>
    cases h
    exact .pure fun _ => .nil
  | cons b bs ih =>
    obtain ⟨hb, hbs⟩ := List.forall_mem_cons.1 hb
    obtain ⟨v, s₁, hfirst, h⟩ := exists_of_run_bind h
    obtain ⟨vs', s₂, hrest, h⟩ := exists_of_run_bind h
    obtain ⟨rfl, rfl⟩ := of_run_pure h
    have hbefore := traced_compileVariant hA hfirst hb
    have hafter := ih hrest fun b hb => hbefore.1.view ▸ hbs b hb
    exact (hbefore.trans hafter).imp fun _ h => .cons h.1 h.2

/-- The union of a fragment is put together from linked variants. -/
theorem traced_draftUnion {base : String} {r : String × TypeId}
    (h : (draftUnion mode annotate base f).run s = (.ok r, s'))
    (hf : Reaches s.store.view root f) :
    Traced root e s s' (e.IsUnionAt r.2 f.location) := by
  unfold draftUnion at h
  obtain ⟨_, _, hnames, h⟩ := exists_of_run_bind h
  cases hnames
  obtain ⟨_, s₁, hreserve, h⟩ := exists_of_run_bind h
  obtain ⟨_, s₂, hreport, h⟩ := exists_of_run_bind h
  obtain ⟨variants, s₃, hvariants, h⟩ := exists_of_run_bind h
  obtain ⟨u, s₄, hunion, h⟩ := exists_of_run_bind h
  obtain ⟨hassembled, rfl⟩ := of_run_ofExcept hunion
  obtain ⟨id, s₅, hadd, h⟩ := exists_of_run_bind h
  obtain ⟨rfl, rfl⟩ := of_run_pure h
  obtain ⟨rfl, rfl⟩ := of_run_addType hadd
  obtain ⟨⟨hdistinguished, -⟩, hu⟩ := assembleUnion_eq_ok_iff.1 hassembled
  have hsource : u.source = some f.location := by rw [hu]
  have hmembers : u.variants = variants := by rw [hu]
  have hreserved : Traced root e s s₁ True := traced_reserve hreserve
  have hreported : Traced root e s₁ s₂ True := traced_report hreport (by simp)
  have hquiet := hreserved.trans hreported
  have hcompiled := traced_compileVariants hA hvariants fun b hb =>
    hquiet.1.view ▸ hf.part (.branch hb)
  have hbefore := hquiet.trans hcompiled
  have hadded : Grows s₃ { s₃ with types := s₃.types ++ [.union u] } :=
    .aside rfl (Types.grow_append _ _) rfl rfl rfl
  refine ⟨hbefore.1.trans hadded, fun he hs => ?_⟩
  obtain ⟨hs₃, -, hlinked⟩ := hbefore.2 (hadded.trans he) hs
  have hu : u.IsLinked root e := by
    refine ⟨f, hs.grows.view ▸ hf, hsource, ?_, ?_⟩ <;> rw [hmembers]
    · exact hlinked
    · simpa [Function.comp_def] using hdistinguished.tags
  exact ⟨hs₃.addUnion he hu, u,
    he.types.union (Types.union?_eq_some.2 List.getElem?_concat_length), hsource⟩

/-- A new union is kept for its fragment. -/
theorem traced_buildUnion {base : String} {id : TypeId}
    (h : (buildUnion mode annotate base f).run s = (.ok id, s'))
    (hf : Reaches s.store.view root f) :
    Traced root e s s' (e.IsUnionAt id f.location) := by
  rw [run_buildUnion] at h
  split at h
  case h_2 => cases h
  rename_i name id' s₁ hdraft
  split at h
  case h_2 => cases h
  rename_i hreserved
  cases h
  have henter : Traced root e s (s.enter f.location) True := .quiet rfl rfl rfl rfl rfl rfl
  have hbefore := henter.trans (traced_draftUnion hA hdraft hf)
  have hput : Grows s₁ (s₁.put name (.union id) (some f)) :=
    .put (.inr hreserved) (by simp) (some f)
  have hleave : Grows s₁ (s₁.leave name id f) :=
    hput.trans (.aside rfl (Types.grow_refl _) rfl rfl rfl)
  refine ⟨hbefore.1.trans hleave, fun he hs => ?_⟩
  obtain ⟨hs₁, -, hat⟩ := hbefore.2 (hleave.trans he) hs
  have hhandle : e.IsAt f.location (.union id) := hat
  refine ⟨hs₁.put hleave he hhandle rfl (fun {l id'} hget => ?_) rfl, hat⟩
  change Entries.get? (Entries.set s₁.unions f.location id) l = some id' at hget
  rw [Entries.get?_set] at hget
  split at hget
  · rename_i hl
    cases hget
    exact .inr (hl ▸ hat)
  · exact .inl hget

/-- The union that is found for a fragment was made at its location. -/
theorem traced_unionAtTarget {base : String} {id : TypeId}
    (h : (unionAtTarget mode annotate base f).run s = (.ok id, s'))
    (hf : Reaches s.store.view root f) :
    Traced root e s s' (e.IsUnionAt id f.location) := by
  obtain ⟨_, _, hget, h⟩ := exists_of_run_bind h
  cases hget
  split at h
  · rename_i hkept
    obtain ⟨rfl, rfl⟩ := of_run_pure h
    exact .pure fun hs => hs.unions hkept
  · split at h
    · cases h
    · split at h
      · cases h
      · exact traced_buildUnion hA h hf

theorem traced_unionOf {base : String} {id : TypeId}
    (h : (unionOf mode annotate base f).run s = (.ok id, s'))
    (hf : Reaches s.store.view root f) :
    ∃ t, LeadsTo s.store.view f t ∧ Traced root e s s' (e.IsUnionAt id t.location) := by
  obtain ⟨t, s₁, hresolve, h⟩ := exists_of_run_bind h
  obtain ⟨hlead, hquiet⟩ : LeadsTo s.store.view f t ∧ Traced root e s s₁ True :=
    traced_resolve hresolve
  have hunion := traced_unionAtTarget hA h (hquiet.1.view ▸ hf.leads hlead)
  exact ⟨t, hlead, (hquiet.trans hunion).imp fun _ h => h.2⟩

/-! ## The types of properties -/

theorem traced_objectType {r : FieldType × Bool} (hlead : LeadsTo s.store.view f t)
    (ht : t.IsTyped) (hobject : "object" ∈ t.declared)
    (h : (objectType mode annotate property reference t).run s = (.ok r, s'))
    (hf : Reaches s.store.view root f) : Traced root e s s' (Linked e f r.1) := by
  unfold objectType at h
  split at h
  · rename_i hnone
    obtain ⟨rfl, rfl⟩ := of_run_pure h
    exact .pure fun hs => .object (Traced.leads hs hlead) ht hobject (List.isEmpty_iff.1 hnone)
  · obtain ⟨raw, s₁, hname, h⟩ := exists_of_run_bind h
    obtain ⟨-, rfl⟩ := of_run_ofExcept hname
    obtain ⟨_, _, hnames, h⟩ := exists_of_run_bind h
    cases hnames
    obtain ⟨handle, s₂, hcompile, h⟩ := exists_of_run_bind h
    obtain ⟨rfl, rfl⟩ := of_run_pure h
    have htraced := traced_compile hA (e := e) hcompile (hf.leads hlead)
    exact htraced.imp fun hs hat => .of_isAt (Traced.leads hs (htraced.1.view ▸ hlead)) hat

theorem traced_arrayType {r : FieldType × Bool} (hlead : LeadsTo s.store.view f t)
    (ht : t.IsTyped) (harray : "array" ∈ t.declared)
    (h : (itemType annotate property t).run s = (.ok r, s')) (hf : Reaches s.store.view root f) :
    Traced root e s s' (∀ type, type.ListOf r.1 → Linked e f type) := by
  unfold itemType at h
  split at h
  · rename_i ms hitems
    have htraced := hA h ((hf.leads hlead).part (.items hitems))
    exact htraced.imp fun hs hitem type hlist =>
      .items (Traced.leads hs (htraced.1.view ▸ hlead)) ht harray hitems hitem hlist
  · rename_i hno
    obtain ⟨rfl, rfl⟩ := of_run_pure h
    exact .pure fun hs type hlist => .anyItems (Traced.leads hs hlead) ht harray hno hlist

theorem traced_typeFor {jsonType : String} {r : FieldType × Bool}
    (hlead : LeadsTo s.store.view f t) (ht : t.IsTyped) (hj : jsonType ∈ t.declared)
    (h : (typeFor mode annotate property reference t jsonType).run s = (.ok r, s'))
    (hf : Reaches s.store.view root f) : Traced root e s s' (Linked e f r.1) := by
  by_cases hobject : jsonType = "object"
  · subst hobject
    exact traced_objectType hA hlead ht hj h hf
  by_cases harray : jsonType = "array"
  · subst harray
    obtain ⟨⟨item, isBack⟩, s₁, hitem, h⟩ := exists_of_run_bind h
    obtain ⟨rfl, rfl⟩ := of_run_pure h
    refine (traced_arrayType hA hlead ht hj hitem hf).imp fun _ hlinked => hlinked _ ?_
    dsimp only
    split
    · exact .tuple
    · exact .list
  · rw [Regime.typeFor_eq_plainType mode annotate property reference t hobject harray] at h
    obtain ⟨rfl, rfl⟩ := of_run_pure h
    exact .pure fun hs => .plain (Traced.leads hs hlead) ht hj hobject harray

theorem traced_typesFor {jsonTypes : List String} {r : List FieldType × Bool}
    (hlead : LeadsTo s.store.view f t) (ht : t.IsTyped) (hj : ∀ j ∈ jsonTypes, j ∈ t.declared)
    (h : (typesFor mode annotate property reference t jsonTypes).run s = (.ok r, s'))
    (hf : Reaches s.store.view root f) : Traced root e s s' (∀ o ∈ r.1, Linked e f o) := by
  induction jsonTypes generalizing s r with
  | nil =>
    cases h
    exact .pure fun _ o ho => nomatch ho
  | cons j js ih =>
    obtain ⟨hj, hjs⟩ := List.forall_mem_cons.1 hj
    obtain ⟨⟨o, isBack⟩, s₁, hfirst, h⟩ := exists_of_run_bind h
    obtain ⟨⟨os, anyBack⟩, s₂, hrest, h⟩ := exists_of_run_bind h
    obtain ⟨rfl, rfl⟩ := of_run_pure h
    have hbefore := traced_typeFor hA (e := e) hlead ht hj hfirst hf
    have hafter := ih (hbefore.1.view ▸ hlead) hjs hrest (hbefore.1.view ▸ hf)
    exact (hbefore.trans hafter).imp fun _ h => List.forall_mem_cons.2 h

theorem traced_newType (hmode : mode.nestedUnions = true) {r : FieldType × Bool}
    (hlead : LeadsTo s.store.view f t)
    (h : (newType mode annotate property reference t).run s = (.ok r, s'))
    (hf : Reaches s.store.view root f) : Traced root e s s' (Linked e f r.1) := by
  unfold newType at h
  split at h
  · obtain ⟨id, s₁, hunion, h⟩ := exists_of_run_bind h
    obtain ⟨rfl, rfl⟩ := of_run_pure h
    obtain ⟨t', hlead', htraced⟩ := traced_unionOf hA (e := e) hunion (hf.leads hlead)
    cases hlead'.unique (leadsTo_self hlead.hops.2 _)
    exact htraced.imp fun hs hat => .union (Traced.leads hs (htraced.1.view ▸ hlead)) hat
  · rename_i honeOf
    have honeOf := Bool.eq_false_iff.2 honeOf
    split at h
    · rename_i values hvalues
      obtain ⟨rfl, rfl⟩ := of_run_pure h
      exact .pure fun hs => .literal (Traced.leads hs hlead) honeOf hvalues
    · rename_i hnone
      have ht : t.IsTyped := ⟨honeOf, hnone⟩
      unfold typeByJsonTypes at h
      split at h
      · rename_i huntyped
        obtain ⟨rfl, rfl⟩ := of_run_pure h
        exact .pure fun hs =>
          .untyped (Traced.leads hs hlead) ht (Regime.declared_eq_nil huntyped)
      · rename_i hdeclared
        obtain ⟨⟨os, isBack⟩, s₁, htypes, h⟩ := exists_of_run_bind h
        obtain ⟨rfl, rfl⟩ := of_run_pure h
        rw [(Regime.declared_of_typed hdeclared).1] at htypes
        exact (traced_typesFor hA hlead ht (fun _ hj => hj) htypes hf).imp fun _ hos =>
          .ofOptions hos

/-- The type that is found for a property's fragment is linked to it. -/
theorem traces_annotateOnce (hmode : mode.nestedUnions = true) :
    Traces root e (annotateOnce mode annotate) := by
  intro property f s s' r h hf
  obtain ⟨chain, s₁, hresolve, h⟩ := exists_of_run_bind h
  obtain ⟨hchain, hquiet⟩ : _ ∧ Traced root e s s₁ True :=
    traced_onStore (transparent_resolveChain f) hresolve
  have hlead : LeadsTo s₁.store.view f chain.target := by
    rw [hquiet.1.view]
    exact leadsTo_iff.2 (resolve_run_eq_ok_iff.2 ⟨chain, hchain, rfl⟩)
  have hf : Reaches s₁.store.view root f := hquiet.1.view ▸ hf
  obtain ⟨_, _, hget, h⟩ := exists_of_run_bind h
  cases hget
  suffices hrest : Traced root e s₁ s' (Linked e f r.1) from (hquiet.trans hrest).imp fun _ h => h.2
  split at h
  · rename_i name hmark
    obtain ⟨rfl, rfl⟩ := of_run_pure h
    exact .pure fun hs => .named (Traced.leads hs hlead) (hs.honours hmark)
  · split at h
    · rename_i handle hremembered
      obtain ⟨rfl, rfl⟩ := of_run_pure h
      exact .pure fun hs => .of_isAt (Traced.leads hs hlead) (hs.isAt hremembered)
    · exact traced_newType hA hmode hlead h hf

end Depth

/-! ## Whole generations -/

/-- Types are linked however deep fragments may be nested. -/
theorem traces_annotateWithin (hmode : mode.nestedUnions = true) (depth : Nat) :
    Traces root e (annotateWithin mode depth) := by
  induction depth with
  | zero =>
    intro property f s s' r h
    cases h
  | succ depth ih => exact traces_annotateOnce ih hmode

/-- A generation on a fresh state that succeeds ends where everything is linked, with the union
that was made where the references from its fragment end. -/
theorem onWay_of_generate {store : Store} {base : String} {id : TypeId}
    (hmode : mode.nestedUnions = true)
    (h : (generate mode base f).run { store } = (.ok id, s')) :
    OnWay f s' s' ∧ s'.store.view = store.view ∧
      ∃ t, LeadsTo store.view f t ∧ s'.IsUnionAt id t.location := by
  have hunion : (unionOf mode (annotate mode) base f).run { store } = (.ok id, s') := by
    obtain ⟨hresult, hstate⟩ := generate_run mode base f { store }
    rw [h] at hresult hstate
    rw [← hresult] at hstate
    exact Prod.ext hresult.symm hstate.symm
  have hannotate : Traces f s' (annotate mode) := traces_annotateWithin hmode mode.depth
  obtain ⟨t, hlead, hgrows, htraced⟩ := traced_unionOf hannotate hunion .refl
  have hbooked : Booked { store } := ⟨nofun, nofun, nofun⟩
  have hfresh : OnWay f s' { store } :=
    ⟨hgrows, hgrows.booked hbooked, nofun, nofun, nofun, nofun, nofun⟩
  obtain ⟨hend, hat⟩ := htraced (.refl s') hfresh
  exact ⟨hend, hgrows.view, t, hlead, hat⟩

end ShapeSum
