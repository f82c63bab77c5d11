import ShapeSum.Proofs.Decode.Taking
import ShapeSum.Proofs.Generation.Homes
import ShapeSum.Proofs.Generation.Obeying
import ShapeSum.Proofs.Types.Resemblance

/-!
# Variants in turn

The variants of a union are drawn from its branches in turn, and each is declared under
its type name.  Variants with one type come from one location, since a type has one home
only (`drawnFrom_compileVariants`).  The converse takes more: a fragment that comes up
again must find its type, and nothing may have been put down at its location in between.
So it is for fragments that are known by their locations, since a type is put down only
where none is remembered (`pairwise_type_of_source`).
-/

namespace ShapeSum

variable {mode : Mode} {view : String → Fetch} {f g t : Fragment} {s s' : Generation}
  {base : String} {branches : List Fragment} {variants : List Variant}

/-! ## Variants and their types -/

/-- A variant comes from the fragment that a branch stands for. -/
def Variant.ComesFrom (v : Variant) (view : String → Fetch) (branch : Fragment) : Prop :=
  ∃ target, LeadsTo view branch target ∧ target.isObject = true ∧ v.source = some target.location

/-- A variant is declared: its type name is that of its type and stands for it. -/
structure Variant.IsDeclared (v : Variant) (s : Generation) : Prop where
  /-- The name stands for the type. -/
  get? : s.names.get? v.typeName = some (.model v.type)
  /-- The type has the name. -/
  nameOf : s.types.nameOf v.type = v.typeName
  /-- There is such a type. -/
  lt_length : v.type < s.types.length

theorem Variant.IsDeclared.onward {v : Variant} (h : v.IsDeclared s) (ho : Onward s s') :
    v.IsDeclared s' where
  get? := ho.names h.get? (by simp)
  nameOf := (ho.types.name h.lt_length).trans h.nameOf
  lt_length := Nat.lt_of_lt_of_le h.lt_length ho.types.length

/-- Variants are drawn from branches: one from each and in order, all of them declared, and those
with one type from one location. -/
structure DrawnFrom (view : String → Fetch) (s : Generation) (branches : List Fragment)
    (variants : List Variant) : Prop where
  /-- They come from the branches. -/
  comesFrom : List.Forall₂ (fun b v => v.ComesFrom view b) branches variants
  /-- They are declared. -/
  declared : ∀ v ∈ variants, v.IsDeclared s
  /-- The type determines the location. -/
  source : variants.Pairwise fun v w => v.type = w.type → v.source = w.source

/-- A variant that a state gives is that of a type that is remembered for the target. -/
theorem exists_target_of_gives {branch : Fragment} {v : Variant} (h : Gives mode view s branch v) :
    ∃ target, LeadsTo view branch target ∧ target.isObject = true ∧
      v.source = some target.location ∧ s.names.Remembers target (.model v.type) ∧
      s.types.nameOf v.type = v.typeName := by
  obtain ⟨target, typeName, handle, hlead, hobject, hremembers, hname, hv⟩ := h
  obtain ⟨id, m, rfl, -, rfl, hsource, rfl, -⟩ := exists_model_of_variant hv
  exact ⟨target, hlead, hobject, hsource, hremembers, hname _ rfl⟩

/-- A variant that is given by a state with names and types apart is declared. -/
theorem Named.isDeclared_of_gives (hs : Named s) {branch : Fragment} {v : Variant}
    (h : Gives mode view s branch v) : v.IsDeclared s := by
  obtain ⟨target, -, -, -, hremembers, hname⟩ := exists_target_of_gives h
  obtain ⟨id, hid, hlt, hget⟩ := hs.declares (Generation.isHome_of_remembers hremembers)
  cases hid
  exact ⟨hname ▸ hget, hname, hlt⟩

/-- A state gives no variant of a type that a state before it gave for another location. -/
theorem Named.source_eq_of_gives (hs : Named s) {b b' : Fragment} {v w : Variant}
    (hv : Gives mode view s b v) (hw : Gives mode view s' b' w) (ho : Onward s s')
    (htype : v.type = w.type) : v.source = w.source := by
  obtain ⟨target, -, -, hsource, hremembers, -⟩ := exists_target_of_gives hv
  obtain ⟨target', -, -, hsource', hremembers', -⟩ := exists_target_of_gives hw
  have hhome := Generation.isHome_of_remembers hremembers
  have hhome' := ho.homes (Generation.isHome_of_remembers hremembers')
    (htype ▸ hs.declares hhome)
  rw [hsource, hsource', hs.home hhome (htype ▸ hhome')]

/-- A list of branches is compiled branch by branch. -/
theorem exists_run_of_compileVariants {annotate : Annotate} {b : Fragment} {bs : List Fragment}
    (hr : (compileVariants mode annotate base (b :: bs)).run s = (.ok variants, s')) :
    ∃ v vs s₁, variants = v :: vs ∧ (compileVariant mode annotate base b).run s = (.ok v, s₁) ∧
      (compileVariants mode annotate base bs).run s₁ = (.ok vs, s') := by
  rw [compileVariants, run_bind] at hr
  rcases hv : (compileVariant mode annotate base b).run s with ⟨e | v, s₁⟩
  · rw [hv] at hr
    cases hr
  · rw [hv] at hr
    dsimp only at hr
    rw [run_bind] at hr
    rcases hvs : (compileVariants mode annotate base bs).run s₁ with ⟨e | vs, s₂⟩
    · rw [hvs] at hr
      cases hr
    · rw [hvs] at hr
      cases hr
      exact ⟨v, vs, s₁, rfl, rfl, hvs⟩

/-- The state after the compilation of a branch gives its variant. -/
theorem Named.compileVariant {b : Fragment} {v : Variant} (hs : Named s)
    (hview : s.store.view = view)
    (hr : (compileVariant mode (annotate mode) base b).run s = (.ok v, s')) :
    s'.store.view = view ∧ Named s' ∧ Gives mode view s' b v := by
  subst hview
  have hI := upkeep_onward mode s
  obtain ⟨hi, -, hgives⟩ := upholds_compileVariant hI (upholds_annotate hI) base b
    ⟨rfl, hs, hs.onward_refl⟩
  rw [hr] at hi hgives
  exact ⟨hi.1, hi.2.1, hgives v rfl⟩

/-- The variants of branches are given by states in between. -/
theorem Named.compileVariants (hs : Named s) (hview : s.store.view = view)
    (hr : (compileVariants mode (annotate mode) base branches).run s = (.ok variants, s')) :
    s'.store.view = view ∧ Named s' ∧ Onward s s' ∧
      ∀ v ∈ variants, ∃ b s'', Onward s s'' ∧ Gives mode view s'' b v := by
  subst hview
  have hI := upkeep_onward mode s
  obtain ⟨hi, -, hdrawn⟩ := upholds_compileVariants hI (upholds_annotate hI) base branches
    ⟨rfl, hs, hs.onward_refl⟩
  rw [hr] at hi hdrawn
  refine ⟨hi.1, hi.2.1, hi.2.2, fun v hv => ?_⟩
  obtain ⟨b, -, s'', ⟨-, -, ho⟩, -, hgives⟩ := exists_left_of_forall₂ (hdrawn variants rfl) hv
  exact ⟨b, s'', ho, hgives⟩

/-- The variants that are compiled from branches are drawn from them. -/
theorem drawnFrom_compileVariants (hview : s.store.view = view) (hs : Named s)
    (hr : (compileVariants mode (annotate mode) base branches).run s = (.ok variants, s')) :
    DrawnFrom view s' branches variants := by
  induction branches generalizing s variants with
  | nil =>
    cases hr
    exact ⟨.nil, by simp, .nil⟩
  | cons b bs ih =>
    obtain ⟨v, vs, s₁, rfl, hv, hvs⟩ := exists_run_of_compileVariants hr
    obtain ⟨hview₁, hs₁, hgives⟩ := hs.compileVariant hview hv
    obtain ⟨target, hlead, hobject, hsource, -, -⟩ := exists_target_of_gives hgives
    -- The other variants are given by states after the one that gave the first.
    obtain ⟨-, -, honward, hlater⟩ := hs₁.compileVariants hview₁ hvs
    obtain ⟨hcomes, hdeclared, hpairwise⟩ := ih hview₁ hs₁ hvs
    refine ⟨.cons ⟨target, hlead, hobject, hsource⟩ hcomes, ?_, .cons ?_ hpairwise⟩
    · exact List.forall_mem_cons.2 ⟨(hs₁.isDeclared_of_gives hgives).onward honward, hdeclared⟩
    · intro w hw htype
      obtain ⟨b', s₂, honward₂, hw⟩ := hlater w hw
      exact hs₁.source_eq_of_gives hgives hw honward₂ htype

/-! ## Types that are kept for their fragments -/

/-- A type that is remembered for a fragment is its type. -/
theorem Namespace.typeOf?_of_remembers {n : Namespace} {id : TypeId}
    (hr : n.Remembers t (.model id)) (hd : t.content.hasDistinctKeys = true) :
    n.typeOf? t = some (.model id) := by
  obtain ⟨content, hget, hcontent⟩ := hr
  have hsame : content.sameContent t.content = true := by
    rcases hcontent with rfl | hsame
    · exact Json.sameContent_self _ hd
    · exact hsame
  simp [typeOf?, hget, hsame]

/-- While types are found for fragments in reach, the type of one of them stays the same, if
fragments in reach are known by their locations. -/
def retainingRegime (mode : Mode) (hcoherent : Coherent view f) (ht : Reaches view f t)
    (h : Handle) : Regime mode view where
  Known g := Reaches view f g
  Good s := s.store.view = view ∧ s.names.typeOf? t = some h
  After _ := MarksNoMore
  Err _ := True
  New g := g.location ≠ t.location
  May _ _ _ := True
  MayCompile _ _ _ := True
  MayBranch _ _ _ := True
  Fit _ _ _ := True
  FitAs _ _ _ _ := True
  Made _ _ _ := True
  known_part := Reaches.part
  known_leads := Reaches.leads
  new hs hg hnone hl := by
    cases hcoherent _ _ hg ht hl
    rw [hs.2] at hnone
    cases hnone
  failure _ := trivial
  unresolved _ _ := trivial
  tooDeep _ := trivial
  recursive _ _ _ _ _ := trivial
  view_eq hs := hs.1
  after_refl _ := MarksNoMore.refl
  after_trans := MarksNoMore.trans
  after_of_strict h := h
  pending_after h := h _
  may_after _ _ _ := trivial
  mayCompile_after _ _ := trivial
  mayBranch_after _ _ := trivial
  fit_after _ _ := trivial
  fitAs_after _ _ := trivial
  made_after _ _ := trivial
  may_item _ _ _ _ _ _ := trivial
  may_object _ _ _ _ _ := trivial
  may_property _ _ _ _ := trivial
  may_union _ _ _ _ _ _ := trivial
  may_branch _ _ _ _ := trivial
  aside hs h := ⟨⟨h.view.trans hs.1, h.names ▸ hs.2⟩, .of_eq h.pending⟩
  refer hs _ _ := ⟨hs, .of_eq rfl⟩
  mark _ _ hs := hs
  unmark _ hs := hs
  unmark_after _ _ _ h := h.unmark
  enter _ hs := hs
  leave {_ s s' g name id} hs _ hnew _ _ _ _ _ h :=
    ⟨⟨hs.1, (s'.names.typeOf?_put_of_ne name (.union id) hnew).trans hs.2⟩, h⟩
  reserve _ hs := ⟨hs, .of_eq rfl⟩
  declare {s g id} name hs _ hnew _ :=
    ⟨⟨hs.1, (s.names.typeOf?_put_of_ne name (.model id) hnew).trans hs.2⟩, .of_eq rfl⟩
  model hs _ _ _ _ _ _ := ⟨hs, .of_eq rfl, trivial⟩
  settle hs _ _ _ := ⟨hs, .of_eq rfl⟩
  union hs _ _ _ _ := ⟨hs, .of_eq rfl, trivial⟩
  fit_made _ := trivial
  back _ _ _ _ _ := trivial
  cached _ _ _ := trivial
  kept _ _ _ _ := trivial
  fit_literal _ _ := trivial
  fit_anyBranch _ _ := trivial
  fit_untyped _ _ := trivial
  fit_options _ _ _ _ := trivial
  fitAs_plain _ _ _ _ := trivial
  fitAs_array _ _ _ := trivial
  fitAs_object _ _ _ := trivial
  fitAs_handle _ _ _ _ := trivial

section Retaining

variable (hcoherent : Coherent view f) (ht : Reaches view f t) {id : TypeId}

include hcoherent ht

/-- A branch that stands for a fragment with a type gets this type. -/
theorem obeys_compileVariant_retained (hg : Reaches view f g) {b : Fragment}
    (hb : b ∈ g.branches) :
    (retainingRegime mode hcoherent ht (.model id)).Obeys false
      (compileVariant mode (annotate mode) base b) s
      (fun v _ => ∃ target, LeadsTo view b target ∧ v.source = some target.location ∧
        (target = t → v.type = id)) := by
  let R := retainingRegime mode hcoherent ht (.model id)
  have hknown : Reaches view f b := hg.part (.branch hb)
  have htype (target : Fragment) (hlead : LeadsTo view b target) (s : Generation) :
      R.Obeys false (branchType mode (annotate mode) base b target) s
        (fun r _ => target = t → r.2 = .model id) := by
    by_cases he : target = t
    · subst he
      refine Regime.Obeys.get fun hs => ?_
      rw [hs.2]
      exact Regime.obeys_pure fun _ _ => rfl
    · exact (Regime.obeys_branchType (R := R) (d := mode.depth)
        (R.obeys_annotateWithin mode.depth) base b (hknown.trans hlead.reaches) trivial).imp
        fun _ _ _ _ _ h => absurd h he
  refine (Regime.obeys_branchTarget (R := R) hknown).bind fun target s₁ _ _ h => ?_
  refine (htype target h.1 s₁).bind fun r s₂ _ _ hr => ?_
  obtain ⟨typeName, handle⟩ := r
  refine (Regime.obeys_report _).bind fun _ s₃ _ _ _ => ?_
  refine Regime.Obeys.get fun _ => ?_
  refine (Regime.obeys_ofExcept (ordinary_variant _ _ _ _ _)).imp fun v s₄ _ _ hv => ?_
  obtain ⟨id', m, rfl, -, rfl, hsource, -, -⟩ := exists_model_of_variant hv.1
  exact ⟨target, h.1, hsource, fun he => Handle.model.inj (hr he)⟩

/-- Branches that stand for a fragment with a type get this type. -/
theorem type_eq_of_compileVariants (hg : Reaches view f g) (hb : ∀ b ∈ branches, b ∈ g.branches)
    (hs : s.store.view = view ∧ s.names.typeOf? t = some (.model id))
    (hr : (compileVariants mode (annotate mode) base branches).run s = (.ok variants, s')) :
    List.Forall₂ (fun b v => ∃ target, LeadsTo view b target ∧ v.source = some target.location ∧
      (target = t → v.type = id)) branches variants := by
  induction branches generalizing s variants with
  | nil =>
    cases hr
    exact .nil
  | cons b bs ih =>
    obtain ⟨hb, hbs⟩ := List.forall_mem_cons.1 hb
    obtain ⟨v, vs, s₁, rfl, hv, hvs⟩ := exists_run_of_compileVariants hr
    obtain ⟨hgood, hok, -⟩ := obeys_compileVariant_retained hcoherent ht hg hb hs
    rw [hv] at hgood hok
    exact .cons (hok v rfl).2 (ih hbs hgood hvs)

end Retaining

/-- Variants from one location have one type, if fragments in reach are known by their locations. -/
theorem pairwise_type_of_source (hcoherent : Coherent view f)
    (hdistinct : ∀ g, Reaches view f g → g.content.hasDistinctKeys = true)
    (hg : Reaches view f g) (hb : ∀ b ∈ branches, b ∈ g.branches) (hview : s.store.view = view)
    (hs : Named s)
    (hr : (compileVariants mode (annotate mode) base branches).run s = (.ok variants, s')) :
    variants.Pairwise fun v w => v.source = w.source → v.type = w.type := by
  induction branches generalizing s variants with
  | nil =>
    cases hr
    exact .nil
  | cons b bs ih =>
    obtain ⟨hb, hbs⟩ := List.forall_mem_cons.1 hb
    obtain ⟨v, vs, s₁, rfl, hv, hvs⟩ := exists_run_of_compileVariants hr
    obtain ⟨hview₁, hs₁, hgives⟩ := hs.compileVariant hview hv
    obtain ⟨t, hlead, -, hsource, hremembers, -⟩ := exists_target_of_gives hgives
    have ht : Reaches view f t := (hg.part (.branch hb)).trans hlead.reaches
    have htypeOf := Namespace.typeOf?_of_remembers hremembers (hdistinct t ht)
    refine .cons (fun w hw he => ?_) (ih hbs hview₁ hs₁ hvs)
    obtain ⟨b', hb', target, hlead', hsource', htype⟩ := exists_left_of_forall₂
      (type_eq_of_compileVariants hcoherent ht hg hbs ⟨hview₁, htypeOf⟩ hvs) hw
    -- The two fragments have one location, so they are one.
    rw [hsource, hsource'] at he
    have htarget : Reaches view f target := (hg.part (.branch (hbs b' hb'))).trans hlead'.reaches
    exact (htype (hcoherent target t htarget ht (Option.some.inj he).symm)).symm

end ShapeSum
