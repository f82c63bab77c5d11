import ShapeSum.Proofs.Generation.Assembling
import ShapeSum.Proofs.Generation.Variants

/-!
# The union of some branches

A union that is generated has a variant for each branch, in order, and the variants are
told apart: by type names that stand for their types and differ in more than the case of
letters, and by tags.  When a variant has the type name of one before it, the two come
from one location, so the branches repeat a fragment.  The converse is that a fragment
that comes up again gets its type again.  So it does where fragments are known by their
locations (`generate_of_session`).  Where two fragments share a location, each takes the
other's place among the compiled types; one that comes up again is compiled again, and
the new name may clash in its tag only (`exists_recompiled`).
-/

namespace ShapeSum

variable {mode : Mode} {view : String → Fetch} {f target : Fragment} {s s' t : Generation}
  {base name : String} {variants : List Variant} {before : List Descriptor} {d : Descriptor}
  {past : List (String → Fetch)}

/-! ## Variants that clash -/

/-- The first variant that clashes with one before it comes from the location of one before it. -/
def RepeatsLocation (variants : List Variant) : Prop :=
  ∃ before d, FirstClash (variants.map Variant.toDescriptor) before d ∧
    d.source ∈ before.map Descriptor.source

/-- What descriptors start with belongs to variants. -/
theorem exists_variants_of_starts (h : before ++ [d] <+: variants.map Variant.toDescriptor) :
    ∃ earlier w later, variants = earlier ++ w :: later ∧
      before = earlier.map Variant.toDescriptor ∧ d = w.toDescriptor := by
  obtain ⟨rest, hrest⟩ := h
  rw [List.append_assoc, List.singleton_append] at hrest
  obtain ⟨earlier, others, rfl, rfl, hothers⟩ := List.map_eq_append_iff.1 hrest.symm
  obtain ⟨w, later, rfl, rfl, -⟩ := List.map_eq_cons_iff.1 hothers
  exact ⟨earlier, w, later, rfl, rfl, rfl⟩

/-- Variants with one type name come from one location. -/
theorem DrawnFrom.source_mem {branches : List Fragment} (h : DrawnFrom view s branches variants)
    (hstarts : before ++ [d] <+: variants.map Variant.toDescriptor)
    (hname : d.typeName ∈ before.map Descriptor.typeName) :
    d.source ∈ before.map Descriptor.source := by
  obtain ⟨earlier, w, later, rfl, rfl, rfl⟩ := exists_variants_of_starts hstarts
  obtain ⟨e, he, hname⟩ := List.mem_map.1 hname
  obtain ⟨v, hv, rfl⟩ := List.mem_map.1 he
  -- One name stands for one type only.
  have hgetv := (h.declared v (by simp [hv])).get?
  have hgetw := (h.declared w (by simp)).get?
  rw [hname, hgetw] at hgetv
  have hsource := (List.pairwise_append.1 h.source).2.2 v hv w List.mem_cons_self
    (Handle.model.inj (Option.some.inj hgetv)).symm
  exact List.mem_map.2 ⟨_, he, hsource⟩

/-- Variants from one location have one type name, if they have one type. -/
theorem DrawnFrom.typeName_mem {branches : List Fragment} (h : DrawnFrom view s branches variants)
    (htype : variants.Pairwise fun v w => v.source = w.source → v.type = w.type)
    (hstarts : before ++ [d] <+: variants.map Variant.toDescriptor)
    (hsource : d.source ∈ before.map Descriptor.source) :
    d.typeName ∈ before.map Descriptor.typeName := by
  obtain ⟨earlier, w, later, rfl, rfl, rfl⟩ := exists_variants_of_starts hstarts
  obtain ⟨e, he, hsource⟩ := List.mem_map.1 hsource
  obtain ⟨v, hv, rfl⟩ := List.mem_map.1 he
  have htype := (List.pairwise_append.1 htype).2.2 v hv w List.mem_cons_self hsource
  have hname := (h.declared v (by simp [hv])).nameOf
  rw [htype, (h.declared w (by simp)).nameOf] at hname
  exact List.mem_map.2 ⟨_, he, hname.symm⟩

/-! ## Runs -/

/-- The variants for the branches of a fragment, and the name that is reserved for their union. -/
def draftVariants (mode : Mode) (annotate : Annotate) (base : String) (f : Fragment) :
    Generating (String × List Variant) := do
  let declared ← Generating.declaredNames
  let name := mode.config.namer.forUnion base declared
  Generating.reserve name
  Generating.report (.generating name f.branches.length)
  let variants ← compileVariants mode annotate base f.branches
  return (name, variants)

/-- The branches are compiled after the name is reserved, unless it is taken. -/
theorem run_draftVariants (mode : Mode) (annotate : Annotate) (base : String) (f : Fragment)
    (s : Generation) : (draftVariants mode annotate base f).run s =
      let name := mode.config.namer.forUnion base (Entries.keys s.names.names)
      if s.names.contains name = true then (.error (.generation (.alreadyDeclared name)), s)
      else match (compileVariants mode annotate base f.branches).run
          { s.put name .reserved none with
            log := s.log ++ [.generating name f.branches.length] } with
        | (.ok variants, t) => (.ok (name, variants), t)
        | (.error e, t) => (.error e, t) := by
  have hnames : Generating.declaredNames.run s = (.ok (Entries.keys s.names.names), s) := rfl
  have hreport (e : Event) (s : Generation) :
      (Generating.report e).run s = (.ok (), { s with log := s.log ++ [e] }) := rfl
  rw [draftVariants, run_bind_ok hnames, run_bind, Generating.run_reserve, Generating.run_declare]
  dsimp only
  generalize mode.config.namer.forUnion base (Entries.keys s.names.names) = name
  by_cases hc : s.names.contains name = true
  · simp only [hc, if_true]
  · simp only [hc, Bool.false_eq_true, if_false]
    rw [run_bind_ok (hreport _ _), run_bind]
    simp only [Generation.put]
    generalize (compileVariants mode annotate base f.branches).run _ = r
    obtain ⟨e | variants, t⟩ := r <;> rfl

/-- A union is made of the variants for its branches. -/
theorem run_draftUnion (mode : Mode) (annotate : Annotate) (base : String) (f : Fragment)
    (s : Generation) : (draftUnion mode annotate base f).run s =
      match (draftVariants mode annotate base f).run s with
      | (.ok (name, variants), t) => match assembleUnion mode name f.location variants with
        | .ok u => (.ok (name, t.types.length), { t with types := t.types ++ [.union u] })
        | .error e => (.error e, t)
      | (.error e, t) => (.error e, t) := by
  have hnames : Generating.declaredNames.run s = (.ok (Entries.keys s.names.names), s) := rfl
  simp only [draftUnion, draftVariants, run_bind, hnames]
  rcases (Generating.reserve (mode.config.namer.forUnion base (Entries.keys s.names.names))).run s
    with ⟨e | _, s₁⟩
  · rfl
  dsimp only
  rcases (Generating.report (.generating (mode.config.namer.forUnion base
    (Entries.keys s.names.names)) f.branches.length)).run s₁ with ⟨e | _, s₂⟩
  · rfl
  dsimp only
  rcases (compileVariants mode annotate base f.branches).run s₂ with ⟨e | variants, t⟩
  · rfl
  have hof (r : Except Failure UnionType) : (Generating.ofExcept r).run t = (r, t) := rfl
  have hpure {α : Type} (a : α) : (pure a : Generating α).run t = (.ok a, t) := rfl
  simp only [hof, hpure]
  cases assembleUnion mode _ f.location variants <;> rfl

/-- A generation compiles all branches of the fragment where the references end: their variants,
the name that is reserved for the union, and the state then. -/
structure Drafts (mode : Mode) (base : String) (s : Generation) (f target : Fragment)
    (name : String) (variants : List Variant) (t : Generation) : Prop where
  /-- The references end there. -/
  leads : LeadsTo s.store.view f target
  /-- No union is kept for the fragment. -/
  unions : Entries.get? s.unions target.location = none
  /-- None is being generated for it. -/
  inProgress : target.location ∉ s.inProgress
  /-- It has branches. -/
  branches : target.branches ≠ []
  /-- The branches compile. -/
  run : (draftVariants mode (annotate mode) base target).run
    (Generation.enter { s with store := ((resolve f).run s.store).2 } target.location) =
      (.ok (name, variants), t)

/-- When all branches compile, the union is made of their variants, and kept under its name. -/
theorem Drafts.run_unionOf (h : Drafts mode base s f target name variants t) :
    (unionOf mode (annotate mode) base f).run s =
      match assembleUnion mode name target.location variants with
      | .ok u => match t.names.get? name with
        | some .reserved => (.ok t.types.length,
          Generation.leave { t with types := t.types ++ [.union u] } name t.types.length target)
        | _ => (.error (.generation (.notReserved name)),
          { t with types := t.types ++ [.union u] })
      | .error e => (.error e, t) := by
  have hresolve := leadsTo_iff.1 h.leads
  have hnone : ¬target.branches.isEmpty = true := by simpa using h.branches
  rw [unionOf, run_bind, Generating.run_onStore, hresolve]
  dsimp only
  rw [unionAtTarget, run_bind_ok (run_get _)]
  simp only [h.unions, List.contains_eq_mem, h.inProgress, decide_false, Bool.false_eq_true,
    if_false, hnone]
  rw [run_buildUnion, run_draftUnion, h.run]
  dsimp only
  cases assembleUnion mode name target.location variants <;> rfl

/-- A union that is given was kept before, or all branches were compiled for it. -/
theorem exists_drafts_of_unionOf {id : TypeId}
    (h : (unionOf mode (annotate mode) base f).run s = (.ok id, s')) :
    ∃ target, LeadsTo s.store.view f target ∧ (Entries.get? s.unions target.location = some id ∨
      ∃ name variants t, Drafts mode base s f target name variants t) := by
  rw [unionOf, run_bind, Generating.run_onStore] at h
  cases hresolve : ((resolve f).run s.store).1 with
  | error e =>
    rw [hresolve] at h
    cases h
  | ok target =>
    have hleads : LeadsTo s.store.view f target := leadsTo_iff.2 hresolve
    refine ⟨target, hleads, ?_⟩
    rw [hresolve] at h
    dsimp only at h
    rw [unionAtTarget, run_bind_ok (run_get _)] at h
    cases hkept : Entries.get? s.unions target.location with
    | some id' =>
      simp only [hkept] at h
      cases h
      exact .inl rfl
    | none =>
      simp only [hkept] at h
      split at h
      · cases h
      · rename_i hprogress
        split at h
        · cases h
        · rename_i hbranches
          rw [run_buildUnion, run_draftUnion] at h
          rcases hrun : (draftVariants mode (annotate mode) base target).run
            (Generation.enter { s with store := ((resolve f).run s.store).2 } target.location)
            with ⟨e | ⟨name, variants⟩, t⟩
          · rw [hrun] at h
            cases h
          · exact .inr ⟨name, variants, t, hleads, hkept, by simpa using hprogress,
              by simpa using hbranches, hrun⟩

/-- The branches are compiled from a state with names and types apart. -/
theorem Drafts.exists_run (h : Drafts mode base s f target name variants t) (hs : Named s) :
    ∃ s₁, s₁.store.view = s.store.view ∧ Named s₁ ∧
      (compileVariants mode (annotate mode) base target.branches).run s₁ = (.ok variants, t) := by
  let s₀ := Generation.enter { s with store := ((resolve f).run s.store).2 } target.location
  have hview : s₀.store.view = s.store.view := (transparent_resolve f).keeps s.store
  have hs₀ : Named s₀ := hs.of_eq rfl rfl
  have hrun := h.run
  rw [run_draftVariants] at hrun
  dsimp only at hrun
  split at hrun
  · cases hrun
  · rename_i hfree
    split at hrun
    · rename_i hcompile
      cases hrun
      have hs₁ := (hs₀.reserve (Bool.eq_false_iff.2 hfree)).1
      refine ⟨_, ?_, ?_, hcompile⟩
      · exact hview
      · exact hs₁.of_eq rfl rfl
    · cases hrun

/-- The variants are drawn from the branches. -/
theorem Drafts.drawnFrom (h : Drafts mode base s f target name variants t) (hs : Named s) :
    DrawnFrom s.store.view t target.branches variants := by
  obtain ⟨s₁, hview, hs₁, hrun⟩ := h.exists_run hs
  exact drawnFrom_compileVariants hview hs₁ hrun

/-- Names and types are apart when the branches are compiled. -/
theorem Drafts.named (h : Drafts mode base s f target name variants t) (hs : Named s) :
    Named t := by
  obtain ⟨s₁, hview, hs₁, hrun⟩ := h.exists_run hs
  exact (hs₁.compileVariants hview hrun).2.1

/-! ## Unions -/

/-- A union represents a fragment: it has a variant for each branch, in order, and the variants are
told apart. -/
structure UnionType.Represents (u : UnionType) (view : String → Fetch) (s : Generation)
    (f : Fragment) : Prop where
  /-- There is one variant for each branch, from the fragment that the branch stands for. -/
  comesFrom : List.Forall₂ (fun b v => v.ComesFrom view b) f.branches u.variants
  /-- No two type names differ in the case of letters only. -/
  typeNames : (u.variants.map fun v => Text.lower v.typeName).Nodup
  /-- The tags are distinct. -/
  tags : (u.variants.map (·.tag)).Nodup
  /-- The type names are declared with the types. -/
  declared : ∀ v ∈ u.variants, v.IsDeclared s

/-- Declared variants with distinct type names have names that differ in more than the case of
letters. -/
theorem Named.nodup_lower (hs : Named s) (hdeclared : ∀ v ∈ variants, v.IsDeclared s)
    (hnames : (variants.map (·.typeName)).Nodup) :
    (variants.map fun v => Text.lower v.typeName).Nodup := by
  have hkey (n : String) (hn : n ∈ variants.map (·.typeName)) : n ∈ Entries.keys s.names.names := by
    obtain ⟨v, hv, rfl⟩ := List.mem_map.1 hn
    rw [← Entries.has_iff_mem_keys, Entries.has]
    simp [show Entries.get? s.names.names v.typeName = _ from (hdeclared v hv).get?]
  have hlower := hnames.map_on fun n hn m hm he =>
    List.inj_on_of_nodup_map hs.nodup (hkey n hn) (hkey m hm) he
  simpa [Function.comp_def] using hlower

/-- A union that is made when all branches have compiled represents the fragment. -/
theorem Drafts.represents (h : Drafts mode base s f target name variants t) (hs : Named s)
    {id : TypeId} (hrun : (unionOf mode (annotate mode) base f).run s = (.ok id, s')) :
    ∃ u, s'.types.union? id = some u ∧ u.Represents s.store.view s' target := by
  rw [h.run_unionOf] at hrun
  cases hu : assembleUnion mode name target.location variants with
  | error e =>
    rw [hu] at hrun
    cases hrun
  | ok u =>
    rw [hu] at hrun
    dsimp only at hrun
    split at hrun
    · rename_i hreserved
      cases hrun
      obtain ⟨⟨hdistinguished, -⟩, hmade⟩ := assembleUnion_eq_ok_iff.1 hu
      let added : Generation := { t with types := t.types ++ [.union u] }
      have hadd : Named added ∧ Onward t added := (h.named hs).grow rfl (Types.grow_append _ _)
      have hunion : added.types.union? t.types.length = some u := by simp [added, Types.union?]
      have hname : u.name = name := by rw [hmade]
      obtain ⟨hleft, honward⟩ := hadd.1.leave target hunion (hname ▸ hreserved)
      have hdrawn := h.drawnFrom hs
      have hdeclared : ∀ v ∈ variants, v.IsDeclared (added.leave name t.types.length target) := by
        intro v hv
        exact hname ▸ ((hdrawn.declared v hv).onward hadd.2).onward honward
      have hvariants : u.variants = variants := by rw [hmade]
      refine ⟨u, hunion, ?_, ?_, ?_, ?_⟩ <;> rw [hvariants]
      · exact hdrawn.comesFrom
      · exact (hname ▸ hleft).nodup_lower hdeclared (by
          simpa [Function.comp_def] using hdistinguished.typeNames)
      · simpa [Function.comp_def] using hdistinguished.tags
      · exact hdeclared
    · cases hrun

/-! ## The error for a repeated type name -/

/-- A generation fails for a type name that comes up again. -/
def FailsForDuplicate (mode : Mode) (base : String) (f : Fragment) (s : Generation) : Prop :=
  ∃ union typeName,
    ((generate mode base f).run s).1 = .error (.generation (.duplicateVariant union typeName))

/-- When all branches compile, a generation fails for a type name that comes up again exactly when
the first variant that clashes has the type name of one before it. -/
theorem Drafts.failsForDuplicate_iff (h : Drafts mode base s f target name variants t) :
    FailsForDuplicate mode base f s ↔ ∃ before d,
      FirstClash (variants.map Variant.toDescriptor) before d ∧
        d.typeName ∈ before.map Descriptor.typeName := by
  rw [FailsForDuplicate, (generate_run mode base f s).1, h.run_unionOf]
  cases hu : assembleUnion mode name target.location variants with
  | error e =>
    have hfault := assembleUnion_eq_error_iff.1 hu
    constructor
    · rintro ⟨union, typeName, he⟩
      cases he
      obtain ⟨before, d, hfirst, herror⟩ := unionFault?_eq_generation_iff.1 hfault
      cases herror with
      | typeName hname => exact ⟨before, d, hfirst, hname⟩
    · rintro ⟨before, d, hfirst, hname⟩
      have hclash : unionFault? name (variants.map Variant.toDescriptor) =
          some (.generation (.duplicateVariant name d.typeName)) :=
        unionFault?_eq_generation_iff.2 ⟨before, d, hfirst, .typeName hname⟩
      rw [hfault] at hclash
      exact ⟨name, d.typeName, congrArg Except.error (Option.some.inj hclash)⟩
  | ok u =>
    have hdistinguished := (assembleUnion_eq_ok_iff.1 hu).1.1
    constructor
    · rintro ⟨union, typeName, he⟩
      dsimp only at he
      split at he <;> cases he
    · rintro ⟨before, d, hfirst, -⟩
      exact absurd hdistinguished hfirst.not_distinguished

/-- A generation in a session gives a union that was kept before or one that represents the fragment
where the references end: a variant for each branch, in order, from the fragment that the branch
stands for, with type names that are declared and told apart, and with distinct tags.  When all
branches compile, it fails for a repeated type name only if the first variant that clashes with one
before it comes from the location of one before it; and in that case it does, if fragments in reach
are known by their locations. -/
theorem generate_of_session (h : Session past s) (mode : Mode) (base : String) (f : Fragment) :
    (∀ id s', (generate mode base f).run s = (.ok id, s') →
      ∃ target, LeadsTo s.store.view f target ∧
        (Entries.get? s.unions target.location = some id ∨
          Entries.get? s.unions target.location = none ∧
            ∃ u, s'.types.union? id = some u ∧ u.Represents s.store.view s' target)) ∧
    ∀ target name variants t, Drafts mode base s f target name variants t →
      List.Forall₂ (fun b v => v.ComesFrom s.store.view b) target.branches variants ∧
      (FailsForDuplicate mode base f s → RepeatsLocation variants) ∧
      (Coherent s.store.view f →
        (∀ g, Reaches s.store.view f g → g.content.hasDistinctKeys = true) →
        (FailsForDuplicate mode base f s ↔ RepeatsLocation variants)) := by
  constructor
  · intro id s' hrun
    have hunion : (unionOf mode (annotate mode) base f).run s = (.ok id, s') := by
      obtain ⟨hresult, hstate⟩ := generate_run mode base f s
      rw [hrun] at hresult hstate
      rw [← hresult] at hstate
      exact Prod.ext hresult.symm hstate.symm
    obtain ⟨target, hleads, hkept | ⟨name, variants, t, hdrafts⟩⟩ := exists_drafts_of_unionOf hunion
    · exact ⟨target, hleads, .inl hkept⟩
    · exact ⟨target, hleads, .inr ⟨hdrafts.unions, hdrafts.represents h.named hunion⟩⟩
  · intro target name variants t hdrafts
    have hdrawn := hdrafts.drawnFrom h.named
    have hrepeats : FailsForDuplicate mode base f s → RepeatsLocation variants := by
      intro hfails
      obtain ⟨before, d, hfirst, hname⟩ := hdrafts.failsForDuplicate_iff.1 hfails
      exact ⟨before, d, hfirst, hdrawn.source_mem hfirst.starts hname⟩
    refine ⟨hdrawn.comesFrom, hrepeats, fun hcoherent hdistinct => ⟨hrepeats, ?_⟩⟩
    rintro ⟨before, d, hfirst, hsource⟩
    obtain ⟨s₁, hview, hs₁, hrun⟩ := hdrafts.exists_run h.named
    have htype := pairwise_type_of_source hcoherent hdistinct hdrafts.leads.reaches
      (fun _ hb => hb) hview hs₁ hrun
    exact hdrafts.failsForDuplicate_iff.2
      ⟨before, d, hfirst, hdrawn.typeName_mem htype hfirst.starts hsource⟩

/-! ### One fragment twice -/

/-- A choice between the kinds of pets that some references lead to. -/
def kindChoice (references : List String) : Json :=
  .obj [("oneOf", .arr (references.map fun ref => .obj [("$ref", .str ref)]))]

/-- A document with two kinds of pets. -/
def kindStore : Store :=
  (Store.empty fun _ => .unavailable "").add "memory:///pets.json"
    (.obj [("cat", .obj [("type", .str "object")]), ("dog", .obj [("type", .str "object")])])

/-- The choice between both kinds. -/
def kindsRoot : Fragment := ⟨kindChoice ["#/cat", "#/dog"], "memory:///pets.json", "/pet"⟩

/-- The choice that has one kind twice. -/
def twiceRoot : Fragment := ⟨kindChoice ["#/cat", "#/cat"], "memory:///pets.json", "/cats"⟩

/-- A branch of that choice. -/
def twiceBranch (index : String) : Fragment :=
  ⟨.obj [("$ref", .str "#/cat")], "memory:///pets.json", "/cats/oneOf/" ++ index⟩

/-- Both branches stand for the same kind. -/
theorem exists_twiceTarget : ∃ t, (∀ index, Hop kindStore.view (twiceBranch index) t) ∧
    t.location = "memory:///pets.json#/cat" ∧ t.ref = none ∧ t.parts = [] ∧
    t.content.hasDistinctKeys = true := by
  have h : ((Store.resolveRef "#/cat" (twiceBranch "0")).run
      (Store.empty kindStore.view)).1.toOption.any (fun t => decide
        (t.location = "memory:///pets.json#/cat" ∧ t.ref = none ∧ t.parts.isEmpty = true ∧
          t.content.hasDistinctKeys = true)) = true := by
    decide +kernel
  obtain ⟨t, ht, htest⟩ := (Option.any_eq_true _ _).1 h
  obtain ⟨hlocation, href, hparts, hdistinct⟩ := of_decide_eq_true htest
  have hhop : Hop kindStore.view (twiceBranch "0") t := ⟨"#/cat", rfl, eq_ok_of_toOption ht⟩
  exact ⟨t, fun index => hhop.congr rfl rfl, hlocation, href, List.isEmpty_iff.1 hparts, hdistinct⟩

/-- In reach of the choice are its branches and the kind that they stand for. -/
theorem reaches_twiceRoot : ∃ t, t.location = "memory:///pets.json#/cat" ∧
    t.content.hasDistinctKeys = true ∧ ∀ g, Reaches kindStore.view twiceRoot g →
      g ∈ [twiceRoot, twiceBranch "0", twiceBranch "1", t] := by
  obtain ⟨t, hhop, hlocation, href, hparts, hdistinct⟩ := exists_twiceTarget
  refine ⟨t, hlocation, hdistinct, fun g hg => ?_⟩
  have hroot : twiceRoot.parts = [twiceBranch "0", twiceBranch "1"] := by rfl
  have hbranch (index : String) : (twiceBranch index).parts = [] := by rfl
  refine hg.mem_of_closed (S := {g | g ∈ [twiceRoot, twiceBranch "0", twiceBranch "1", t]})
    (by simp) (fun g hg h hp => ?_) fun g hg h hh => ?_
  · have hmem := hp.mem_parts
    rcases (by simpa using hg : g = twiceRoot ∨ g = twiceBranch "0" ∨ g = twiceBranch "1" ∨ g = t)
      with rfl | rfl | rfl | rfl
    · rw [hroot] at hmem
      exact List.mem_cons_of_mem _ (List.mem_append_left [t] hmem)
    · simp [hbranch] at hmem
    · simp [hbranch] at hmem
    · simp [hparts] at hmem
  · have htarget {index : String} (hh : Hop kindStore.view (twiceBranch index) h) : h = t :=
      hh.unique (hhop index)
    rcases (by simpa using hg : g = twiceRoot ∨ g = twiceBranch "0" ∨ g = twiceBranch "1" ∨ g = t)
      with rfl | rfl | rfl | rfl
    · obtain ⟨ref, hr, -⟩ := hh
      cases hr
    · simp [htarget hh]
    · simp [htarget hh]
    · obtain ⟨ref, hr, -⟩ := hh
      rw [href] at hr
      cases hr

/-- Whether two variants were compiled with one type name and from one location. -/
def isTwice (r : Except Failure (String × List Variant)) : Bool :=
  match r with
  | .ok (_, [v, w]) => v.typeName == w.typeName && v.source == w.source
  | _ => false

/-- A choice between two kinds becomes a union, and a choice that has one kind twice is refused for
that. -/
theorem generate_kinds :
    (∃ id s' u, (generate { config := {} } "pet" kindsRoot).run { store := kindStore } = (.ok id, s') ∧
      s'.types.union? id = some u ∧ u.Represents kindStore.view s' kindsRoot) ∧
    ∃ name variants t, Drafts { config := {} } "cats" { store := kindStore } twiceRoot twiceRoot name
        variants t ∧ RepeatsLocation variants ∧
      FailsForDuplicate { config := {} } "cats" twiceRoot { store := kindStore } := by
  have hsession : Session [kindStore.view] { store := kindStore } := .fresh kindStore
  constructor
  · have htest : ((generate { config := {} } "pet" kindsRoot).run
        { store := kindStore }).1.toOption.isSome = true := by
      decide +kernel
    rcases hrun : (generate { config := {} } "pet" kindsRoot).run { store := kindStore } with ⟨r, s'⟩
    rw [hrun] at htest
    obtain ⟨id, hid⟩ := Option.isSome_iff_exists.1 htest
    cases eq_ok_of_toOption hid
    obtain ⟨target, hleads, hkept | ⟨-, u, hu, hrepresents⟩⟩ :=
      (generate_of_session hsession { config := {} } "pet" kindsRoot).1 id s' hrun
    · cases hkept
    · cases hleads.unique (leadsTo_self (f := kindsRoot) rfl _)
      exact ⟨id, s', u, rfl, hu, hrepresents⟩
  · have htest : isTwice ((draftVariants { config := {} } (annotate { config := {} }) "cats"
        twiceRoot).run (Generation.enter { store := ((resolve twiceRoot).run kindStore).2 }
          twiceRoot.location)).1 = true := by
      decide +kernel
    rcases hrun : (draftVariants { config := {} } (annotate { config := {} }) "cats" twiceRoot).run
      (Generation.enter { store := ((resolve twiceRoot).run kindStore).2 } twiceRoot.location)
      with ⟨r, t⟩
    rw [hrun] at htest
    unfold isTwice at htest
    dsimp only at htest
    split at htest
    · rename_i name v w
      obtain ⟨hname, hsource⟩ : v.typeName = w.typeName ∧ v.source = w.source := by
        simpa using htest
      have hdrafts : Drafts { config := {} } "cats" { store := kindStore } twiceRoot twiceRoot name
          [v, w] t :=
        ⟨leadsTo_self rfl _, rfl, by simp, List.cons_ne_nil _ _, hrun⟩
      have hrepeats : RepeatsLocation [v, w] := by
        refine ⟨[v.toDescriptor], w.toDescriptor, ⟨by simp, ?_, .inl (by simp [hname])⟩, ?_⟩
        · exact ⟨by simp, by simp⟩
        · simp [hsource]
      obtain ⟨cat, hlocation, hdistinct, hreach⟩ := reaches_twiceRoot
      have hcoherent : Coherent kindStore.view twiceRoot := by
        have hnodup : ([twiceRoot, twiceBranch "0", twiceBranch "1", cat].map
            Fragment.location).Nodup := by
          simp only [List.map_cons, List.map_nil, hlocation]
          decide +kernel
        exact fun g h hg hh hl => List.inj_on_of_nodup_map hnodup (hreach g hg) (hreach h hh) hl
      have hkeys : ∀ g, Reaches kindStore.view twiceRoot g → g.content.hasDistinctKeys = true := by
        intro g hg
        rcases (by simpa using hreach g hg :
            g = twiceRoot ∨ g = twiceBranch "0" ∨ g = twiceBranch "1" ∨ g = cat)
          with rfl | rfl | rfl | rfl
        · decide +kernel
        · decide +kernel
        · decide +kernel
        · exact hdistinct
      have hiff := ((generate_of_session hsession { config := {} } "cats" twiceRoot).2 _ _ _ _
        hdrafts).2.2 hcoherent hkeys
      exact ⟨name, [v, w], t, hdrafts, hrepeats, hiff.2 hrepeats⟩
    · cases htest

/-! ### Two fragments at one location -/

/-- A choice with one reference twice, and between them a reference to another document that leads
to the same location. -/
def recompiledRoot : Fragment where
  content := .obj [("oneOf", .arr [.obj [("$ref", .str "#/y")], .obj [("$ref", .str "#/b")],
      .obj [("$ref", .str "#/y")]]),
    ("y", .obj [("type", .str "object"),
      ("properties", .obj [("p", .obj [("type", .str "string")])])]),
    ("b", .obj [("$ref", .str "memory:/s#/x#/y")])]
  document := "memory:/s#/x"
  pointer := ""

/-- Both documents. -/
def recompiledStore : Store :=
  ((Store.empty fun _ => .unavailable "").add "memory:/s#/x" recompiledRoot.content).add "memory:/s"
    (.obj [("x#", .obj [("y", .obj [("type", .str "object"),
      ("properties", .obj [("q", .obj [("type", .str "string")])])])])])

/-- Whether three variants were compiled from one location under three type names, with tags that
clash for the third only. -/
def isRecompiled (r : Except Failure (String × List Variant)) : Bool :=
  match r with
  | .ok (_, [u, v, w]) => u.source == w.source && u.tag == w.tag && u.tag != v.tag &&
    u.typeName != v.typeName && u.typeName != w.typeName && v.typeName != w.typeName
  | _ => false

/-- The branches of the choice compile, and the third stands for the fragment of the first.  But the
generation does not fail for a repeated type name, since the fragment is compiled again. -/
theorem exists_recompiled : ∃ name variants t,
    Session [recompiledStore.view] { store := recompiledStore } ∧
    Drafts { config := {} } "shape" { store := recompiledStore } recompiledRoot recompiledRoot name
      variants t ∧
    RepeatsLocation variants ∧
    ¬FailsForDuplicate { config := {} } "shape" recompiledRoot { store := recompiledStore } := by
  have htest : isRecompiled ((draftVariants { config := {} } (annotate { config := {} }) "shape"
      recompiledRoot).run (Generation.enter { store := ((resolve recompiledRoot).run
        recompiledStore).2 } recompiledRoot.location)).1 = true := by
    decide +kernel
  rcases hrun : (draftVariants { config := {} } (annotate { config := {} }) "shape"
      recompiledRoot).run (Generation.enter { store := ((resolve recompiledRoot).run
        recompiledStore).2 } recompiledRoot.location) with ⟨r, t⟩
  rw [hrun] at htest
  unfold isRecompiled at htest
  dsimp only at htest
  split at htest
  · rename_i name u v w
    simp only [Bool.and_eq_true, beq_iff_eq, bne_iff_ne] at htest
    obtain ⟨⟨⟨⟨⟨hsource, htag⟩, htag'⟩, hname⟩, hname'⟩, hname''⟩ := htest
    have hdrafts : Drafts { config := {} } "shape" { store := recompiledStore } recompiledRoot
        recompiledRoot name [u, v, w] t :=
      ⟨leadsTo_self rfl _, rfl, by simp, List.cons_ne_nil _ _, hrun⟩
    have hfirst : FirstClash ([u, v, w].map Variant.toDescriptor) [u.toDescriptor, v.toDescriptor]
        w.toDescriptor := by
      refine ⟨by simp, ⟨by simp [hname], by simp [htag']⟩, .inr (by simp [htag])⟩
    have hrepeats : RepeatsLocation [u, v, w] := ⟨_, _, hfirst, by simp [hsource]⟩
    refine ⟨name, [u, v, w], t, .fresh _, hdrafts, hrepeats, fun hfails => ?_⟩
    obtain ⟨before, d, hfirst', hmem⟩ := hdrafts.failsForDuplicate_iff.1 hfails
    obtain ⟨rfl, rfl⟩ := hfirst.unique hfirst'
    rcases (by simpa using hmem : w.typeName = u.typeName ∨ w.typeName = v.typeName) with he | he
    · exact hname' he.symm
    · exact hname'' he.symm
  · cases htest

end ShapeSum
