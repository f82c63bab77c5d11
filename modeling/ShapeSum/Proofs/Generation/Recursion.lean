import ShapeSum.Proofs.Generation.Obeying
import ShapeSum.Proofs.Schema.Chains

/-!
# Recursive unions

A union is called recursive when its location is marked as being generated.  While
types are found, each marked location is that of a fragment on the way to the present
one, so a union that is met again comes back to itself by a chain of moves
(`Recurs`).

A mark is removed when its union is done, and all marks are removed when a generation
is rolled back.  A compilation is never rolled back, nor is a generation that ends in
another failure than a generation error.  The marks that these leave behind outlive
them, and a union at such a location is called recursive whatever it is.
-/

namespace ShapeSum

variable {view : String → Fetch} {f g h t : Fragment} {s s' : Generation} {l : String}
  {mode : Mode}

/-! ## Ways from fragment to fragment -/

/-- From one fragment a compilation moves on to another one in one step. -/
inductive Moves (view : String → Fetch) (f : Fragment) : Fragment → Prop
  /-- To a property, a branch or the items. -/
  | part {g : Fragment} : f.HasPart g → Moves view f g
  /-- Along a reference. -/
  | hop {g : Fragment} : Hop view f g → Moves view f g

theorem reaches_iff_moves : Reaches view f g ↔ Relation.ReflTransGen (Moves view) f g := by
  constructor
  · intro h
    induction h with
    | refl => exact .refl
    | part _ hp ih => exact ih.tail (.part hp)
    | hop _ hh ih => exact ih.tail (.hop hh)
  · intro h
    induction h with
    | refl => exact .refl
    | tail _ hm ih =>
      cases hm with
      | part hp => exact ih.part hp
      | hop hh => exact ih.hop hh

theorem LeadsTo.moves (h : LeadsTo view f g) : Relation.ReflTransGen (Moves view) f g :=
  reaches_iff_moves.1 h.reaches

/-- From a fragment a choice is met at a location from which moves lead back to it. -/
def Recurs (view : String → Fetch) (f : Fragment) (l : String) : Prop :=
  ∃ g t, Reaches view f g ∧ Relation.TransGen (Moves view) g t ∧ g.location = l ∧
    t.location = l ∧ t.hasOneOf = true

/-- Where locations tell the fragments apart, the choice comes back to itself. -/
theorem Recurs.exists_cycle (h : Recurs view f l) (hcoherent : Coherent view f) :
    ∃ t, Reaches view f t ∧ t.location = l ∧ t.hasOneOf = true ∧
      Relation.TransGen (Moves view) t t := by
  obtain ⟨g, t, hg, hmoves, hl, ht, honeOf⟩ := h
  have hreach : Reaches view f t := hg.trans (reaches_iff_moves.2 hmoves.to_reflTransGen)
  cases hcoherent g t hg hreach (hl.trans ht.symm)
  exact ⟨g, hg, hl, honeOf, hmoves⟩

/-! ## Marks on the way -/

/-- Each marked location was marked before, or is that of a fragment on the way to the present
one. -/
def OnTheWay (view : String → Fetch) (f : Fragment) (before : List String)
    (leads : Fragment → Fragment → Prop) (marks : List String) (t : Fragment) : Prop :=
  ∀ l ∈ marks, l ∈ before ∨ ∃ g, Reaches view f g ∧ g.location = l ∧ leads g t

variable {before marks marks' : List String} {leads leads' : Fragment → Fragment → Prop}
  {t' : Fragment}

theorem OnTheWay.subset (h : OnTheWay view f before leads marks t) (hm : marks' ⊆ marks) :
    OnTheWay view f before leads marks' t := fun l hl => h l (hm hl)

/-- Who moves on takes the marks along. -/
theorem OnTheWay.move (h : OnTheWay view f before leads marks t)
    (hlead : ∀ g, leads g t → leads' g t') : OnTheWay view f before leads' marks t' := by
  intro l hl
  rcases h l hl with hbefore | ⟨g, hg, hloc, hgt⟩
  · exact .inl hbefore
  · exact .inr ⟨g, hg, hloc, hlead g hgt⟩

/-- A fragment that is marked itself stands on the way to itself. -/
theorem OnTheWay.enter (h : OnTheWay view f before (Relation.TransGen (Moves view)) marks t)
    (ht : Reaches view f t) :
    OnTheWay view f before (Relation.ReflTransGen (Moves view)) (t.location :: marks) t := by
  intro l hl
  rcases List.mem_cons.1 hl with rfl | hl
  · exact .inr ⟨t, ht, rfl, .refl⟩
  · exact h.move (fun _ => Relation.TransGen.to_reflTransGen) l hl

/-- A choice at a marked location was marked before, or comes back to itself. -/
theorem OnTheWay.recurs (h : OnTheWay view f before (Relation.TransGen (Moves view)) marks t)
    (honeOf : t.hasOneOf = true) (hmem : t.location ∈ marks) :
    t.location ∈ before ∨ Recurs view f t.location := by
  rcases h _ hmem with hbefore | ⟨g, hg, hloc, hgt⟩
  · exact .inl hbefore
  · exact .inr ⟨g, t, hg, hgt, hloc, rfl, honeOf⟩

/-- The marks of compilations and of unions after a computation were there before it. -/
structure Unmarked (s s' : Generation) : Prop where
  /-- Those of compilations. -/
  pending : MarksNoMore s s'
  /-- Those of unions. -/
  inProgress : s'.inProgress ⊆ s.inProgress

theorem Unmarked.of_eq (hp : s'.pending = s.pending) (hi : s'.inProgress = s.inProgress) :
    Unmarked s s' :=
  ⟨.of_eq hp, hi ▸ List.Subset.refl _⟩

/-- The failure to follow references is none of the guards of the recursion, unless they are too
many. -/
theorem ofRecursion_resolveChain {e : Failure}
    (he : ((resolveChain f).run (Store.empty view)).1 = .error e) :
    e = .tooDeep ∨ e.ofRecursion = false := by
  rcases comesTo_of_trail (.start view f) he with hc | ⟨hdeep, -⟩
  · right
    cases hc with
    | cyclic => rfl
    | stuck _ hs => cases hs <;> rfl
  · exact .inl (Except.error.inj hdeep)

/-- While types are found for fragments in reach of one, a union is called recursive only if its
location was marked before or the union comes back to itself. -/
def recursionRegime (mode : Mode) (view : String → Fetch) (f : Fragment) (before : List String) :
    Regime mode view where
  Known g := Reaches view f g
  Good s := s.store.view = view
  After _ := Unmarked
  Err e := ∀ l, e = .generation (.recursiveUnion l) → l ∈ before ∨ Recurs view f l
  New _ := True
  May _ s g := OnTheWay view f before (Relation.TransGen (Moves view)) s.inProgress g
  MayCompile _ s g := OnTheWay view f before (Relation.TransGen (Moves view)) s.inProgress g
  MayBranch _ s g := OnTheWay view f before (Relation.ReflTransGen (Moves view)) s.inProgress g
  Fit _ _ _ := True
  FitAs _ _ _ _ := True
  Made _ _ _ := True
  known_part := Reaches.part
  known_leads := Reaches.leads
  new _ _ _ := trivial
  failure he l h := by
    subst h
    cases he
  unresolved _ herr l h := by
    subst h
    rcases ofRecursion_resolveChain herr with h | h <;> cases h
  tooDeep _ l h := nomatch h
  recursive hmay _ hlead honeOf hmem l h := by
    cases h
    exact (hmay.move fun _ hg => hg.trans_left hlead.moves).recurs honeOf hmem
  view_eq hs := hs
  after_refl _ _ := .of_eq rfl rfl
  after_trans h h' := ⟨h.pending.trans h'.pending, List.Subset.trans h'.inProgress h.inProgress⟩
  after_of_strict h := h
  pending_after h := h.pending _
  may_after _ hmay h := hmay.subset h.inProgress
  mayCompile_after hmay h := hmay.subset h.inProgress
  mayBranch_after hmay h := hmay.subset h.inProgress
  fit_after _ _ := trivial
  fitAs_after _ _ := trivial
  made_after _ _ := trivial
  may_item hmay _ hlead _ _ hget :=
    hmay.move fun _ hg => (hg.trans_left hlead.moves).tail (.part (.items hget))
  may_object hmay _ hlead _ _ := hmay.move fun _ hg => hg.trans_left hlead.moves
  may_property hmay _ _ hp := hmay.move fun _ hg => hg.tail (.part (.property hp))
  may_union hmay hg hlead _ _ _ :=
    (hmay.move fun _ hg => hg.trans_left hlead.moves).enter (hg.trans hlead.reaches)
  may_branch hmay _ hb hlead := hmay.move fun _ hg =>
    (Relation.TransGen.tail' hg (.part (.branch hb))).trans_left hlead.moves
  aside hs h := ⟨h.view.trans hs, .of_eq h.pending h.inProgress⟩
  refer hs _ _ := ⟨hs, .of_eq rfl rfl⟩
  mark _ _ hs := hs
  unmark _ hs := hs
  unmark_after _ _ _ h := ⟨h.pending.unmark, h.inProgress⟩
  enter _ hs := hs
  leave {_ s s' g name id} hs _ _ _ _ _ _ _ h := by
    refine ⟨hs, h.pending, fun l hl => ?_⟩
    obtain ⟨hmem, hne⟩ := List.mem_filter.1 hl
    exact (List.mem_cons.1 (h.inProgress hmem)).resolve_left (bne_iff_ne.1 hne)
  reserve _ hs := ⟨hs, .of_eq rfl rfl⟩
  declare _ hs _ _ _ := ⟨hs, .of_eq rfl rfl⟩
  model hs _ _ _ _ _ _ := ⟨hs, .of_eq rfl rfl, trivial⟩
  settle hs _ _ _ := ⟨hs, .of_eq rfl rfl⟩
  union hs _ _ _ _ := ⟨hs, .of_eq rfl rfl, trivial⟩
  fit_made _ := trivial
  back _ _ _ _ _ := trivial
  cached _ _ _ := trivial
  kept _ _ _ _ := trivial
  fit_literal _ _ := trivial
  fit_anyBranch _ _ := trivial
  fit_untyped _ _ := trivial
  fit_options _ _ _ _ := trivial
  fitAs_plain _ _ _ _ := trivial
  fitAs_array _ _ _ := trivial
  fitAs_object _ _ _ := trivial
  fitAs_handle _ _ _ _ := trivial

/-- A generation calls a union recursive only if its location was marked before or the union comes
back to itself. -/
theorem recurs_or_marked {base : String}
    (h : ((generate mode base f).run s).1 = .error (.generation (.recursiveUnion l))) :
    l ∈ s.inProgress ∨ Recurs s.store.view f l := by
  let R := recursionRegime mode s.store.view f s.inProgress
  have hbefore (t : Fragment) {marks : List String} (hm : marks ⊆ s.inProgress) :
      OnTheWay s.store.view f s.inProgress (Relation.TransGen (Moves s.store.view)) marks t :=
    fun _ hl => .inl (hm hl)
  obtain ⟨-, -, herr⟩ := R.obeys_generation base .refl (fun _ _ => trivial)
    (fun t s' _ (hafter : Unmarked s s') hmem l he => by
      cases he
      exact .inl (hafter.inProgress hmem))
    (fun t s' hlead (hafter : Unmarked s s') _ _ =>
      (hbefore t hafter.inProgress).enter hlead.reaches) rfl
  rw [(generate_run mode base f s).1] at h
  exact herr _ h l rfl

/-! ## Sessions -/

/-- The states of a session on one generator, and whether a step failed that was not rolled back,
with no roll-back since. -/
inductive History : Bool → Generation → Prop
  /-- Nothing was done yet. -/
  | fresh (store : Store) : History false { store }
  /-- A document is added. -/
  | added {failed : Bool} {s : Generation} (uri : String) (content : Json) : History failed s →
      History failed { s with store := s.store.add uri content }
  /-- A union is generated. -/
  | generated {failed : Bool} {s s' : Generation} {mode : Mode} {base : String} {f : Fragment}
      {id : TypeId} : History failed s → (generate mode base f).run s = (.ok id, s') →
      History failed s'
  /-- A generation ends in a generation error. -/
  | rolledBack {failed : Bool} {s s' : Generation} {mode : Mode} {base : String} {f : Fragment}
      {e : GenerationError} : History failed s →
      (generate mode base f).run s = (.error (.generation e), s') → History false s'
  /-- A generation ends in another failure. -/
  | escaped {failed : Bool} {s s' : Generation} {mode : Mode} {base : String} {f : Fragment}
      {e : Failure} : History failed s → (generate mode base f).run s = (.error e, s') →
      (∀ e', e ≠ .generation e') → History true s'
  /-- A fragment is compiled. -/
  | compiled {failed : Bool} {s s' : Generation} {mode : Mode} {name : String} {f : Fragment}
      {h : Handle} : History failed s → (compileModel mode name f).run s = (.ok h, s') →
      History failed s'
  /-- A compilation fails. -/
  | uncompiled {failed : Bool} {s s' : Generation} {mode : Mode} {name : String} {f : Fragment}
      {e : Failure} : History failed s → (compileModel mode name f).run s = (.error e, s') →
      History true s'

/-- Where each failed step was rolled back, or a roll-back came later, no marks are left. -/
theorem History.inProgress_eq_nil {failed : Bool} (hs : History failed s) (hf : failed = false) :
    s.inProgress = [] := by
  induction hs with
  | fresh store => rfl
  | added uri content hs ih => exact ih hf
  | @generated failed s s' mode base f id hs hr ih =>
    obtain ⟨calls, hc⟩ := exists_makes mode base f s
    obtain ⟨hresult, hstate⟩ := generate_run mode base f s
    unfold Makes at hc
    rw [← hresult, hr] at hc hstate
    dsimp only at hstate
    rw [hstate]
    exact (Course.inProgress_of_none hc rfl).trans (ih hf)
  | @rolledBack failed s s' mode base f e hs hr ih =>
    obtain ⟨hresult, hstate⟩ := generate_run mode base f s
    rw [← hresult, hr] at hstate
    dsimp only at hstate
    rw [hstate]
    rfl
  | escaped => cases hf
  | @compiled failed s s' mode name f h hs hr ih =>
    obtain ⟨calls, hc⟩ := exists_course_compileModel mode name f s
    rw [hr] at hc
    exact (Course.inProgress_of_none hc rfl).trans (ih hf)
  | uncompiled => cases hf

/-- In a session a generation calls a union recursive only if the union comes back to itself, or if
a failed step that was not rolled back left its location marked.  Then every generation of a union
at this location that is not kept fails so, whether it comes back to itself or not. -/
theorem History.recurs_of_generate {failed : Bool} (hs : History failed s) (mode : Mode)
    (base : String) (f : Fragment) :
    (∀ l, ((generate mode base f).run s).1 = .error (.generation (.recursiveUnion l)) →
      failed = true ∧ l ∈ s.inProgress ∨ Recurs s.store.view f l) ∧
    (∀ t, LeadsTo s.store.view f t → Entries.get? s.unions t.location = none →
      t.location ∈ s.inProgress →
      ((generate mode base f).run s).1 = .error (.generation (.recursiveUnion t.location))) ∧
    (Coherent s.store.view f → ∀ l, Recurs s.store.view f l →
      ∃ t, Reaches s.store.view f t ∧ t.location = l ∧ t.hasOneOf = true ∧
        Relation.TransGen (Moves s.store.view) t t) := by
  refine ⟨fun l h => ?_, fun t hlead hunions hmem => ?_,
    fun hcoherent l h => h.exists_cycle hcoherent⟩
  · rcases recurs_or_marked h with hmem | hrecurs
    · refine .inl ⟨?_, hmem⟩
      cases failed with
      | true => rfl
      | false =>
        rw [hs.inProgress_eq_nil rfl] at hmem
        cases hmem
    · exact .inr hrecurs
  · have hresolve : (Generating.onStore (resolve f)).run s =
        (.ok t, { s with store := ((resolve f).run s.store).2 }) := by
      rw [Generating.run_onStore, leadsTo_iff.1 hlead]
    rw [(generate_run mode base f s).1]
    unfold unionOf
    rw [run_bind_ok hresolve]
    unfold unionAtTarget
    rw [run_bind_ok (run_get _)]
    dsimp only
    rw [hunions]
    dsimp only
    rw [if_pos (List.contains_iff_mem.2 hmem)]
    rfl

/-! ## A ring and a mark that is left -/

/-- A choice with one kind of record, whose next is the choice again. -/
def ringRoot : Fragment where
  content := .obj [("oneOf", .arr [.obj [("type", .str "object"),
    ("properties", .obj [("next", .obj [("$ref", .str "#")])])]])]
  document := "memory:///schema.json"
  pointer := ""

/-- The state of a generator whose store holds the choice. -/
def ringState : Generation where
  store := .empty (onlyDocument ringRoot.document ringRoot.content)

/-- Whether a union at a location is called recursive. -/
def isRecursiveAt (location : String) (r : Except Failure TypeId) : Bool :=
  match r with
  | .error (.generation (.recursiveUnion l)) => l == location
  | _ => false

theorem eq_error_of_isRecursiveAt {r : Except Failure TypeId} (h : isRecursiveAt l r = true) :
    r = .error (.generation (.recursiveUnion l)) := by
  unfold isRecursiveAt at h
  split at h
  · rw [eq_of_beq h]
  · cases h

theorem recurs_of_generate_ringRoot : History false ringState ∧
    ((generate { config := {} } "ring" ringRoot).run ringState).1 =
      .error (.generation (.recursiveUnion ringRoot.location)) ∧
    Recurs ringState.store.view ringRoot ringRoot.location := by
  have hfresh : History false ringState := .fresh ringState.store
  have hrun := eq_error_of_isRecursiveAt (l := ringRoot.location)
    (r := ((generate { config := {} } "ring" ringRoot).run ringState).1) (by decide +kernel)
  refine ⟨hfresh, hrun, ?_⟩
  rcases (hfresh.recurs_of_generate { config := {} } "ring" ringRoot).1 _ hrun with
    ⟨hfailed, -⟩ | hrecurs
  · cases hfailed
  · exact hrecurs

/-- A property that may be a text only, said by a choice. -/
def loneChoice : Fragment where
  content := .obj [("oneOf", .arr [.obj [("type", .str "string")]])]
  document := "memory:///schema.json"
  pointer := "/properties/p"

/-- The object with this property. -/
def loneRecord : Fragment where
  content := .obj [("type", .str "object"), ("properties", .obj [("p", loneChoice.content)])]
  document := "memory:///schema.json"
  pointer := ""

/-- After the compilation of the object has failed, the choice is called recursive, although no move
leads back to it. -/
theorem exists_recursive_mark : ∃ s, History true s ∧ loneChoice ∈ loneRecord.parts ∧
    ((generate { config := {} } "p" loneChoice).run s).1 =
      .error (.generation (.recursiveUnion loneChoice.location)) ∧
    ∀ l, ¬Recurs s.store.view loneChoice l := by
  let start : Generation := { store := .empty fun _ => .unavailable "" }
  let r := (compileModel { config := {} } "Record" loneRecord).run start
  have htest : (r.1.toOption.isNone &&
      isRecursiveAt loneChoice.location
        ((generate { config := {} } "p" loneChoice).run r.2).1) = true := by
    decide +kernel
  obtain ⟨hfails, hrecursive⟩ := Bool.and_eq_true_iff.1 htest
  obtain ⟨calls, hcourse⟩ := exists_course_compileModel { config := {} } "Record" loneRecord start
  have hview : r.2.store.view = start.store.view := hcourse.view
  have hnone : ∀ uri j, r.2.store.view uri ≠ .content j := by
    intro uri j h
    rw [hview] at h
    cases h
  have hstart : History true r.2 := by
    rcases hr : r with ⟨e | h, s'⟩
    · exact (History.fresh start.store).uncompiled hr
    · rw [hr] at hfails
      cases hfails
  refine ⟨r.2, hstart, List.mem_cons_self, eq_error_of_isRecursiveAt hrecursive, fun l h => ?_⟩
  obtain ⟨t, -, -, -, hcycle⟩ := h.exists_cycle
    (coherent_of_levels (n := 2) hnone (by decide +kernel) (by decide +kernel))
  obtain ⟨g, hmove, hback⟩ := Relation.TransGen.head'_iff.1 hcycle
  cases hmove with
  | part hp =>
    exact absurd ((reaches_iff_moves.2 hback).sizeOf_le hnone) (Nat.not_le.2 hp.sizeOf_lt)
  | hop hh =>
    obtain ⟨root, hroot, -⟩ := hh.exists_document
    exact hnone _ _ hroot

end ShapeSum
