import Mathlib.Data.Set.Card
import ShapeSum.Proofs.Generation.Obeying

/-!
# How deep compilations are nested

The recursion through the types of properties is not structural, since references lead
back.  Each way round has a guard of its own: an object is marked while it is compiled,
a union while it is generated, and a chain of references remembers where it passed.  Only
items have none.  So a fragment that is inside itself through items alone is followed for
ever (`tooDeep_of_endless`), and nothing else is: with finitely many documents one depth
suffices for all states and settings (`exists_depth`).

The depth is a budget of three digits: the locations where a union may still be
generated, the locations that may still be marked, and how long the items of a fragment
can be followed.  A step takes one from a digit and may fill up those behind it.
-/

namespace ShapeSum

variable {mode : Mode} {view : String → Fetch} {f : Fragment}

/-! ## Budgets -/

/-- The value of three digits, of which the last two are at most `n` and `m`. -/
def budget (n m u p a : Nat) : Nat := u * ((n + 1) * (m + 1)) + (p * (m + 1) + a)

theorem digits_lt {m p a p' a' : Nat} (hp : p' < p) (ha : a' ≤ m) :
    p' * (m + 1) + a' < p * (m + 1) + a :=
  calc p' * (m + 1) + a' < p' * (m + 1) + (m + 1) := by omega
    _ = (p' + 1) * (m + 1) := (Nat.succ_mul _ _).symm
    _ ≤ p * (m + 1) := Nat.mul_le_mul_right _ hp
    _ ≤ p * (m + 1) + a := Nat.le_add_right _ _

theorem budget_lt_of_first {n m u p a u' p' a' : Nat} (hu : u' < u) (hp : p' ≤ n) (ha : a' ≤ m) :
    budget n m u' p' a' < budget n m u p a :=
  calc budget n m u' p' a'
    _ < u' * ((n + 1) * (m + 1)) + ((n + 1) * (m + 1) + 0) :=
      Nat.add_lt_add_left (digits_lt (Nat.lt_succ_of_le hp) ha) _
    _ = (u' + 1) * ((n + 1) * (m + 1)) := (Nat.succ_mul _ _).symm
    _ ≤ u * ((n + 1) * (m + 1)) := Nat.mul_le_mul_right _ hu
    _ ≤ budget n m u p a := Nat.le_add_right _ _

theorem budget_lt_of_second {n m u p a p' a' : Nat} (hp : p' < p) (ha : a' ≤ m) :
    budget n m u p' a' < budget n m u p a :=
  Nat.add_lt_add_left (digits_lt hp ha) _

theorem budget_lt_of_third {n m u p a a' : Nat} (ha : a' < a) :
    budget n m u p a' < budget n m u p a :=
  Nat.add_lt_add_left (Nat.add_lt_add_left ha _) _

theorem budget_mono {n m u p a u' p' a' : Nat} (hu : u' ≤ u) (hp : p' ≤ p) (ha : a' ≤ a) :
    budget n m u' p' a' ≤ budget n m u p a :=
  Nat.add_le_add (Nat.mul_le_mul_right _ hu)
    (Nat.add_le_add (Nat.mul_le_mul_right _ hp) ha)

/-! ## What is counted -/

/-- A fragment says what the items are of what another fragment stands for. -/
def ItemsOf (view : String → Fetch) (g h : Fragment) : Prop :=
  ∃ t ms, LeadsTo view g t ∧ t.IsTyped ∧ "array" ∈ t.types ∧ t.get? "items" = some (.obj ms) ∧
    h = t.part "items" (.obj ms)

theorem ItemsOf.reaches {g h : Fragment} (hi : ItemsOf view g h) : Reaches view g h := by
  obtain ⟨t, ms, hlead, -, -, hget, rfl⟩ := hi
  exact hlead.reaches.part (.items hget)

theorem reaches_of_transGen {g h : Fragment} (hi : Relation.TransGen (ItemsOf view) g h) :
    Reaches view g h := by
  induction hi with
  | single hi => exact hi.reaches
  | tail _ hi ih => exact ih.trans hi.reaches

/-- The locations in reach. -/
def locationsFrom (view : String → Fetch) (f : Fragment) : Set String :=
  Fragment.location '' {g | Reaches view f g}

/-- The locations in reach where a union may still be generated. -/
def ungenerated (view : String → Fetch) (f : Fragment) (s : Generation) : Set String :=
  {l | l ∈ locationsFrom view f ∧ Entries.get? s.unions l = none ∧ l ∉ s.inProgress}

/-- The locations in reach that may still be marked. -/
def unmarked (view : String → Fetch) (f : Fragment) (s : Generation) : Set String :=
  {l | l ∈ locationsFrom view f ∧ Entries.has s.pending l = false}

/-- The fragments that are reached along items. -/
def alongItems (view : String → Fetch) (g : Fragment) : Set Fragment :=
  {h | Relation.TransGen (ItemsOf view) g h}

/-- A chain of references from a fragment in reach is cut off at the limit of hops. -/
def Overlong (view : String → Fetch) (f : Fragment) : Prop :=
  ∃ g, Reaches view f g ∧ ((resolveChain g).run (Store.empty view)).1 = .error .tooDeep

/-- No fragment in reach is inside itself through items alone. -/
def ItemsEnd (view : String → Fetch) (f : Fragment) : Prop :=
  ∀ g, Reaches view f g → ¬Relation.TransGen (ItemsOf view) g g

section Counting

variable {s s' : Generation} {g h : Fragment} (hfinite : {g | Reaches view f g}.Finite)

include hfinite

theorem finite_locationsFrom : (locationsFrom view f).Finite := hfinite.image _

theorem finite_ungenerated (s : Generation) : (ungenerated view f s).Finite :=
  (finite_locationsFrom hfinite).subset fun _ h => h.1

theorem finite_unmarked (s : Generation) : (unmarked view f s).Finite :=
  (finite_locationsFrom hfinite).subset fun _ h => h.1

theorem ncard_unmarked_le (s : Generation) :
    (unmarked view f s).ncard ≤ (locationsFrom view f).ncard :=
  Set.ncard_le_ncard (fun _ h => h.1) (finite_locationsFrom hfinite)

theorem finite_alongItems (hg : Reaches view f g) : (alongItems view g).Finite :=
  hfinite.subset fun _ h => hg.trans (reaches_of_transGen h)

theorem ncard_alongItems_le (hg : Reaches view f g) :
    (alongItems view g).ncard ≤ {g | Reaches view f g}.ncard :=
  Set.ncard_le_ncard (fun _ h => hg.trans (reaches_of_transGen h)) hfinite

/-- Following items leaves fewer to follow, if no fragment comes back. -/
theorem ncard_alongItems_lt (hend : ItemsEnd view f) (hg : Reaches view f g)
    (hi : ItemsOf view g h) : (alongItems view h).ncard < (alongItems view g).ncard := by
  refine Set.ncard_lt_ncard ⟨fun k hk => .head hi hk, fun hsub => ?_⟩
    (finite_alongItems hfinite hg)
  exact hend h (hg.trans hi.reaches) (hsub (.single hi))

end Counting

/-! ## The regime -/

section Ranks

variable {s s' s'' : Generation}

/-- Between the states before and after, no location is marked anew, and no union may be generated
that could not be before.  If none was generated, marks are the same again. -/
structure Spent (view : String → Fetch) (f : Fragment) (strict : Bool) (s s' : Generation) :
    Prop where
  pending : MarksNoMore s s'
  unions : ungenerated view f s' ⊆ ungenerated view f s
  marks : strict = true → ungenerated view f s' = ungenerated view f s →
    ∀ l, Entries.has s'.pending l = Entries.has s.pending l

theorem Spent.refl (strict : Bool) (s : Generation) : Spent view f strict s s :=
  ⟨.of_eq rfl, subset_rfl, fun _ _ _ => rfl⟩

/-- Nothing is spent where unions and marks are the same. -/
theorem Spent.of_eq (strict : Bool) (hu : s'.unions = s.unions)
    (hi : s'.inProgress = s.inProgress) (hp : s'.pending = s.pending) :
    Spent view f strict s s' := by
  refine ⟨.of_eq hp, fun l hl => ?_, fun _ _ l => by rw [hp]⟩
  obtain ⟨hl, hget, hprogress⟩ := hl
  exact ⟨hl, hu ▸ hget, hi ▸ hprogress⟩

theorem Spent.trans {strict : Bool} (h : Spent view f strict s s')
    (h' : Spent view f strict s' s'') : Spent view f strict s s'' := by
  refine ⟨h.pending.trans h'.pending, h'.unions.trans h.unions,
    fun hstrict he l => ?_⟩
  have he' : ungenerated view f s' = ungenerated view f s :=
    h.unions.antisymm (he ▸ h'.unions)
  exact (h'.marks hstrict (he.trans he'.symm) l).trans (h.marks hstrict he' l)

/-- When a mark is taken away again, the marks are as before it was set, if it was not set then. -/
theorem Spent.unmark {strict : Bool} {location name : String}
    (hfree : strict = true → Entries.has s.pending location = false)
    (h : Spent view f true (s.mark location name) s') :
    Spent view f strict s (s'.unmark location) := by
  refine ⟨h.pending.unmark, h.unions, fun hstrict he l => ?_⟩
  have hsame := h.marks rfl he l
  rw [Bool.eq_iff_iff, has_unmark, hsame, has_mark]
  constructor
  · rintro ⟨hne, hl | hl⟩
    · exact absurd hl hne
    · exact hl
  · intro hl
    refine ⟨?_, .inr hl⟩
    rintro rfl
    rw [hfree hstrict] at hl
    cases hl

/-- When a union was generated, none may be generated at its location any more. -/
theorem Spent.leave {t : Fragment} {name : String} {id : TypeId} (ht : Reaches view f t)
    (hunions : Entries.get? s.unions t.location = none) (hprogress : t.location ∉ s.inProgress)
    (h : Spent view f false (s.enter t.location) s') :
    Spent view f true s (s'.leave name id t) := by
  have hset (l : String) : Entries.get? (s'.leave name id t).unions l =
      if t.location = l then some id else Entries.get? s'.unions l :=
    Entries.get?_set _ _ _ _
  have hsub : ungenerated view f (s'.leave name id t) ⊆ ungenerated view f s \ {t.location} := by
    rintro l ⟨hl, hget, hfree⟩
    rw [hset] at hget
    split at hget
    · cases hget
    · rename_i hne
      have hfree' : l ∉ s'.inProgress := fun hmem =>
        hfree (List.mem_filter.2 ⟨hmem, bne_iff_ne.2 fun he => hne he.symm⟩)
      obtain ⟨-, hget', hfree''⟩ := h.unions ⟨hl, hget, hfree'⟩
      exact ⟨⟨hl, hget', fun hmem => hfree'' (List.mem_cons_of_mem _ hmem)⟩,
        fun he => hne he.symm⟩
  refine ⟨h.pending, hsub.trans Set.sdiff_subset, fun _ he => ?_⟩
  have hmem : t.location ∈ ungenerated view f s := ⟨⟨t, ht, rfl⟩, hunions, hprogress⟩
  rw [← he] at hmem
  exact absurd rfl (hsub hmem).2

/-- How deep the types of properties may still be nested in a state. -/
noncomputable def rank (view : String → Fetch) (f : Fragment) (s : Generation) (g : Fragment) :
    Nat :=
  budget (locationsFrom view f).ncard {g | Reaches view f g}.ncard
    (ungenerated view f s).ncard (unmarked view f s).ncard (alongItems view g).ncard

/-- How deep they may be nested when a location is marked. -/
noncomputable def rankMarked (view : String → Fetch) (f : Fragment) (s : Generation)
    (location : String) : Nat :=
  budget (locationsFrom view f).ncard {g | Reaches view f g}.ncard
    (ungenerated view f s).ncard (unmarked view f s \ {location}).ncard
    {g | Reaches view f g}.ncard

/-- How deep they may be nested inside a union. -/
noncomputable def rankInside (view : String → Fetch) (f : Fragment) (s : Generation) : Nat :=
  budget (locationsFrom view f).ncard {g | Reaches view f g}.ncard
    (ungenerated view f s).ncard (locationsFrom view f).ncard {g | Reaches view f g}.ncard

variable {g h t : Fragment} (hfinite : {g | Reaches view f g}.Finite)

include hfinite

/-- What is spent strictly does not raise a budget that falls with the unions or with the marks. -/
theorem Spent.budget_le (h : Spent view f true s s') {p p' a : Nat}
    (hp : p' ≤ (locationsFrom view f).ncard) (ha : a ≤ {g | Reaches view f g}.ncard)
    (hsame : (∀ l, Entries.has s'.pending l = Entries.has s.pending l) → p' ≤ p) :
    budget (locationsFrom view f).ncard {g | Reaches view f g}.ncard
        (ungenerated view f s').ncard p' a ≤
      budget (locationsFrom view f).ncard {g | Reaches view f g}.ncard
        (ungenerated view f s).ncard p a := by
  by_cases he : ungenerated view f s' = ungenerated view f s
  · rw [he]
    exact budget_mono le_rfl (hsame (h.marks rfl he)) le_rfl
  · have hlt : (ungenerated view f s').ncard < (ungenerated view f s).ncard :=
      Set.ncard_lt_ncard (h.unions.ssubset_of_ne he) (finite_ungenerated hfinite s)
    exact (budget_lt_of_first hlt hp ha).le

theorem Spent.rank_le (h : Spent view f true s s') (hg : Reaches view f g) :
    rank view f s' g ≤ rank view f s g := by
  refine h.budget_le hfinite (ncard_unmarked_le hfinite s') (ncard_alongItems_le hfinite hg)
    fun hsame => le_of_eq ?_
  unfold unmarked
  simp only [hsame]

theorem Spent.rankMarked_le (h : Spent view f true s s') (location : String) :
    rankMarked view f s' location ≤ rankMarked view f s location := by
  refine h.budget_le hfinite ?_ le_rfl fun hsame => le_of_eq ?_
  · exact (Set.ncard_sdiff_singleton_le _ _).trans (ncard_unmarked_le hfinite s')
  · unfold unmarked
    simp only [hsame]

theorem Spent.rankInside_le (h : Spent view f false s s') :
    rankInside view f s' ≤ rankInside view f s :=
  budget_mono (Set.ncard_le_ncard h.unions (finite_ungenerated hfinite s)) le_rfl le_rfl

theorem rank_items_lt (hend : ItemsEnd view f) (hg : Reaches view f g) (hi : ItemsOf view g h) :
    rank view f s h < rank view f s g :=
  budget_lt_of_third (ncard_alongItems_lt hfinite hend hg hi)

/-- Marking a location that is not marked takes it from those that may be. -/
theorem rankMarked_lt (ht : Reaches view f t) (hfree : Entries.has s.pending t.location = false)
    (g : Fragment) : rankMarked view f s t.location < rank view f s g := by
  refine budget_lt_of_second ?_ le_rfl
  exact Set.ncard_sdiff_singleton_lt_of_mem ⟨⟨t, ht, rfl⟩, hfree⟩ (finite_unmarked hfinite s)

theorem rank_mark_le (hg : Reaches view f g) (location name : String) :
    rank view f (s.mark location name) g ≤ rankMarked view f s location := by
  refine budget_mono le_rfl (Set.ncard_le_ncard (fun l hl => ?_)
    ((finite_unmarked hfinite s).subset Set.sdiff_subset)) (ncard_alongItems_le hfinite hg)
  obtain ⟨hl, hp⟩ := hl
  have hnot : ¬(l = location ∨ Entries.has s.pending l = true) := by
    rw [← has_mark]
    exact Bool.eq_false_iff.1 hp
  exact ⟨⟨hl, Bool.eq_false_iff.2 fun h => hnot (.inr h)⟩, fun h => hnot (.inl h)⟩

/-- Generating a union takes its location from those where one may be. -/
theorem rankInside_enter_lt (ht : Reaches view f t)
    (hunions : Entries.get? s.unions t.location = none) (hprogress : t.location ∉ s.inProgress)
    (g : Fragment) : rankInside view f (s.enter t.location) < rank view f s g := by
  refine budget_lt_of_first (Set.ncard_lt_ncard ⟨fun l hl => ?_, fun hsub => ?_⟩
    (finite_ungenerated hfinite s)) le_rfl le_rfl
  · exact ⟨hl.1, hl.2.1, fun h => hl.2.2 (List.mem_cons_of_mem _ h)⟩
  · exact (hsub ⟨⟨t, ht, rfl⟩, hunions, hprogress⟩).2.2 List.mem_cons_self

theorem rankMarked_le_rankInside (location : String) :
    rankMarked view f s location ≤ rankInside view f s :=
  budget_mono le_rfl ((Set.ncard_sdiff_singleton_le _ _).trans (ncard_unmarked_le hfinite s)) le_rfl

end Ranks

/-- Types are found within the depth that the rank of a fragment says, unless a chain of references
is cut off. -/
def nestingRegime (mode : Mode) (hfinite : {g | Reaches view f g}.Finite)
    (hend : ItemsEnd view f) : Regime mode view where
  Known g := Reaches view f g
  Good s := s.store.view = view
  After := Spent view f
  Err e := e = .tooDeep → Overlong view f
  New _ := True
  May d s g := rank view f s g < d
  MayCompile d s t := rankMarked view f s t.location < d
  MayBranch d s _ := rankInside view f s < d
  Fit _ _ _ := True
  FitAs _ _ _ _ := True
  Made _ _ _ := True
  known_part := Reaches.part
  known_leads := Reaches.leads
  new _ _ _ := trivial
  failure he h := by
    subst h
    cases he
  unresolved hg herr he := ⟨_, hg, he ▸ herr⟩
  tooDeep h := absurd h (Nat.not_lt_zero _)
  recursive _ _ _ _ _ h := nomatch h
  view_eq h := h
  after_refl := Spent.refl
  after_trans := Spent.trans
  after_of_strict h := ⟨h.pending, h.unions, fun _ => h.marks rfl⟩
  pending_after h := h.pending _
  may_after hg h hafter := (hafter.rank_le hfinite hg).trans_lt h
  mayCompile_after h hafter := (hafter.rankMarked_le hfinite _).trans_lt h
  mayBranch_after h hafter := (hafter.rankInside_le hfinite).trans_lt h
  fit_after _ _ := trivial
  fitAs_after _ _ := trivial
  made_after _ _ := trivial
  may_item hmay hg hlead ht harray hget :=
    Nat.lt_of_lt_of_le (rank_items_lt hfinite hend hg ⟨_, _, hlead, ht, harray, hget, rfl⟩)
      (Nat.le_of_lt_succ hmay)
  may_object hmay hg hlead _ hfree :=
    Nat.lt_of_lt_of_le (rankMarked_lt hfinite (hg.trans hlead.reaches) hfree _)
      (Nat.le_of_lt_succ hmay)
  may_property hmay ht _ hp := (rank_mark_le hfinite (ht.part (.property hp)) _ _).trans_lt hmay
  may_union hmay hg hlead _ hunions hprogress :=
    Nat.lt_of_lt_of_le
      (rankInside_enter_lt hfinite (hg.trans hlead.reaches) hunions hprogress _)
      (Nat.le_of_lt_succ hmay)
  may_branch hmay _ _ _ := (rankMarked_le_rankInside hfinite _).trans_lt hmay
  aside hs h := ⟨h.view.trans hs, .of_eq _ h.unions h.inProgress h.pending⟩
  refer hs _ _ := ⟨hs, .of_eq _ rfl rfl rfl⟩
  mark _ _ hs := hs
  unmark _ hs := hs
  unmark_after _ _ hfree h := h.unmark hfree
  enter _ hs := hs
  leave hs hg _ _ _ _ hunions hprogress h := ⟨hs, h.leave hg hunions hprogress⟩
  reserve _ hs := ⟨hs, .of_eq _ rfl rfl rfl⟩
  declare _ hs _ _ _ := ⟨hs, .of_eq _ rfl rfl rfl⟩
  model hs _ _ _ _ _ _ := ⟨hs, .of_eq _ rfl rfl rfl, trivial⟩
  settle hs _ _ _ := ⟨hs, .of_eq _ rfl rfl rfl⟩
  union hs _ _ _ _ := ⟨hs, .of_eq _ rfl rfl rfl, trivial⟩
  fit_made _ := trivial
  back _ _ _ _ _ := trivial
  cached _ _ _ := trivial
  kept _ _ _ _ := trivial
  fit_literal _ _ := trivial
  fit_anyBranch _ _ := trivial
  fit_untyped _ _ := trivial
  fit_options _ _ _ _ := trivial
  fitAs_plain _ _ _ _ := trivial
  fitAs_array _ _ _ := trivial
  fitAs_object _ _ _ := trivial
  fitAs_handle _ _ _ _ := trivial

/-! ## A depth that suffices -/

/-- If finitely many documents can be had and no fragment in reach is inside itself through items
alone, one depth suffices for all generations and compilations of a fragment, whatever the settings
and the state; unless a chain of references is cut off at the limit of hops. -/
theorem exists_depth (hview : {uri | ∃ j, view uri = .content j}.Finite) (f : Fragment)
    (hend : ItemsEnd view f) :
    ∃ depth, ∀ (mode : Mode) (s : Generation), depth ≤ mode.depth → s.store.view = view →
      (∀ base, ((generate mode base f).run s).1 = .error .tooDeep → Overlong view f) ∧
      ∀ name, ((compileModel mode name f).run s).1 = .error .tooDeep → Overlong view f := by
  have hfinite := finite_reaches hview f
  refine ⟨budget (locationsFrom view f).ncard {g | Reaches view f g}.ncard
    (locationsFrom view f).ncard (locationsFrom view f).ncard {g | Reaches view f g}.ncard + 1,
    fun mode s hdepth hs => ?_⟩
  have hinside (s : Generation) : rankInside view f s < mode.depth := by
    refine Nat.lt_of_lt_of_le (Nat.lt_succ_of_le (budget_mono ?_ le_rfl le_rfl)) hdepth
    exact Set.ncard_le_ncard (fun _ h => h.1) (finite_locationsFrom hfinite)
  constructor
  · intro base he
    rw [(generate_run mode base f s).1] at he
    obtain ⟨-, -, herr⟩ := (nestingRegime mode hfinite hend).obeys_generation base .refl
      (fun _ _ => trivial) (fun _ _ _ _ _ h => nomatch h) (fun t s' _ _ _ _ => hinside _) hs
    exact herr _ he rfl
  · intro name he
    obtain ⟨-, -, herr⟩ := (nestingRegime mode hfinite hend).obeys_compileModel name .refl
      ((rankMarked_le_rankInside hfinite _).trans_lt (hinside s)) hs
    exact herr _ he rfl

/-! ## A tree of objects -/

/-- A schema of trees: an object has a list of children, and each of them is a tree. -/
def treeDocument : Json :=
  .obj [("type", .str "object"), ("properties", .obj [("children", .obj
    [("type", .str "array"), ("items", .obj [("$ref", .str "#")])])])]

/-- The schema of trees is the only document. -/
def treeView : String → Fetch := onlyDocument "memory:///tree.json" treeDocument

/-- The schema of trees at the root of its document. -/
def treeRoot : Fragment := ⟨treeDocument, "memory:///tree.json", ""⟩

theorem reaches_treeRoot {g : Fragment} (h : Reaches treeView treeRoot g) :
    g.content ∈ treeDocument.inner ∧ g.document = "memory:///tree.json" := by
  obtain ⟨hc, hd⟩ := h.mem_from
  constructor
  · obtain ⟨j, rfl | ⟨uri, hj⟩, hw⟩ := Set.mem_iUnion₂.1 hc
    · exact hw.mem_inner
    · exact (eq_of_onlyDocument hj).2 ▸ hw.mem_inner
  · obtain hd | ⟨j, hj⟩ := hd
    · exact hd
    · exact (eq_of_onlyDocument hj).1

/-- Children are trees, which are no arrays. -/
theorem itemsEnd_treeRoot : ItemsEnd treeView treeRoot := by
  have hstep {g h : Fragment} (hg : Reaches treeView treeRoot g) (hi : ItemsOf treeView g h) :
      h.ref = some "#" := by
    obtain ⟨t, ms, hlead, -, -, hget, rfl⟩ := hi
    have hmem := (reaches_treeRoot (hg.trans hlead.reaches)).1
    have hall : ∀ x ∈ treeDocument.inner, ∀ y ∈ x.get? "items",
        (y.get? "$ref").bind Json.text? = some "#" := by
      decide +kernel
    exact hall _ hmem _ hget
  have hstop {h k : Fragment} (hh : Reaches treeView treeRoot h) (hr : h.ref = some "#") :
      ¬ItemsOf treeView h k := by
    rintro ⟨t, ms, hlead, -, harray, -, -⟩
    have hroot : ((Store.resolveRef "#" ⟨.obj [("$ref", .str "#")], "memory:///tree.json", ""⟩).run
        (Store.empty treeView)).1.toOption.any
          (fun r => decide (r.ref = none ∧ "array" ∉ r.types)) = true := by
      decide +kernel
    obtain ⟨r, hr', htest⟩ := (Option.any_eq_true _ _).1 hroot
    obtain ⟨hrnone, hrtypes⟩ := of_decide_eq_true htest
    have hhop : Hop treeView h r :=
      Hop.congr (f := ⟨.obj [("$ref", .str "#")], "memory:///tree.json", ""⟩)
        ⟨"#", rfl, eq_ok_of_toOption hr'⟩ hr.symm (reaches_treeRoot hh).2.symm
    cases hlead.eq_of_hop hhop hrnone
    exact hrtypes harray
  intro g hg hcycle
  obtain ⟨h, hi, hrest⟩ := Relation.TransGen.head'_iff.1 hcycle
  have hh : Reaches treeView treeRoot h := hg.trans hi.reaches
  have hr := hstep hg hi
  rcases Relation.ReflTransGen.cases_head hrest with rfl | ⟨k, hk, -⟩
  · exact hstop hh hr hi
  · exact hstop hh hr hk

/-- One depth suffices for trees. -/
theorem exists_depth_treeRoot :
    ∃ depth, ∀ (mode : Mode) (s : Generation), depth ≤ mode.depth → s.store.view = treeView →
      (∀ base, ((generate mode base treeRoot).run s).1 = .error .tooDeep →
        Overlong treeView treeRoot) ∧
      ∀ name, ((compileModel mode name treeRoot).run s).1 = .error .tooDeep →
        Overlong treeView treeRoot :=
  exists_depth (finite_onlyDocument _ _) treeRoot itemsEnd_treeRoot

/-! ## Items without end -/

section Endless

variable {C : Set Fragment} {g : Fragment}

/-- Each of some fragments stands for arrays and nothing else, and its items are one of them
again. -/
def Endless (view : String → Fetch) (C : Set Fragment) : Prop :=
  ∀ g ∈ C, ∃ t ms, LeadsTo view g t ∧ t.IsTyped ∧ t.types = ["array"] ∧
    t.get? "items" = some (.obj ms) ∧ t.part "items" (.obj ms) ∈ C

/-- Arrays that are inside themselves are followed for ever: no depth suffices for their type. -/
theorem tooDeep_of_endless (hC : Endless view C) (hg : g ∈ C) (d : Nat) {s : Generation}
    (hs : s.store.view = view)
    (hnew : ∀ g ∈ C, ∀ t, LeadsTo view g t →
      Entries.get? s.pending t.location = none ∧ s.names.typeOf? t = none)
    (property : String) :
    ∃ s', (annotateWithin mode d property g).run s = (.error .tooDeep, s') ∧
      s'.pending = s.pending := by
  induction d generalizing g s with
  | zero => exact ⟨s, rfl, rfl⟩
  | succ d ih =>
    obtain ⟨t, ms, hlead, ht, htypes, hitems, hmem⟩ := hC g hg
    obtain ⟨hpending, htype⟩ := hnew g hg t hlead
    rw [← hs] at hlead
    obtain ⟨c, hc, rfl⟩ := resolve_run_eq_ok_iff.1 (leadsTo_iff.1 hlead)
    -- The items are asked for in the state where the array itself was found.
    let found : Generation := { s with store := ((resolveChain g).run s.store).2 }
    have hview : found.store.view = view := ((transparent_resolveChain g).keeps s.store).trans hs
    obtain ⟨s', hrun, hp⟩ := ih hmem hview hnew
    refine ⟨s', ?_, hp⟩
    have hitem : (itemType (annotateWithin mode d) property c.target).run found =
        (.error .tooDeep, s') := by
      unfold itemType
      rw [hitems]
      exact hrun
    have htypesFor (reference : Option String) :
        (typesFor mode (annotateWithin mode d) property reference c.target ["array"]).run found =
          (.error .tooDeep, s') :=
      run_bind_error (run_bind_error hitem _) _
    have hnewType (reference : Option String) :
        (newType mode (annotateWithin mode d) property reference c.target).run found =
          (.error .tooDeep, s') := by
      unfold newType typeByJsonTypes
      rw [ht.noBranches, ht.noLiterals, htypes]
      exact run_bind_error (htypesFor reference) _
    have hfound : (Generating.onStore (resolveChain g)).run s = (.ok c, found) := by
      rw [Generating.run_onStore, hc]
    show (annotateOnce mode (annotateWithin mode d) property g).run s = _
    unfold annotateOnce
    rw [run_bind_ok hfound, run_bind_ok (run_get found)]
    dsimp only
    rw [hpending, htype]
    exact hnewType _

/-- So is an object whose first property is such an array. -/
theorem compileModel_of_endless (hC : Endless view C) {store : Store} (hs : store.view = view)
    {f : Fragment} {required : List String} {property : String} {rest : List (String × Fragment)}
    (hobject : f.isObject = true) (hrequired : requiredNames f = .ok required)
    (hproperties : f.properties = (property, g) :: rest) (hg : g ∈ C)
    (hnew : ∀ g ∈ C, ∀ t, LeadsTo view g t → t.location ≠ f.location) (name : String) :
    ((compileModel mode name f).run { store }).1 = .error .tooDeep := by
  let marked : Generation := Generation.mark { store } f.location name
  have hfree : ∀ g ∈ C, ∀ t, LeadsTo view g t →
      Entries.get? marked.pending t.location = none ∧ marked.names.typeOf? t = none := by
    intro g hg t hlead
    have hget : Entries.get? marked.pending t.location =
        if f.location = t.location then some name else none := Entries.get?_set _ _ _ _
    exact ⟨hget.trans (if_neg (hnew g hg t hlead).symm), rfl⟩
  obtain ⟨s', hrun, hp⟩ : ∃ s', (annotate mode property g).run marked = (.error .tooDeep, s') ∧
      s'.pending = marked.pending :=
    tooDeep_of_endless hC hg mode.depth hs hfree property
  have hbuild : (buildModel mode (annotate mode) name f).run marked = (.error .tooDeep, s') := by
    have hfields : (compileFields (annotate mode) required [] f.properties).run marked =
        (.error .tooDeep, s') := by
      rw [hproperties]
      exact run_bind_error hrun _
    unfold buildModel
    rw [hrequired]
    exact (run_bind_ok rfl _).trans (run_bind_error hfields _)
  have hmark : Entries.has s'.pending f.location = true := by
    rw [hp]
    exact (Entries.has_set _ _ _ _).2 (.inl rfl)
  have hwhile : (whilePending f.location name (buildModel mode (annotate mode) name f)).run
      { store } = (.error .tooDeep, s'.unmark f.location) := by
    rw [run_whilePending, hbuild]
    exact if_pos hmark
  unfold compileModel compile
  rw [if_pos hobject, run_bind_ok (run_get _)]
  exact congrArg Prod.fst ((run_bind_ok rfl _).trans (run_bind_error hwhile _))

end Endless

/-- An object with a property that is an array of arrays of arrays without end. -/
def endlessDocument : Json :=
  .obj [("definitions", .obj [
    ("o", .obj [("type", .str "object"),
      ("properties", .obj [("p", .obj [("$ref", .str "s.json#/definitions/a")])])]),
    ("a", .obj [("type", .str "array"),
      ("items", .obj [("$ref", .str "s.json#/definitions/a")])])])]

/-- That document is the only one. -/
def endlessView : String → Fetch := onlyDocument "file:///s.json" endlessDocument

/-- A reference to the array, from another place of the document. -/
def RefersToEndless (g : Fragment) : Prop :=
  g.ref = some "s.json#/definitions/a" ∧ g.document = "file:///s.json" ∧
    g.location ≠ "file:///s.json#/definitions/a"

instance (g : Fragment) : Decidable (RefersToEndless g) := inferInstanceAs (Decidable (_ ∧ _ ∧ _))

/-- The items of a fragment refer to the array, from another place of the document. -/
def itemsReferToEndless (t : Fragment) : Bool :=
  match t.get? "items" with
  | some (.obj ms) => decide (RefersToEndless (t.part "items" (.obj ms)))
  | _ => false

theorem of_itemsReferToEndless {t : Fragment} (h : itemsReferToEndless t = true) :
    ∃ ms, t.get? "items" = some (.obj ms) ∧ RefersToEndless (t.part "items" (.obj ms)) := by
  unfold itemsReferToEndless at h
  split at h
  · rename_i ms hget
    exact ⟨ms, hget, of_decide_eq_true h⟩
  · cases h

theorem exists_endlessArray : ∃ t ms, t.location = "file:///s.json#/definitions/a" ∧
    t.types = ["array"] ∧ t.IsTyped ∧ t.get? "items" = some (.obj ms) ∧
    RefersToEndless (t.part "items" (.obj ms)) ∧
    ∀ g, RefersToEndless g → LeadsTo endlessView g t := by
  let g₀ : Fragment := ⟨.obj [("$ref", .str "s.json#/definitions/a")], "file:///s.json", ""⟩
  have h : ((Store.resolveRef "s.json#/definitions/a" g₀).run
      (Store.empty endlessView)).1.toOption.any (fun t =>
        decide (t.location = "file:///s.json#/definitions/a" ∧ t.ref = none ∧
          t.types = ["array"] ∧ t.hasOneOf = false ∧ (literals? t).isNone = true) &&
        itemsReferToEndless t) = true := by
    decide +kernel
  obtain ⟨t, ht, htest⟩ := (Option.any_eq_true _ _).1 h
  obtain ⟨hdecided, hitems⟩ := Bool.and_eq_true_iff.1 htest
  obtain ⟨hlocation, hnone, htypes, hbranches, hliterals⟩ := of_decide_eq_true hdecided
  have hhop : Hop endlessView g₀ t := ⟨_, rfl, eq_ok_of_toOption ht⟩
  obtain ⟨ms, hget, hrefers⟩ := of_itemsReferToEndless hitems
  refine ⟨t, ms, hlocation, htypes, ⟨hbranches, Option.isNone_iff_eq_none.1 hliterals⟩, hget,
    hrefers, fun g hg => ?_⟩
  obtain ⟨href, hdocument, hne⟩ := hg
  exact .of_hop (hhop.congr href.symm hdocument.symm) hnone fun he => hne (he ▸ hlocation)

/-- With one document, the nesting can be endless: no depth suffices for the object. -/
theorem exists_endless : {uri | ∃ j, endlessView uri = .content j}.Finite ∧
    ∃ f, fragmentAt "file:///s.json" endlessDocument "/definitions/o" = .ok f ∧
      f.isObject = true ∧ ∀ depth, ((compileModel { config := {}, depth } "Tree" f).run
        { store := Store.empty endlessView }).1 = .error .tooDeep := by
  have h : (fragmentAt "file:///s.json" endlessDocument "/definitions/o").toOption.any (fun f =>
      decide (f.isObject = true ∧ f.location = "file:///s.json#/definitions/o") &&
      (requiredNames f).toOption.isSome &&
      match f.properties with
      | (_, g) :: _ => decide (RefersToEndless g)
      | [] => false) = true := by
    decide +kernel
  obtain ⟨f, hf, htest⟩ := (Option.any_eq_true _ _).1 h
  obtain ⟨hdecided, hproperties⟩ := Bool.and_eq_true_iff.1 htest
  obtain ⟨hdecided, hrequired⟩ := Bool.and_eq_true_iff.1 hdecided
  obtain ⟨hobject, hlocation⟩ := of_decide_eq_true hdecided
  obtain ⟨required, hrequired⟩ := Option.isSome_iff_exists.1 hrequired
  obtain ⟨t, ms, ht, htypes, htyped, hitems, hmem, hlead⟩ := exists_endlessArray
  have hC : Endless endlessView {g | RefersToEndless g} :=
    fun g hg => ⟨t, ms, hlead g hg, htyped, htypes, hitems, hmem⟩
  refine ⟨finite_onlyDocument _ _, f, eq_ok_of_toOption hf, hobject, fun depth => ?_⟩
  split at hproperties
  · rename_i g rest hfirst
    refine compileModel_of_endless hC rfl hobject (eq_ok_of_toOption hrequired) hfirst
      (of_decide_eq_true hproperties) (fun g hg t' hlead' => ?_) "Tree"
    rw [hlead'.unique (hlead g hg), ht, hlocation]
    decide
  · cases hproperties

end ShapeSum
