import Mathlib.Data.Set.Card
import ShapeSum.Proofs.Schema.Reach

/-!
# Chains of references

A chain of references is found by a loop with no measure of its own.  What bounds it
is that no place comes up twice: the fragments passed form a *trail* with distinct
locations, and finitely many fragments can be reached by references.  So the loop
ends, and in one of three ways: at a fragment that is no reference, at a place it has
passed, or at a reference that leads nowhere.

A location is a text, and two fragments may share one.  Hence a chain can be called
cyclic although its references end.  Where locations tell the fragments apart, the
chain is found exactly when the references end.
-/

namespace ShapeSum

variable {view : String → Fetch} {f g h : Fragment} {trail : List Fragment}

/-! ## References that lead nowhere -/

/-- A reference says under which URI a document is to be had, and the pointer to a fragment of
it. -/
def Names (f : Fragment) (ref uri pointer : String) : Prop :=
  f.ref = some ref ∧ ∃ document escaped, Uri.splitFragment ref.toList = .ok (document, escaped) ∧
    referenceUri f.document document = .ok uri ∧ String.ofList (Uri.unescape escaped) = pointer

/-- The reference that a fragment consists of leads nowhere, for a reason. -/
inductive Stuck (view : String → Fetch) (f : Fragment) : Failure → Prop
  /-- The reference is no URI. -/
  | unreadable {ref : String} {fault : Uri.Fault} : f.ref = some ref →
      Uri.splitFragment ref.toList = .error fault → Stuck view f (.uri fault)
  /-- The reference cannot be told from the document where it stands. -/
  | unjoined {ref : String} {document escaped : List Char} {fault : Uri.Fault} :
      f.ref = some ref → Uri.splitFragment ref.toList = .ok (document, escaped) →
      referenceUri f.document document = .error fault → Stuck view f (.uri fault)
  /-- The document cannot be had. -/
  | unavailable {ref uri pointer reason : String} : Names f ref uri pointer →
      view uri = .unavailable reason →
      Stuck view f (.generation (.unresolvable ref (some f.location) reason))
  /-- The loader broke down. -/
  | broken {ref uri pointer : String} : Names f ref uri pointer → view uri = .broken →
      Stuck view f (.loader uri)
  /-- The document has no such fragment. -/
  | missing {ref uri pointer : String} {root : Json} {fault : StepFault} :
      Names f ref uri pointer → view uri = .content root →
      fragmentAt uri root pointer = .error fault →
      Stuck view f (.generation (.unresolvable ref (some f.location)
        s!"no fragment at segment {fault.message}"))

/-- A reference fails exactly for the reasons listed. -/
theorem stuck_iff {e : Failure} :
    Stuck view f e ↔ ∃ ref, f.ref = some ref ∧
      ((Store.resolveRef ref f).run (Store.empty view)).1 = .error e := by
  have hnames {ref uri pointer : String} (hn : Names f ref uri pointer) :
      ((Store.resolveRef ref f).run (Store.empty view)).1 =
        (((Store.fragment uri pointer).run (Store.empty view)).1).mapError
          (Store.retell ref f.location) := by
    obtain ⟨-, document, escaped, hsplit, huri, rfl⟩ := hn
    rw [run_resolveRef, hsplit]
    dsimp only
    rw [huri]
  have hview : (Store.empty view).view = view := rfl
  constructor
  · intro hs
    cases hs with
    | unreadable href hsplit => exact ⟨_, href, by rw [run_resolveRef, hsplit]⟩
    | unjoined href hsplit huri =>
      exact ⟨_, href, by rw [run_resolveRef, hsplit]; dsimp only; rw [huri]⟩
    | unavailable hn hv =>
      exact ⟨_, hn.1, by rw [hnames hn, run_fragment, hview, hv]; rfl⟩
    | broken hn hv =>
      exact ⟨_, hn.1, by rw [hnames hn, run_fragment, hview, hv]; rfl⟩
    | missing hn hv hm =>
      exact ⟨_, hn.1, by rw [hnames hn, run_fragment, hview, hv]; dsimp only; rw [hm]; rfl⟩
  · rintro ⟨ref, href, hrun⟩
    rw [run_resolveRef] at hrun
    cases hsplit : Uri.splitFragment ref.toList with
    | error fault =>
      rw [hsplit] at hrun
      cases hrun
      exact .unreadable href hsplit
    | ok p =>
      rw [hsplit] at hrun
      dsimp only at hrun
      cases huri : referenceUri f.document p.1 with
      | error fault =>
        rw [huri] at hrun
        cases hrun
        exact .unjoined href hsplit huri
      | ok uri =>
        have hn : Names f ref uri (String.ofList (Uri.unescape p.2)) :=
          ⟨href, p.1, p.2, hsplit, huri, rfl⟩
        rw [huri] at hrun
        dsimp only at hrun
        rw [run_fragment, hview] at hrun
        cases hv : view uri with
        | unavailable reason =>
          rw [hv] at hrun
          cases hrun
          exact .unavailable hn hv
        | broken =>
          rw [hv] at hrun
          cases hrun
          exact .broken hn hv
        | content root =>
          rw [hv] at hrun
          dsimp only at hrun
          cases hm : fragmentAt uri root (String.ofList (Uri.unescape p.2)) with
          | ok g =>
            rw [hm] at hrun
            cases hrun
          | error fault =>
            rw [hm] at hrun
            cases hrun
            exact .missing hn hv hm

/-- A reference leads somewhere or fails for one of the reasons. -/
theorem hop_or_stuck (view : String → Fetch) {ref : String} (href : f.ref = some ref) :
    (∃ g, Hop view f g) ∨ ∃ e, Stuck view f e := by
  cases hrun : ((Store.resolveRef ref f).run (Store.empty view)).1 with
  | ok g => exact .inl ⟨g, ref, href, hrun⟩
  | error e => exact .inr ⟨e, stuck_iff.2 ⟨ref, href, hrun⟩⟩

/-! ## Trails -/

/-- Fragments passed one after another along references, no place twice. -/
structure Trail (view : String → Fetch) (f : Fragment) (trail : List Fragment) (g : Fragment) :
    Prop where
  /-- The first one. -/
  first : trail.head? = some f
  /-- The last one. -/
  last : trail.getLast? = some g
  /-- Each is where the reference before it leads. -/
  hops : trail.IsChain (Hop view)
  /-- No place comes up twice. -/
  distinct : (trail.map Fragment.location).Nodup

namespace Trail

theorem start (view : String → Fetch) (f : Fragment) : Trail view f [f] f :=
  ⟨rfl, rfl, List.isChain_singleton f, List.nodup_singleton _⟩

theorem hop (ht : Trail view f trail g) (hh : Hop view g h)
    (hnew : h.location ∉ trail.map Fragment.location) : Trail view f (trail ++ [h]) h where
  first := by rw [List.head?_append, ht.first]; rfl
  last := List.getLast?_concat
  hops := by
    refine List.isChain_append.2 ⟨ht.hops, List.isChain_singleton h, ?_⟩
    rintro x hx y hy
    rw [ht.last] at hx
    cases hx
    cases hy
    exact hh
  distinct := by
    rw [List.map_append, List.map_singleton]
    exact List.concat_eq_append ▸ ht.distinct.concat hnew

/-- A trail is one fragment, or goes on from a shorter one. -/
theorem cases_last (ht : Trail view f trail g) : (trail = [f] ∧ g = f) ∨
    ∃ before h, Trail view f before h ∧ Hop view h g ∧
      g.location ∉ before.map Fragment.location ∧ trail = before ++ [g] := by
  obtain ⟨before, last, rfl⟩ : ∃ before last, trail = before ++ [last] := by
    refine (List.eq_nil_or_concat' trail).resolve_left fun hnil => ?_
    have hfirst := ht.first
    rw [hnil] at hfirst
    cases hfirst
  obtain rfl : last = g := by
    have hlast := ht.last
    rw [List.getLast?_concat] at hlast
    exact Option.some.inj hlast
  rcases List.eq_nil_or_concat' before with rfl | ⟨earlier, h, rfl⟩
  · have hfirst := ht.first
    cases hfirst
    exact .inl ⟨rfl, rfl⟩
  · obtain ⟨hbefore, -, hhop⟩ := List.isChain_append.1 ht.hops
    have hdistinct := ht.distinct
    rw [List.map_append, List.nodup_append] at hdistinct
    refine .inr ⟨_, h, ⟨?_, List.getLast?_concat, hbefore, hdistinct.1⟩,
      hhop h List.getLast?_concat last rfl, ?_, rfl⟩
    · have hfirst := ht.first
      rwa [List.head?_append_of_ne_nil _ (by simp)] at hfirst
    · intro hmem
      exact hdistinct.2.2 _ hmem _ (List.mem_singleton_self _) rfl

/-- Induction over trails, from the first fragment on. -/
@[elab_as_elim]
theorem induct {motive : ∀ g trail, Trail view f trail g → Prop}
    (start : motive f [f] (.start view f))
    (hop : ∀ trail g h (ht : Trail view f trail g) (hh : Hop view g h)
      (hnew : h.location ∉ trail.map Fragment.location), motive g trail ht →
      motive h (trail ++ [h]) (ht.hop hh hnew))
    (ht : Trail view f trail g) : motive g trail ht := by
  induction hn : trail.length generalizing trail g with
  | zero =>
    cases List.length_eq_zero_iff.1 hn
    cases ht.first
  | succ n ih =>
    rcases ht.cases_last with ⟨rfl, rfl⟩ | ⟨before, h, hbefore, hhop, hnew, rfl⟩
    · exact start
    · rw [List.length_append, List.length_singleton] at hn
      exact hop _ _ _ hbefore hhop hnew (ih hbefore (Nat.succ.inj hn))

/-- All that is passed is reached by references. -/
theorem reaches (ht : Trail view f trail g) :
    ∀ h ∈ trail, Relation.ReflTransGen (Hop view) f h := by
  have hlast : Relation.ReflTransGen (Hop view) f g ∧
      ∀ h ∈ trail, Relation.ReflTransGen (Hop view) f h := by
    induction ht using Trail.induct with
    | start => exact ⟨.refl, fun h hh => List.mem_singleton.1 hh ▸ .refl⟩
    | hop trail g h ht hh hnew ih =>
      have hreach := ih.1.tail hh
      refine ⟨hreach, fun x hx => ?_⟩
      rcases List.mem_append.1 hx with hx | hx
      · exact ih.2 x hx
      · exact List.mem_singleton.1 hx ▸ hreach
  exact hlast.2

/-- Every fragment that is passed ends a trail of its own. -/
theorem exists_of_mem (ht : Trail view f trail g) :
    ∀ h ∈ trail, ∃ before, Trail view f before h := by
  induction ht using Trail.induct with
  | start => exact fun h hh => ⟨[f], List.mem_singleton.1 hh ▸ .start view f⟩
  | hop trail g h ht hh hnew ih =>
    intro x hx
    rcases List.mem_append.1 hx with hx | hx
    · exact ih x hx
    · exact ⟨trail ++ [h], by rw [List.mem_singleton.1 hx]; exact ht.hop hh hnew⟩

/-- No more fragments are passed than references reach. -/
theorem length_le (hfinite : {h | Relation.ReflTransGen (Hop view) f h}.Finite)
    (ht : Trail view f trail g) :
    trail.length ≤ {h | Relation.ReflTransGen (Hop view) f h}.ncard := by
  classical
  rw [← List.toFinset_card_of_nodup (List.Nodup.of_map _ ht.distinct), ← Set.ncard_coe_finset]
  refine Set.ncard_le_ncard ?_ hfinite
  intro h hh
  exact ht.reaches h (List.mem_toFinset.1 hh)

end Trail

/-! ## What references come to -/

/-- What the references from a fragment come to. -/
inductive ComesTo (view : String → Fetch) (f : Fragment) : Except Failure Chain → Prop
  /-- A fragment that is no reference is reached: the locations passed, and that fragment. -/
  | target {trail : List Fragment} {g : Fragment} : Trail view f trail g → g.ref = none →
      ComesTo view f (.ok ⟨trail.map Fragment.location, g⟩)
  /-- A location comes up again: the locations passed, and that one. -/
  | cyclic {trail : List Fragment} {g h : Fragment} : Trail view f trail g → Hop view g h →
      h.location ∈ trail.map Fragment.location →
      ComesTo view f (.error (.generation (.cyclic
        (trail.map Fragment.location ++ [h.location]))))
  /-- A reference leads nowhere. -/
  | stuck {trail : List Fragment} {g : Fragment} {e : Failure} : Trail view f trail g →
      Stuck view g e → ComesTo view f (.error e)

/-- Following a reference, by where it leads. -/
theorem run_followRefs_of_hop {fuel : Nat} {hops : List String} (hh : Hop view f g) :
    ((followRefs (fuel + 1) hops f).run (Store.empty view)).1 =
      if g.location ∈ hops then .error (.generation (.cyclic (hops ++ [g.location])))
      else ((followRefs fuel (hops ++ [g.location]) g).run (Store.empty view)).1 := by
  obtain ⟨ref, href, hrun⟩ := hh
  have hfirst : (Store.resolveRef ref f).run (Store.empty view) =
      (.ok g, ((Store.resolveRef ref f).run (Store.empty view)).2) := Prod.ext hrun rfl
  conv_lhs => unfold followRefs
  rw [href]
  dsimp only
  rw [run_bind_ok hfirst]
  by_cases hmem : g.location ∈ hops
  · rw [if_pos (List.contains_iff_mem.2 hmem), if_pos hmem]
    rfl
  · rw [if_neg fun hc => hmem (List.contains_iff_mem.1 hc), if_neg hmem]
    exact (transparent_followRefs fuel _ g).agrees _ _
      ((transparent_resolveRef ref f).keeps (Store.empty view))

theorem run_followRefs_of_stuck {fuel : Nat} {hops : List String} {e : Failure}
    (hs : Stuck view f e) :
    ((followRefs (fuel + 1) hops f).run (Store.empty view)).1 = .error e := by
  obtain ⟨ref, href, hrun⟩ := stuck_iff.1 hs
  have hfirst : (Store.resolveRef ref f).run (Store.empty view) =
      (.error e, ((Store.resolveRef ref f).run (Store.empty view)).2) := Prod.ext hrun rfl
  unfold followRefs
  rw [href]
  dsimp only
  rw [run_bind_error hfirst]

theorem run_followRefs_of_target {fuel : Nat} {hops : List String} {s : Store}
    (hf : f.ref = none) : ((followRefs (fuel + 1) hops f).run s).1 = .ok ⟨hops, f⟩ := by
  unfold followRefs
  rw [hf]
  rfl

/-- Following references passes every trail. -/
theorem run_followRefs_of_trail (ht : Trail view f trail g) (fuel : Nat) :
    ((followRefs (fuel + trail.length) [f.location] f).run (Store.empty view)).1 =
      ((followRefs (fuel + 1) (trail.map Fragment.location) g).run (Store.empty view)).1 := by
  induction ht using Trail.induct generalizing fuel with
  | start => rfl
  | hop trail g h ht hh hnew ih =>
    have hlength : fuel + (trail ++ [h]).length = fuel + 1 + trail.length := by
      rw [List.length_append, List.length_singleton]
      omega
    rw [hlength, ih, run_followRefs_of_hop hh, if_neg hnew, List.map_append, List.map_singleton]

/-- With fuel for every trail, what references come to is the result of following them. -/
theorem ComesTo.eq_run {bound fuel : Nat}
    (hbound : ∀ trail g, Trail view f trail g → trail.length ≤ bound) (hfuel : bound < fuel)
    {r : Except Failure Chain} (hc : ComesTo view f r) :
    ((followRefs fuel [f.location] f).run (Store.empty view)).1 = r := by
  have hrest {trail : List Fragment} {g : Fragment} (ht : Trail view f trail g) :
      ∃ rest, fuel = rest + 1 + trail.length :=
    ⟨fuel - 1 - trail.length, by have := hbound _ _ ht; omega⟩
  cases hc with
  | target ht hg =>
    obtain ⟨rest, rfl⟩ := hrest ht
    rw [run_followRefs_of_trail ht, run_followRefs_of_target hg]
  | cyclic ht hh hmem =>
    obtain ⟨rest, rfl⟩ := hrest ht
    rw [run_followRefs_of_trail ht, run_followRefs_of_hop hh, if_pos hmem]
  | stuck ht hs =>
    obtain ⟨rest, rfl⟩ := hrest ht
    rw [run_followRefs_of_trail ht, run_followRefs_of_stuck hs]

/-- From every trail on, following references runs out of fuel or gives what they come to; it runs out
only past a trail as long as the fuel. -/
theorem comesTo_of_trail {fuel : Nat} (ht : Trail view f trail g) {r : Except Failure Chain}
    (hr : ((followRefs fuel (trail.map Fragment.location) g).run (Store.empty view)).1 = r) :
    ComesTo view f r ∨
      r = .error .tooDeep ∧ ∃ longer h, Trail view f longer h ∧
        longer.length = trail.length + fuel := by
  induction fuel generalizing trail g with
  | zero =>
    cases hr
    exact .inr ⟨rfl, trail, g, ht, rfl⟩
  | succ fuel ih =>
    cases href : g.ref with
    | none =>
      rw [run_followRefs_of_target href] at hr
      exact .inl (hr ▸ .target ht href)
    | some ref =>
      rcases hop_or_stuck view href with ⟨h, hh⟩ | ⟨e, hs⟩
      · rw [run_followRefs_of_hop hh] at hr
        by_cases hmem : h.location ∈ trail.map Fragment.location
        · rw [if_pos hmem] at hr
          exact .inl (hr ▸ .cyclic ht hh hmem)
        · rw [if_neg hmem] at hr
          rw [← List.map_singleton, ← List.map_append] at hr
          rcases ih (ht.hop hh hmem) hr with hc | ⟨hdeep, longer, last, hlonger, hlength⟩
          · exact .inl hc
          · refine .inr ⟨hdeep, longer, last, hlonger, ?_⟩
            rw [hlength, List.length_append, List.length_singleton]
            omega
      · rw [run_followRefs_of_stuck hs] at hr
        exact .inl (hr ▸ .stuck ht hs)

/-- Where locations tell the fragments apart, a trail leads to every fragment that references
reach. -/
theorem exists_trail
    (hplaces : ∀ g h, Relation.ReflTransGen (Hop view) f g →
      Relation.ReflTransGen (Hop view) f h → g.location = h.location → g = h)
    (hreach : Relation.ReflTransGen (Hop view) f g) : ∃ trail, Trail view f trail g := by
  induction hreach with
  | refl => exact ⟨[f], .start view f⟩
  | @tail g h hg hh ih =>
    obtain ⟨trail, ht⟩ := ih
    by_cases hmem : h.location ∈ trail.map Fragment.location
    · obtain ⟨x, hx, hloc⟩ := List.mem_map.1 hmem
      obtain rfl := hplaces x h (ht.reaches x hx) (hg.tail hh) hloc
      exact ht.exists_of_mem x hx
    · exact ⟨trail ++ [h], ht.hop hh hmem⟩

/-- When finitely many documents can be had, following references ends.  With more fuel than there
are fragments to be reached, the result is exactly what they come to: a chain of distinct
places to a fragment that is no reference, a cycle told up to the first place that comes up again, or
a reference that leads nowhere before.  Where locations tell the fragments apart, there is a chain
exactly when the references end. -/
theorem resolveChain_comesTo {s : Store}
    (hview : {uri | ∃ j, s.view uri = .content j}.Finite) (f : Fragment) :
    (∀ fuel, {g | Relation.ReflTransGen (Hop s.view) f g}.ncard < fuel → ∀ r,
      ((followRefs fuel [f.location] f).run s).1 = r ↔ ComesTo s.view f r) ∧
    (((resolveChain f).run s).1 = .error .tooDeep ∨
      ∀ r, ((resolveChain f).run s).1 = r ↔ ComesTo s.view f r) ∧
    ((∀ g h, Relation.ReflTransGen (Hop s.view) f g → Relation.ReflTransGen (Hop s.view) f h →
        g.location = h.location → g = h) →
      ((∃ c, ComesTo s.view f (.ok c)) ↔
        ∃ g, Relation.ReflTransGen (Hop s.view) f g ∧ g.ref = none)) := by
  have hfinite : {g | Relation.ReflTransGen (Hop s.view) f g}.Finite := by
    refine (finite_reaches hview f).subset fun g hg => ?_
    induction hg with
    | refl => exact .refl
    | tail _ hh ih => exact ih.hop hh
  have hrun (fuel : Nat) : ((followRefs fuel [f.location] f).run s).1 =
      ((followRefs fuel [f.location] f).run (Store.empty s.view)).1 :=
    (transparent_followRefs fuel _ f).agrees s (Store.empty s.view) rfl
  have hbound (trail : List Fragment) (g : Fragment) (ht : Trail s.view f trail g) :
      trail.length ≤ {g | Relation.ReflTransGen (Hop s.view) f g}.ncard := ht.length_le hfinite
  have henough (fuel : Nat)
      (hfuel : {g | Relation.ReflTransGen (Hop s.view) f g}.ncard < fuel)
      (r : Except Failure Chain) :
      ((followRefs fuel [f.location] f).run s).1 = r ↔ ComesTo s.view f r := by
    rw [hrun]
    refine ⟨fun hr => ?_, fun hc => hc.eq_run hbound hfuel⟩
    rcases comesTo_of_trail (.start s.view f) hr with hc | ⟨-, longer, h, hlonger, hlength⟩
    · exact hc
    · have := hbound longer h hlonger
      rw [List.length_singleton] at hlength
      omega
  refine ⟨henough, ?_, fun hplaces => ⟨?_, ?_⟩⟩
  · rcases comesTo_of_trail (.start s.view f) (hrun hopLimit).symm with hc | ⟨hdeep, -⟩
    · refine .inr fun r => ⟨fun hr => hr ▸ hc, fun hc' => ?_⟩
      have hfirst := (henough _ (Nat.lt_succ_self _) _).2 hc
      exact hfirst.symm.trans ((henough _ (Nat.lt_succ_self _) _).2 hc')
    · exact .inl hdeep
  · rintro ⟨c, hc⟩
    cases hc with
    | @target trail g ht hg => exact ⟨g, ht.reaches g (List.mem_of_getLast? ht.last), hg⟩
  · rintro ⟨g, hreach, hg⟩
    obtain ⟨trail, ht⟩ := exists_trail hplaces hreach
    exact ⟨_, .target ht hg⟩

/-- A document with a reference to another part of it. -/
def signpostDocument : Json :=
  .obj [("a", .obj [("$ref", .str "#/b")]), ("b", .obj [("type", .str "string")])]

/-- The reference. -/
def signpost : Fragment := ⟨.obj [("$ref", .str "#/b")], "memory:///s.json", "/a"⟩

theorem resolveChain_comesTo_signpost :
    {uri | ∃ j, onlyDocument "memory:///s.json" signpostDocument uri = .content j}.Finite ∧
    ∃ g, g.ref = none ∧ ComesTo (onlyDocument "memory:///s.json" signpostDocument) signpost
      (.ok ⟨["memory:///s.json#/a", "memory:///s.json#/b"], g⟩) := by
  have h : ((resolveChain signpost).run
      (Store.empty (onlyDocument "memory:///s.json" signpostDocument))).1.toOption.any
      (fun c => decide (c.hops = ["memory:///s.json#/a", "memory:///s.json#/b"] ∧
        c.target.ref = none)) = true := by
    decide +kernel
  obtain ⟨⟨hops, g⟩, hrun, htest⟩ := (Option.any_eq_true _ _).1 h
  obtain ⟨rfl, hg⟩ := of_decide_eq_true htest
  have hfinite := finite_onlyDocument "memory:///s.json" signpostDocument
  let s := Store.empty (onlyDocument "memory:///s.json" signpostDocument)
  refine ⟨hfinite, g, hg, ?_⟩
  rcases (resolveChain_comesTo (s := s) hfinite signpost).2.1 with hdeep | hiff
  · rw [eq_ok_of_toOption hrun] at hdeep
    cases hdeep
  · exact (hiff _).1 (eq_ok_of_toOption hrun)

/-- A reference whose text is no URI. -/
def unreadable : Fragment := ⟨.obj [("$ref", .str "http://[")], "memory:///schema.json", "/a"⟩

/-- A document with that reference. -/
def unreadableDocument : Json := .obj [("a", unreadable.content)]

/-- Whether a reference can be split into a document and a place in it, but its document cannot be
joined to that of a fragment. -/
def refusesJoin (base ref : String) : Bool :=
  (Uri.splitFragment ref.toList).toOption.any fun parts =>
    (referenceUri base parts.1).toOption.isNone

theorem of_refusesJoin {base ref : String} (h : refusesJoin base ref = true) :
    ∃ document escaped fault, Uri.splitFragment ref.toList = .ok (document, escaped) ∧
      referenceUri base document = .error fault := by
  obtain ⟨⟨document, escaped⟩, hsplit, hnone⟩ := (Option.any_eq_true _ _).1 h
  cases huri : referenceUri base document with
  | ok uri =>
    rw [huri] at hnone
    cases hnone
  | error fault => exact ⟨document, escaped, fault, eq_ok_of_toOption hsplit, huri⟩

/-- The reference leads nowhere, which is told neither as a cycle nor as a reference that cannot be
resolved. -/
theorem exists_unreadable :
    {uri | ∃ j, onlyDocument "memory:///schema.json" unreadableDocument uri = .content j}.Finite ∧
    (∀ g, ¬Hop (onlyDocument "memory:///schema.json" unreadableDocument) unreadable g) ∧
    ∃ e, ((resolveChain unreadable).run
        (Store.empty (onlyDocument "memory:///schema.json" unreadableDocument))).1 = .error e ∧
      (∀ chain, e ≠ .generation (.cyclic chain)) ∧
      ∀ ref base reason, e ≠ .generation (.unresolvable ref base reason) := by
  obtain ⟨document, escaped, fault, hsplit, huri⟩ := of_refusesJoin
    (show refusesJoin "memory:///schema.json" "http://[" = true by decide +kernel)
  have hs : Stuck (onlyDocument "memory:///schema.json" unreadableDocument) unreadable
      (.uri fault) := .unjoined rfl hsplit huri
  refine ⟨finite_onlyDocument _ _, fun g hg => ?_, .uri fault, run_followRefs_of_stuck hs,
    fun chain he => ?_, fun ref base reason he => ?_⟩
  · obtain ⟨ref, href, hrun⟩ := hg
    obtain ⟨ref', href', hrun'⟩ := stuck_iff.1 hs
    cases href.symm.trans href'
    cases hrun.symm.trans hrun'
  · cases he
  · cases he

end ShapeSum
