import Mathlib.Logic.Relation
import ShapeSum.Proofs.Schema.Documents

/-!
# What a store asks and keeps

All that a resolution does to a store is to ask the loader for documents that the store
does not hold, one after the other.  Each question is recorded, and what the loader gives
is kept, whereas a failure is not (`Store.Asks`).  So a store that has been used holds the
documents that it began with and those that were loaded, and no document was loaded
twice (`Store.Cached`).

Nothing of that shows in the results.  Resolutions in any order, of which some may fail,
have the results that each of them has on the store as it was at first
(`findings_holding`).
-/

namespace ShapeSum

variable {α β : Type}

/-! ## Questions -/

namespace Store

/-- A store asks for one document that it does not hold. -/
inductive Asks : Store → Store → Prop
  /-- The loader does not give it, and the question alone is recorded. -/
  | refused {s : Store} {uri : String} : s.documents.get? uri = none →
      (∀ j, s.fetch uri ≠ .content j) → Asks s { s with asked := s.asked ++ [uri] }
  /-- The loader gives it, and it is kept. -/
  | loaded {s : Store} {uri : String} {j : Json} : s.documents.get? uri = none →
      s.fetch uri = .content j → Asks s ({ s with asked := s.asked ++ [uri] }.add uri j)

end Store

/-- A resolution that does nothing to a store but ask for documents. -/
def OnlyAsks (x : Resolving α) : Prop := ∀ s, Relation.ReflTransGen Store.Asks s (x.run s).2

namespace OnlyAsks

theorem pure (a : α) : OnlyAsks (Pure.pure a) := fun _ => .refl

theorem fault (e : Failure) : OnlyAsks (throw e : Resolving α) := fun _ => .refl

theorem bind {x : Resolving α} {f : α → Resolving β} (hx : OnlyAsks x)
    (hf : ∀ a, OnlyAsks (f a)) : OnlyAsks (x >>= f) := by
  intro s
  have hfirst := hx s
  rw [run_bind]
  rcases hr : x.run s with ⟨e | a, t⟩ <;> rw [hr] at hfirst
  · exact hfirst
  · exact hfirst.trans (hf a t)

theorem handle {x : Resolving α} {g : Failure → Resolving α} (hx : OnlyAsks x)
    (hg : ∀ e, OnlyAsks (g e)) : OnlyAsks (tryCatch x g) := by
  intro s
  have hfirst := hx s
  rw [run_tryCatch]
  rcases hr : x.run s with ⟨e | a, t⟩ <;> rw [hr] at hfirst
  · exact hfirst.trans (hg e t)
  · exact hfirst

end OnlyAsks

theorem onlyAsks_document (uri : String) : OnlyAsks (Store.document uri) := by
  intro s
  rw [Store.document, run_bind_ok (run_get s)]
  cases hd : s.documents.get? uri with
  | some j => exact .refl
  | none =>
    cases hf : s.fetch uri with
    | content j => exact .single (.loaded hd hf)
    | unavailable reason => exact .single (.refused hd (by simp [hf]))
    | broken => exact .single (.refused hd (by simp [hf]))

/-- Every resolution does nothing to a store but ask for documents. -/
theorem resolvingLaw_onlyAsks : ResolvingLaw fun _ x => OnlyAsks x where
  ok := .pure
  fault _ := .fault _
  bind := .bind
  retell _ _ hx := hx.handle fun _ => .fault _
  document := onlyAsks_document

/-! ## What a used store holds -/

/-- What a store holds and has asked after it began as another one. -/
structure Store.Cached (start s : Store) : Prop where
  /-- The loader is the same. -/
  fetch_eq : s.fetch = start.fetch
  /-- The documents that were there at the start are not asked for. -/
  spared : ∀ uri ∈ s.asked, start.documents.get? uri = none
  /-- It holds the documents that were there at the start and those that were loaded. -/
  holds : ∀ uri j, s.documents.get? uri = some j ↔
    start.documents.get? uri = some j ∨ uri ∈ s.asked ∧ start.fetch uri = .content j
  /-- No document is loaded twice. -/
  once : ∀ uri j, start.fetch uri = .content j → s.asked.count uri ≤ 1

namespace Store

variable {start s t : Store}

theorem Cached.refl (h : s.asked = []) : Cached s s :=
  ⟨rfl, by simp [h], by simp [h], by simp [h]⟩

/-- A document that is not held was not there at the start, nor was it loaded. -/
theorem Cached.not_held {uri : String} (h : Cached start s)
    (hnone : s.documents.get? uri = none) : start.documents.get? uri = none ∧
      ∀ j, start.fetch uri = .content j → uri ∉ s.asked := by
  have hfresh (j : Json) : ¬(start.documents.get? uri = some j ∨
      uri ∈ s.asked ∧ start.fetch uri = .content j) := by
    rw [← h.holds, hnone]
    simp
  constructor
  · cases hd : start.documents.get? uri with
    | none => rfl
    | some j => exact absurd (.inl hd) (hfresh j)
  · intro j hj hasked
    exact hfresh j (.inr ⟨hasked, hj⟩)

/-- A question leaves a store with what it should hold. -/
theorem Cached.asks (h : Cached start s) (hst : Asks s t) : Cached start t := by
  have hspared {uri : String} (hstart : start.documents.get? uri = none) :
      ∀ u ∈ s.asked ++ [uri], start.documents.get? u = none := by
    intro u hu
    obtain hu | hu := List.mem_append.1 hu
    · exact h.spared u hu
    · rwa [List.mem_singleton.1 hu]
  cases hst with
  | @refused uri hnone hfail =>
    obtain ⟨hstart, -⟩ := h.not_held hnone
    rw [h.fetch_eq] at hfail
    have hne {u : String} {j : Json} (hj : start.fetch u = .content j) : uri ≠ u := by
      rintro rfl
      exact hfail j hj
    refine ⟨h.fetch_eq, hspared hstart, fun u j => ?_, fun u j hj => ?_⟩
    · rw [h.holds]
      refine or_congr_right (and_congr_left fun hj => ?_)
      simp [(hne hj).symm]
    · simpa [List.count_append, hne hj] using h.once u j hj
  | @loaded uri content hnone hload =>
    obtain ⟨hstart, hnew⟩ := h.not_held hnone
    rw [h.fetch_eq] at hload
    refine ⟨h.fetch_eq, hspared hstart, fun u j => ?_, fun u j hj => ?_⟩
    · rw [add, Entries.get?_set]
      by_cases hu : uri = u
      · subst hu
        simp [hstart, hload]
      · simp [hu, h.holds, Ne.symm hu]
    · by_cases hu : uri = u
      · subst hu
        simp [add, List.count_append, List.count_eq_zero.2 (hnew content hload)]
      · simpa [add, List.count_append, hu] using h.once u j hj

theorem Cached.trans_asks (h : Cached start s) (hst : Relation.ReflTransGen Asks s t) :
    Cached start t := by
  induction hst with
  | refl => exact h
  | tail _ hstep ih => exact ih.asks hstep

end Store

/-! ## Resolutions in any order -/

/-- What can be asked of a store. -/
inductive Query where
  /-- The document under a URI. -/
  | document (uri : String)
  /-- The fragment that a reference leads to from the fragment that carries it. -/
  | hop (ref : String) (base : Fragment)
  /-- The chain of references from a fragment, up to a number of hops; `resolveChain` goes up to
  `hopLimit`. -/
  | chain (limit : Nat) (start : Fragment)

/-- What a query finds. -/
inductive Finding where
  /-- A document. -/
  | document (content : Json)
  /-- A fragment. -/
  | fragment (f : Fragment)
  /-- A chain, with its hops and its target. -/
  | chain (c : Chain)

/-- The resolution that a query asks for. -/
def Query.resolution : Query → Resolving Finding
  | .document uri => do return .document (← Store.document uri)
  | .hop ref base => do return .fragment (← Store.resolveRef ref base)
  | .chain limit start => do return .chain (← followRefs limit [start.location] start)

theorem ResolvingLaw.query {P : ∀ α : Type, Resolving α → Prop} (hP : ResolvingLaw P)
    (q : Query) : P Finding q.resolution := by
  cases q with
  | document uri => exact hP.bind (hP.document uri) fun _ => hP.ok _
  | hop ref base => exact hP.bind (hP.resolveRef ref base) fun _ => hP.ok _
  | chain limit start => exact hP.bind (hP.followRefs limit _ start) fun _ => hP.ok _

/-- The results of queries that are made one after the other, whether they fail or not, and the
store after the last one. -/
def findings : List Query → Store → List (Except Failure Finding) × Store
  | [], s => ([], s)
  | q :: rest, s =>
    let (finding, t) := q.resolution.run s
    let (others, last) := findings rest t
    (finding :: others, last)

/-- Queries find what they would find on any store with the same view, and leave what a used store
should hold. -/
theorem findings_of_cached {start s : Store} (queries : List Query) (hcached : start.Cached s)
    (hview : s.view = start.view) :
    (findings queries s).1 = queries.map (fun q => (q.resolution.run start).1) ∧
      start.Cached (findings queries s).2 := by
  induction queries generalizing s with
  | nil => exact ⟨rfl, hcached⟩
  | cons q rest ih =>
    have htransparent : Transparent q.resolution := resolvingLaw_transparent.query q
    have hasks := resolvingLaw_onlyAsks.query q s
    obtain ⟨hfindings, hlast⟩ := ih (hcached.trans_asks hasks) ((htransparent.keeps s).trans hview)
    refine ⟨?_, hlast⟩
    show (q.resolution.run s).1 :: (findings rest (q.resolution.run s).2).1 = _
    rw [hfindings, htransparent.agrees s start hview, List.map_cons]

/-- A store that has not been used, with some documents added one after the other. -/
def Store.holding (fetch : String → Fetch) (added : List (String × Json)) : Store :=
  added.foldl (fun s d => s.add d.1 d.2) (.empty fetch)

/-- Adding documents changes neither the loader nor the questions. -/
theorem Store.holding_spec (fetch : String → Fetch) (added : List (String × Json)) :
    (Store.holding fetch added).fetch = fetch ∧ (Store.holding fetch added).asked = [] ∧
      ∀ uri, (Store.holding fetch added).documents.get? uri = none ↔
        uri ∉ added.map Prod.fst := by
  suffices h : ∀ s : Store, (added.foldl (fun s d => s.add d.1 d.2) s).fetch = s.fetch ∧
      (added.foldl (fun s d => s.add d.1 d.2) s).asked = s.asked ∧
      ∀ uri, (added.foldl (fun s d => s.add d.1 d.2) s).documents.get? uri = none ↔
        uri ∉ added.map Prod.fst ∧ s.documents.get? uri = none by
    simpa [holding, Store.empty, Entries.get?] using h (.empty fetch)
  induction added with
  | nil => simp
  | cons d rest ih =>
    intro s
    obtain ⟨hfetch, hasked, hdocuments⟩ := ih (s.add d.1 d.2)
    refine ⟨hfetch, hasked, fun uri => (hdocuments uri).trans ?_⟩
    simp only [add, Entries.get?_set, List.map_cons, List.mem_cons, not_or]
    by_cases hd : d.1 = uri
    · simp [hd]
    · simp [hd, Ne.symm hd]

/-- What queries find does not depend on the ones before them: each finds what it would find alone
on a fresh store with the same documents added.  The loader is never asked for a document that
was added, and gives each of the others at most once. -/
theorem findings_holding (fetch : String → Fetch) (added : List (String × Json))
    (queries : List Query) :
    (findings queries (.holding fetch added)).1 =
        queries.map (fun q => (q.resolution.run (.holding fetch added)).1) ∧
      (∀ uri ∈ added.map Prod.fst, uri ∉ (findings queries (.holding fetch added)).2.asked) ∧
      ∀ uri content, fetch uri = .content content →
        (findings queries (.holding fetch added)).2.asked.count uri ≤ 1 := by
  obtain ⟨hfetch, hasked, hdocuments⟩ := Store.holding_spec fetch added
  obtain ⟨hfindings, hlast⟩ := findings_of_cached queries (.refl hasked) rfl
  refine ⟨hfindings, fun uri huri h => ?_, fun uri content hload => ?_⟩
  · exact (hdocuments uri).1 (hlast.spared uri h) huri
  · exact hlast.once uri content (by rw [hfetch, hload])

end ShapeSum
