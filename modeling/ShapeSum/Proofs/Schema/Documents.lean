import ShapeSum.Proofs.Run
import ShapeSum.Schema.Chain

/-!
# The documents that a store gives

What can be had from a store under a URI is the document that it holds, or else
what the loader answers.  This *view* is all that a resolution depends on: keeping
a loaded document changes the store but not its view, since the loader is a
function of the URI.  A resolution is therefore `Transparent`: it leaves the view
alone and gives the same result on stores with the same view.  Nor does it fail for
a reason that only compilations have.

All resolutions are made of questions for documents in the same few ways, which a
`ResolvingLaw` goes through once for every property like that.
-/

namespace ShapeSum

variable {α β : Type}

namespace Store

/-- What can be had under a URI: the document that is held, or the answer of the loader. -/
def view (s : Store) (uri : String) : Fetch :=
  match s.documents.get? uri with
  | some j => .content j
  | none => s.fetch uri

/-- A document that is added is the one that can be had under its URI. -/
theorem view_add (s : Store) (uri : String) (j : Json) :
    (s.add uri j).view = fun u => if uri = u then .content j else s.view u := by
  funext u
  simp only [view, add, Entries.get?_set]
  by_cases h : uri = u
  · rw [if_pos h, if_pos h]
  · rw [if_neg h, if_neg h]

/-- Keeping what the loader answers does not change what can be had. -/
theorem view_add_of_view {s : Store} {uri : String} {j : Json} (h : s.view uri = .content j) :
    (s.add uri j).view = s.view := by
  rw [view_add]
  funext u
  by_cases hu : uri = u
  · rw [if_pos hu, ← hu, h]
  · rw [if_neg hu]

end Store

/-- A resolution that depends on nothing but what can be had from the store, does not change that,
and knows nothing of compilations. -/
structure Transparent (x : Resolving α) : Prop where
  /-- The view stays the same. -/
  keeps : ∀ s, (x.run s).2.view = s.view
  /-- Stores with the same view give the same result. -/
  agrees : ∀ s t, s.view = t.view → (x.run s).1 = (x.run t).1
  /-- Its failures are none of the bookkeeping of compilations. -/
  plain : ∀ s, Plain (x.run s).1

namespace Transparent

theorem ok (a : α) : Transparent (pure a) :=
  ⟨fun _ => rfl, fun _ _ _ => rfl, fun _ _ h => nomatch h⟩

theorem fault {e : Failure} (he : e.ofBookkeeping = false) :
    Transparent (throw e : Resolving α) := by
  refine ⟨fun _ => rfl, fun _ _ _ => rfl, fun s e' h => ?_⟩
  cases h
  exact he

theorem bind {x : Resolving α} {f : α → Resolving β} (hx : Transparent x)
    (hf : ∀ a, Transparent (f a)) : Transparent (x >>= f) := by
  constructor
  · intro s
    have h := hx.keeps s
    rw [run_bind]
    rcases hr : x.run s with ⟨e | a, s'⟩
    · rw [hr] at h
      exact h
    · rw [hr] at h
      exact ((hf _).keeps s').trans h
  · intro s t hst
    have hs := hx.keeps s
    have ht := hx.keeps t
    have he := hx.agrees s t hst
    rw [run_bind, run_bind]
    rcases hr : x.run s with ⟨e | a, s'⟩ <;> rcases hr' : x.run t with ⟨e' | a', t'⟩ <;>
      rw [hr, hr'] at he <;> cases he
    · rfl
    · rw [hr] at hs
      rw [hr'] at ht
      exact (hf _).agrees s' t' (hs.trans (hst.trans ht.symm))
  · intro s e he
    have hp := hx.plain s
    rw [run_bind] at he
    rcases hr : x.run s with ⟨e' | a, s'⟩ <;> rw [hr] at he hp
    · cases he
      exact hp _ rfl
    · exact (hf _).plain s' e he

theorem handle {x : Resolving α} {g : Failure → Resolving α} (hx : Transparent x)
    (hg : ∀ e, e.ofBookkeeping = false → Transparent (g e)) : Transparent (tryCatch x g) := by
  constructor
  · intro s
    have h := hx.keeps s
    have hp := hx.plain s
    rw [run_tryCatch]
    rcases hr : x.run s with ⟨e | a, s'⟩ <;> rw [hr] at h hp
    · exact ((hg _ (hp _ rfl)).keeps s').trans h
    · exact h
  · intro s t hst
    have hs := hx.keeps s
    have ht := hx.keeps t
    have hp := hx.plain s
    have he := hx.agrees s t hst
    rw [run_tryCatch, run_tryCatch]
    rcases hr : x.run s with ⟨e | a, s'⟩ <;> rcases hr' : x.run t with ⟨e' | a', t'⟩ <;>
      rw [hr, hr'] at he <;> cases he
    · rw [hr] at hs hp
      rw [hr'] at ht
      exact (hg _ (hp _ rfl)).agrees s' t' (hs.trans (hst.trans ht.symm))
    · rfl
  · intro s e he
    have hp := hx.plain s
    rw [run_tryCatch] at he
    rcases hr : x.run s with ⟨e' | a, s'⟩ <;> rw [hr] at he hp
    · exact (hg _ (hp _ rfl)).plain s' e he
    · cases he

end Transparent

/-! ## Resolutions are transparent -/

/-- What asking for a document gives, by what can be had. -/
theorem run_document (uri : String) (s : Store) :
    ((Store.document uri).run s).1 = (match s.view uri with
      | .content j => .ok j
      | .unavailable reason => .error (.generation (.unresolvable uri none reason))
      | .broken => .error (.loader uri)) ∧
    ((Store.document uri).run s).2.view = s.view := by
  rw [Store.document, run_bind_ok (run_get s)]
  cases hd : s.documents.get? uri with
  | some j =>
    rw [Store.view, hd]
    exact ⟨rfl, rfl⟩
  | none =>
    have hv : s.view uri = s.fetch uri := by rw [Store.view, hd]
    rw [hv]
    cases hf : s.fetch uri with
    | content j =>
      refine ⟨?_, ?_⟩
      · simp only [run_bind]; rfl
      · have h : ({ s with asked := s.asked ++ [uri] } : Store).view uri = .content j := hv.trans hf
        exact Store.view_add_of_view h
    | unavailable reason => exact ⟨rfl, rfl⟩
    | broken => exact ⟨rfl, rfl⟩

/-- What asking for a fragment gives, by what can be had. -/
theorem run_fragment (uri pointer : String) (s : Store) :
    ((Store.fragment uri pointer).run s).1 = match s.view uri with
      | .content root => match fragmentAt uri root pointer with
        | .ok g => .ok g
        | .error fault => .error (.generation (.unresolvable ("#" ++ pointer) (some uri)
            s!"no fragment at segment {fault.message}"))
      | .unavailable reason => .error (.generation (.unresolvable uri none reason))
      | .broken => .error (.loader uri) := by
  have hdocument := (run_document uri s).1
  unfold Store.fragment
  rw [run_bind]
  rcases hr : (Store.document uri).run s with ⟨e | root, s'⟩ <;> rw [hr] at hdocument <;>
    cases hv : s.view uri <;> rw [hv] at hdocument <;> cases hdocument
  · rfl
  · rfl
  · dsimp only
    unfold Store.locate
    cases fragmentAt uri root pointer with
    | ok g => rfl
    | error fault => rfl

theorem transparent_document (uri : String) : Transparent (Store.document uri) := by
  refine ⟨fun s => (run_document uri s).2, fun s t h => ?_, fun s e h => ?_⟩
  · rw [(run_document uri s).1, (run_document uri t).1, h]
  · rw [(run_document uri s).1] at h
    cases hv : s.view uri with
    | content j =>
      rw [hv] at h
      cases h
    | unavailable reason =>
      rw [hv] at h
      cases h
      rfl
    | broken =>
      rw [hv] at h
      cases h
      rfl

/-- A pointer that leads nowhere is told as a reference that cannot be resolved. -/
theorem plain_of_locate {uri pointer : String} {root : Json} {e : GenerationError}
    (h : Store.locate uri root pointer = .error e) :
    (Failure.generation e).ofBookkeeping = false := by
  unfold Store.locate at h
  cases hf : fragmentAt uri root pointer with
  | ok f =>
    rw [hf] at h
    cases h
  | error fault =>
    rw [hf] at h
    cases h
    rfl

/-- Telling a failure from another place keeps its kind. -/
theorem plain_retell {ref base : String} {e : Failure} (h : e.ofBookkeeping = false) :
    (Store.retell ref base e).ofBookkeeping = false := by
  unfold Store.retell
  split
  · rfl
  · exact h

/-- A property that all resolutions have, since asking for a document has it and the ways to go on
from there keep it. -/
structure ResolvingLaw (P : ∀ α : Type, Resolving α → Prop) : Prop where
  /-- A result has it. -/
  ok {α : Type} (a : α) : P α (pure a)
  /-- A failure that is none of the bookkeeping of compilations has it. -/
  fault {α : Type} {e : Failure} : e.ofBookkeeping = false → P α (throw e)
  /-- A sequence has it. -/
  bind {α β : Type} {x : Resolving α} {f : α → Resolving β} :
    P α x → (∀ a, P β (f a)) → P β (x >>= f)
  /-- A resolution with its failure told from another place has it. -/
  retell {α : Type} {x : Resolving α} (ref base : String) :
    P α x → P α (tryCatch x fun e => throw (Store.retell ref base e))
  /-- Asking for a document has it. -/
  document (uri : String) : P Json (Store.document uri)

namespace ResolvingLaw

variable {P : ∀ α : Type, Resolving α → Prop}

theorem fragment (hP : ResolvingLaw P) (uri pointer : String) :
    P Fragment (Store.fragment uri pointer) := by
  refine hP.bind (hP.document uri) fun root => ?_
  cases hl : Store.locate uri root pointer with
  | ok f => exact hP.ok f
  | error e => exact hP.fault (plain_of_locate hl)

theorem resolveRef (hP : ResolvingLaw P) (ref : String) (base : Fragment) :
    P Fragment (Store.resolveRef ref base) := by
  unfold Store.resolveRef
  cases Uri.splitFragment ref.toList with
  | error f => exact hP.fault rfl
  | ok p =>
    have h (uri : String) := hP.retell ref base.location
      (hP.fragment uri (String.ofList (Uri.unescape p.2)))
    by_cases hd : p.1.isEmpty = true
    · simp only [hd, if_true]
      exact hP.bind (hP.ok _) h
    · simp only [hd]
      cases Uri.join base.document (String.ofList p.1) with
      | ok uri => exact hP.bind (hP.ok _) h
      | error f => exact hP.bind (hP.fault rfl) h

theorem followRefs (hP : ResolvingLaw P) (limit : Nat) (hops : List String) (f : Fragment) :
    P Chain (followRefs limit hops f) := by
  induction limit generalizing hops f with
  | zero => exact hP.fault rfl
  | succ limit ih =>
    unfold ShapeSum.followRefs
    cases f.ref with
    | none => exact hP.ok _
    | some ref =>
      refine hP.bind (hP.resolveRef ref f) fun target => ?_
      by_cases h : hops.contains target.location = true
      · rw [if_pos h]
        exact hP.fault rfl
      · rw [if_neg h]
        exact ih _ target

end ResolvingLaw

theorem resolvingLaw_transparent : ResolvingLaw fun _ x => Transparent x where
  ok := .ok
  fault := .fault
  bind := .bind
  retell _ _ hx := hx.handle fun _ he => .fault (plain_retell he)
  document := transparent_document

theorem transparent_fragment (uri pointer : String) : Transparent (Store.fragment uri pointer) :=
  resolvingLaw_transparent.fragment uri pointer

theorem transparent_resolveRef (ref : String) (base : Fragment) :
    Transparent (Store.resolveRef ref base) :=
  resolvingLaw_transparent.resolveRef ref base

theorem transparent_followRefs (fuel : Nat) (hops : List String) (f : Fragment) :
    Transparent (followRefs fuel hops f) :=
  resolvingLaw_transparent.followRefs fuel hops f

/-- Following references depends on nothing but what can be had from the store. -/
theorem transparent_resolveChain (f : Fragment) : Transparent (resolveChain f) :=
  transparent_followRefs hopLimit [f.location] f

theorem transparent_resolve (f : Fragment) : Transparent (resolve f) :=
  (transparent_resolveChain f).bind fun c => .ok c.target

/-- The references from a fragment end at another one, by what can be had. -/
def LeadsTo (view : String → Fetch) (f g : Fragment) : Prop :=
  ((resolve f).run (Store.empty view)).1 = .ok g

/-- Every store with a view resolves a fragment in the same way. -/
theorem leadsTo_iff {s : Store} {f g : Fragment} :
    LeadsTo s.view f g ↔ ((resolve f).run s).1 = .ok g := by
  rw [LeadsTo, (transparent_resolve f).agrees (Store.empty s.view) s rfl]

/-- A fragment that is no reference leads to itself. -/
theorem leadsTo_self {f : Fragment} (h : f.ref = none) (view : String → Fetch) :
    LeadsTo view f f := by
  unfold LeadsTo resolve resolveChain hopLimit followRefs
  rw [h]
  rfl

end ShapeSum
