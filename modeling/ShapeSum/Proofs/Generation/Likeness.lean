import ShapeSum.Proofs.Generation.Run
import ShapeSum.Proofs.Schema.Documents

/-!
# States that generation does not tell apart

Two states are *alike* when they agree on everything that generation reads: the
documents that can be had, the names, counters, unions and types, and the marks of
what is being compiled or generated.  What was loaded, asked for and reported may
differ.  So may the session of compiled models while nothing is being compiled,
because the next compilation begins a session of its own; a *strict* likeness does
not allow that.

Generation *agrees* on alike states: it gives the same results and leaves alike
states behind.  There is one lemma for each function; `agree_unionOf` is the one for
a whole generation.
-/

namespace ShapeSum

variable {α β : Type} {strict : Bool} {s t : Generation}

/-- States that agree on all that generation reads. -/
structure Alike (strict : Bool) (s t : Generation) : Prop where
  /-- The same documents can be had. -/
  documents : s.store.view = t.store.view
  /-- The names are the same. -/
  names : s.names = t.names
  /-- The counters are the same. -/
  counters : s.counters = t.counters
  /-- The unions are the same. -/
  unions : s.unions = t.unions
  /-- The unions being generated are the same. -/
  inProgress : s.inProgress = t.inProgress
  /-- The locations being compiled are the same. -/
  pending : s.pending = t.pending
  /-- The types are the same. -/
  types : s.types = t.types
  /-- The session is the same where it matters. -/
  session : strict = true ∨ s.pending ≠ [] →
    s.session = t.session ∧ s.backReference = t.backReference

namespace Alike

/-- A strict likeness is one. -/
theorem weaken (h : Alike true s t) : Alike strict s t :=
  ⟨h.documents, h.names, h.counters, h.unions, h.inProgress, h.pending, h.types,
    fun _ => h.session (.inl rfl)⟩

end Alike

/-- Two computations agree on two states: the results are the same, and the states after them are
alike. -/
def AgreeAt (strict : Bool) (s t : Generation) (x y : Generating α) : Prop :=
  (x.run s).1 = (y.run t).1 ∧ Alike strict (x.run s).2 (y.run t).2

/-- A computation agrees on alike states. -/
def Agree (strict : Bool) (x : Generating α) : Prop :=
  ∀ s t, Alike strict s t → AgreeAt strict s t x x

/-! ## Sequences -/

theorem AgreeAt.bind {x y : Generating α} {f g : α → Generating β} (hx : AgreeAt strict s t x y)
    (hf : ∀ a s' t', Alike strict s' t' → AgreeAt strict s' t' (f a) (g a)) :
    AgreeAt strict s t (x >>= f) (y >>= g) := by
  obtain ⟨hr, hs⟩ := hx
  rw [AgreeAt, run_bind, run_bind]
  rcases hx : x.run s with ⟨e | a, s'⟩ <;> rcases hy : y.run t with ⟨e' | a', t'⟩ <;>
    rw [hx, hy] at hr hs <;> cases hr
  · exact ⟨rfl, hs⟩
  · exact hf _ _ _ hs

/-- What a computation reads first may be read off either state. -/
theorem AgreeAt.get {f g : Generation → Generating α} (h : AgreeAt strict s t (f s) (g t)) :
    AgreeAt strict s t (get >>= f) (get >>= g) := h

theorem AgreeAt.pure (h : Alike strict s t) (a : α) :
    AgreeAt strict s t (pure a) (pure a) := ⟨rfl, h⟩

theorem AgreeAt.throw (h : Alike strict s t) (e : Failure) :
    AgreeAt strict s t (throw e : Generating α) (throw e) := ⟨rfl, h⟩

theorem Agree.bind {x : Generating α} {f : α → Generating β} (hx : Agree strict x)
    (hf : ∀ a, Agree strict (f a)) : Agree strict (x >>= f) :=
  fun s t h => AgreeAt.bind (hx s t h) hf

/-! ## Elementary computations -/

theorem agree_pure (a : α) : Agree strict (pure a) := fun _ _ h => .pure h a

theorem agree_throw (e : Failure) : Agree strict (throw e : Generating α) :=
  fun _ _ h => .throw h e

theorem agree_ofExcept (r : Except Failure α) : Agree strict (Generating.ofExcept r) :=
  fun _ _ h => ⟨rfl, h⟩

/-- A transparent resolution agrees. -/
theorem agree_onStore {x : Resolving α} (hx : Transparent x) :
    Agree strict (Generating.onStore x) := by
  intro s t h
  refine ⟨hx.agrees _ _ h.documents, { h with documents := ?_ }⟩
  exact (hx.keeps s.store).trans (h.documents.trans (hx.keeps t.store).symm)

theorem agree_report (e : Event) : Agree strict (Generating.report e) :=
  fun _ _ h => ⟨rfl, { h with }⟩

theorem agree_declaredNames : Agree strict Generating.declaredNames := by
  intro s t h
  refine ⟨?_, h⟩
  show Except.ok (Entries.keys s.names.names) = Except.ok (Entries.keys t.names.names)
  rw [h.names]

theorem agree_addType (d : TypeDef) : Agree strict (Generating.addType d) := by
  intro s t h
  refine ⟨?_, { h with types := ?_ }⟩
  · show Except.ok s.types.length = Except.ok t.types.length
    rw [h.types]
  · show s.types ++ [d] = t.types ++ [d]
    rw [h.types]

theorem agree_declare (name : String) (handle : Handle) (f : Option Fragment) :
    Agree strict (Generating.declare name handle f) := by
  intro s t h
  rw [AgreeAt, Generating.run_declare, Generating.run_declare, ← h.names]
  by_cases hc : s.names.contains name = true
  · rw [if_pos hc, if_pos hc]
    exact ⟨rfl, h⟩
  · rw [if_neg hc, if_neg hc]
    exact ⟨rfl, { h with names := rfl }⟩

theorem agree_reserve (name : String) : Agree strict (Generating.reserve name) :=
  agree_declare name .reserved none

theorem agree_fill (name : String) (handle : Handle) (f : Option Fragment) :
    Agree strict (Generating.fill name handle f) := by
  intro s t h
  rw [AgreeAt, Generating.run_fill, Generating.run_fill, ← h.names]
  generalize s.names.get? name = found
  rcases found with _ | (_ | _ | _ | _)
  case some.reserved => exact ⟨rfl, { h with names := rfl }⟩
  all_goals exact ⟨rfl, h⟩

/-! ## Compiling a model -/

section Compile

variable {mode : Mode} {annotate : Annotate}

theorem agree_settleAll (ids : List TypeId) : Agree strict (settleAll ids) := by
  induction ids with
  | nil => exact agree_pure ()
  | cons id ids ih =>
    intro s t h
    refine AgreeAt.get ?_
    rw [← h.types, ← h.names]
    cases s.types.model? id with
    | none => exact ih s t h
    | some m =>
      dsimp only
      cases m.settle s.names with
      | error e => exact .throw h e
      | ok m' =>
        have hset : AgreeAt strict s t
            (set { s with types := s.types.set id (.model m') } : Generating Unit)
            (set { t with names := s.names, types := s.types.set id (.model m') }) :=
          ⟨rfl, { h with names := rfl, types := rfl }⟩
        exact hset.bind fun _ => ih

theorem agree_compileFields (hA : ∀ p f, Agree true (annotate p f)) (required : List String)
    (done : List Field) (properties : List (String × Fragment)) :
    Agree true (compileFields annotate required done properties) := by
  induction properties generalizing done with
  | nil => exact agree_pure done
  | cons p rest ih =>
    obtain ⟨property, f⟩ := p
    refine (hA property f).bind fun r => ?_
    obtain ⟨type, isBack⟩ := r
    cases isBack with
    | false => exact ih _
    | true =>
      have hmark : Agree true
          (modify fun st => { st with backReference := true } : Generating Unit) :=
        fun _ _ h => ⟨rfl, { h with session := fun hs => ⟨(h.session hs).1, rfl⟩ }⟩
      exact hmark.bind fun _ => ih _

theorem agree_buildModel (hA : ∀ p f, Agree true (annotate p f)) (name : String) (f : Fragment) :
    Agree true (buildModel mode annotate name f) := by
  refine (agree_ofExcept _).bind fun required => ?_
  refine (agree_compileFields hA required [] f.properties).bind fun fields => ?_
  intro s t h
  refine AgreeAt.get ?_
  rw [← h.types]
  exact ((agree_ofExcept _).bind fun _ => agree_addType _) s t h

/-- Marks and their removal agree if the computation in between does. -/
theorem agree_whilePending (location name : String) {x : Generating α} (hx : Agree true x) :
    Agree true (whilePending location name x) := by
  intro s t h
  have hmark : Alike true (s.mark location name) (t.mark location name) := by
    refine { h with pending := ?_, session := fun _ => h.session (.inl rfl) }
    show Entries.set s.pending location name = Entries.set t.pending location name
    rw [h.pending]
  obtain ⟨hr, hs⟩ := hx _ _ hmark
  rw [AgreeAt, run_whilePending, run_whilePending]
  rcases hxs : x.run (s.mark location name) with ⟨r, s'⟩
  rcases hxt : x.run (t.mark location name) with ⟨r', t'⟩
  rw [hxs, hxt] at hr hs
  dsimp only at hr hs ⊢
  rw [← hs.pending, ← hr]
  by_cases hp : Entries.has s'.pending location = true
  · rw [if_pos hp, if_pos hp]
    refine ⟨rfl, { hs with pending := ?_, session := fun _ => hs.session (.inl rfl) }⟩
    show s'.pending.filter (·.1 != location) = t'.pending.filter (·.1 != location)
    rw [hs.pending]
  · rw [if_neg hp, if_neg hp]
    exact ⟨rfl, hs⟩

theorem agree_endSession (outermost : Bool) : Agree true (endSession outermost) := by
  intro s t h
  refine AgreeAt.get ?_
  obtain ⟨hs, hb⟩ := h.session (.inl rfl)
  rw [← hs, ← hb]
  by_cases hc : (outermost && s.backReference) = true
  · rw [if_pos hc]
    exact agree_settleAll _ s t h
  · rw [if_neg hc]
    exact .pure h ()

/-- Beginning a session makes a likeness strict: either both states get an empty session, or
something is being compiled and the sessions are the same already. -/
theorem agree_beginSession (h : Alike strict s t) :
    AgreeAt true s t (beginSession s.pending.isEmpty) (beginSession t.pending.isEmpty) := by
  rw [← h.pending]
  refine ⟨rfl, ?_⟩
  show Alike true (if s.pending.isEmpty = true then _ else s)
    (if s.pending.isEmpty = true then _ else t)
  by_cases hp : s.pending.isEmpty = true
  · rw [if_pos hp, if_pos hp]
    exact { h with session := fun _ => ⟨rfl, rfl⟩ }
  · rw [if_neg hp, if_neg hp]
    have hne : s.pending ≠ [] := fun he => hp (by rw [he]; rfl)
    exact { h with session := fun _ => h.session (.inr hne) }

theorem agree_compileNew (hA : ∀ p f, Agree true (annotate p f)) (name : String) (f : Fragment)
    (h : Alike strict s t) :
    AgreeAt strict s t (compileNew mode annotate name f s.pending.isEmpty)
      (compileNew mode annotate name f t.pending.isEmpty) := by
  have hsession (id : TypeId) : Agree true
      (modify fun st => { st with session := st.session ++ [id] } : Generating Unit) := by
    intro s t h
    refine ⟨rfl, { h with session := fun hs => ⟨?_, (h.session hs).2⟩ }⟩
    show s.session ++ [id] = t.session ++ [id]
    rw [(h.session hs).1]
  have hrest (outermost : Bool) : Agree true (do
      let id ← whilePending f.location name (buildModel mode annotate name f)
      Generating.declare name (.model id) (some f)
      modify fun st => { st with session := st.session ++ [id] }
      Generating.report (.compiled name f.location)
      endSession outermost
      return Handle.model id) := by
    refine (agree_whilePending _ _ (agree_buildModel hA name f)).bind fun id => ?_
    refine (agree_declare name (.model id) (some f)).bind fun _ => ?_
    refine (hsession id).bind fun _ => ?_
    refine (agree_report _).bind fun _ => ?_
    exact (agree_endSession outermost).bind fun _ => agree_pure _
  have hb := agree_beginSession h
  have hall := hb.bind fun _ => hrest s.pending.isEmpty
  rw [← h.pending] at hall ⊢
  exact ⟨hall.1, hall.2.weaken⟩

theorem agree_compile (hA : ∀ p f, Agree true (annotate p f)) (name : String) (f : Fragment) :
    Agree strict (compile mode annotate name f) := by
  intro s t h
  unfold compile
  by_cases ho : f.isObject = true
  · rw [if_pos ho]
    refine AgreeAt.get ?_
    rw [← h.names]
    cases s.names.typeOf? f with
    | some handle => exact .pure h handle
    | none => exact agree_compileNew hA name f h
  · rw [if_neg ho]
    exact .throw h _

/-! ## Generating a union -/

theorem agree_branchTarget (branch : Fragment) : Agree strict (branchTarget branch) := by
  have hcheck (target : Fragment) : Agree strict (if target.isObject then return target
      else throw (.generation (.nonObject target.location target.content)) :
        Generating Fragment) := by
    by_cases ho : target.isObject = true
    · rw [if_pos ho]
      exact agree_pure target
    · rw [if_neg ho]
      exact agree_throw _
  unfold branchTarget
  by_cases hr : branch.ref.isSome = true
  · simp only [hr, if_true]
    exact (agree_onStore (transparent_resolve branch)).bind hcheck
  · simp only [hr]
    exact (agree_pure branch).bind hcheck

theorem agree_nameBranch (base : String) (branch : Fragment) :
    Agree strict (nameBranch mode base branch) := by
  unfold nameBranch
  cases branch.ref with
  | some ref => exact agree_declaredNames.bind fun _ => agree_ofExcept _
  | none =>
    intro s t h
    have hcount : Alike strict { s with counters := s.counters.advance base }
        { t with counters := t.counters.advance base } := by
      refine { h with counters := ?_ }
      rw [h.counters]
    refine AgreeAt.bind ⟨rfl, hcount⟩ fun _ s' t' h' => AgreeAt.get ?_
    rw [← h'.counters, ← h'.names]
    exact .pure h' _

theorem agree_branchType (hA : ∀ p f, Agree true (annotate p f)) (base : String)
    (branch target : Fragment) :
    Agree strict (branchType mode annotate base branch target) := by
  intro s t h
  refine AgreeAt.get ?_
  rw [← h.names, ← h.types]
  rcases s.names.typeOf? target with _ | (_ | id | id | text)
  · refine (agree_nameBranch base branch s t h).bind fun name => ?_
    exact (agree_compile hA name target).bind fun _ => agree_pure _
  · exact .throw h _
  · exact .pure h _
  · exact .pure h _
  · exact .throw h _

theorem agree_compileVariant (hA : ∀ p f, Agree true (annotate p f)) (base : String)
    (branch : Fragment) : Agree strict (compileVariant mode annotate base branch) := by
  refine (agree_branchTarget branch).bind fun target => ?_
  refine (agree_branchType hA base branch target).bind fun r => ?_
  obtain ⟨typeName, handle⟩ := r
  refine (agree_report _).bind fun _ => ?_
  intro s t h
  refine AgreeAt.get ?_
  rw [← h.types]
  exact agree_ofExcept _ s t h

theorem agree_compileVariants (hA : ∀ p f, Agree true (annotate p f)) (base : String)
    (branches : List Fragment) :
    Agree strict (compileVariants mode annotate base branches) := by
  induction branches with
  | nil => exact agree_pure []
  | cons b bs ih =>
    exact (agree_compileVariant hA base b).bind fun _ => ih.bind fun _ => agree_pure _

theorem agree_draftUnion (hA : ∀ p f, Agree true (annotate p f)) (base : String) (f : Fragment) :
    Agree strict (draftUnion mode annotate base f) := by
  refine agree_declaredNames.bind fun declared => ?_
  refine (agree_reserve _).bind fun _ => ?_
  refine (agree_report _).bind fun _ => ?_
  refine (agree_compileVariants hA base f.branches).bind fun variants => ?_
  refine (agree_ofExcept _).bind fun union => ?_
  exact (agree_addType _).bind fun id => agree_pure _

theorem agree_buildUnion (hA : ∀ p f, Agree true (annotate p f)) (base : String) (f : Fragment) :
    Agree strict (buildUnion mode annotate base f) := by
  have hmark : Agree strict (modify fun st =>
      { st with inProgress := f.location :: st.inProgress } : Generating Unit) := by
    intro s t h
    refine ⟨rfl, { h with inProgress := ?_ }⟩
    show f.location :: s.inProgress = f.location :: t.inProgress
    rw [h.inProgress]
  have hfinish (id : TypeId) : Agree strict (modify fun st => { st with
      inProgress := st.inProgress.filter (· != f.location)
      unions := Entries.set st.unions f.location id } : Generating Unit) := by
    intro s t h
    refine ⟨rfl, { h with inProgress := ?_, unions := ?_ }⟩
    · show Entries.set s.unions f.location id = Entries.set t.unions f.location id
      rw [h.unions]
    · show s.inProgress.filter (· != f.location) = t.inProgress.filter (· != f.location)
      rw [h.inProgress]
  refine hmark.bind fun _ => ?_
  refine (agree_draftUnion hA base f).bind fun r => ?_
  obtain ⟨name, id⟩ := r
  refine (agree_fill name (.union id) (some f)).bind fun _ => ?_
  exact (hfinish id).bind fun _ => agree_pure id

theorem agree_unionAtTarget (hA : ∀ p f, Agree true (annotate p f)) (base : String)
    (f : Fragment) : Agree strict (unionAtTarget mode annotate base f) := by
  intro s t h
  refine AgreeAt.get ?_
  rw [← h.unions, ← h.inProgress]
  cases Entries.get? s.unions f.location with
  | some id => exact .pure h id
  | none =>
    dsimp only
    by_cases hc : s.inProgress.contains f.location = true
    · rw [if_pos hc]
      exact .throw h _
    · rw [if_neg hc]
      by_cases hb : f.branches.isEmpty = true
      · rw [if_pos hb]
        exact .throw h _
      · rw [if_neg hb]
        exact agree_buildUnion hA base f s t h

theorem agree_unionOf (hA : ∀ p f, Agree true (annotate p f)) (base : String) (f : Fragment) :
    Agree strict (unionOf mode annotate base f) :=
  (agree_onStore (transparent_resolve f)).bind (agree_unionAtTarget hA base)

/-! ## The types of fields -/

theorem agree_itemType (hA : ∀ p f, Agree true (annotate p f)) (property : String)
    (f : Fragment) : Agree true (itemType annotate property f) := by
  unfold itemType
  split
  · exact hA _ _
  · exact agree_pure _

theorem agree_objectType (hA : ∀ p f, Agree true (annotate p f)) (property : String)
    (reference : Option String) (f : Fragment) :
    Agree true (objectType mode annotate property reference f) := by
  unfold objectType
  by_cases hp : f.properties.isEmpty = true
  · rw [if_pos hp]
    exact agree_pure _
  · rw [if_neg hp]
    refine (agree_ofExcept _).bind fun raw => ?_
    refine agree_declaredNames.bind fun declared => ?_
    exact (agree_compile hA _ f).bind fun _ => agree_pure _

theorem agree_typeFor (hA : ∀ p f, Agree true (annotate p f)) (property : String)
    (reference : Option String) (f : Fragment) (jsonType : String) :
    Agree true (typeFor mode annotate property reference f jsonType) := by
  unfold typeFor
  split
  case h_1 => exact agree_objectType hA property reference f
  case h_2 =>
    refine (agree_itemType hA property f).bind fun r => ?_
    exact agree_pure _
  all_goals exact agree_pure _

theorem agree_typesFor (hA : ∀ p f, Agree true (annotate p f)) (property : String)
    (reference : Option String) (f : Fragment) (jsonTypes : List String) :
    Agree true (typesFor mode annotate property reference f jsonTypes) := by
  induction jsonTypes with
  | nil => exact agree_pure _
  | cons j js ih =>
    refine (agree_typeFor hA property reference f j).bind fun r => ?_
    exact ih.bind fun _ => agree_pure _

theorem agree_newType (hA : ∀ p f, Agree true (annotate p f)) (property : String)
    (reference : Option String) (f : Fragment) :
    Agree true (newType mode annotate property reference f) := by
  unfold newType
  by_cases ho : f.hasOneOf = true
  · rw [if_pos ho]
    by_cases hn : mode.nestedUnions = true
    · rw [if_pos hn]
      exact (agree_unionOf hA property f).bind fun _ => agree_pure _
    · rw [if_neg hn]
      exact agree_pure _
  · rw [if_neg ho]
    cases literals? f with
    | some values => exact agree_pure _
    | none =>
      show Agree true (typeByJsonTypes mode annotate property reference f)
      unfold typeByJsonTypes
      by_cases ht : (f.types.isEmpty && !f.isObject) = true
      · rw [if_pos ht]
        exact agree_pure _
      · rw [if_neg ht]
        exact (agree_typesFor hA property reference f _).bind fun _ => agree_pure _

theorem agree_annotateOnce (hA : ∀ p f, Agree true (annotate p f)) (property : String)
    (f : Fragment) : Agree true (annotateOnce mode annotate property f) := by
  refine (agree_onStore (transparent_resolveChain f)).bind fun chain => ?_
  intro s t h
  refine AgreeAt.get ?_
  rw [← h.pending, ← h.names]
  cases Entries.get? s.pending chain.target.location with
  | some name => exact .pure h _
  | none =>
    cases s.names.typeOf? chain.target with
    | some handle => exact .pure h _
    | none => exact agree_newType hA property _ chain.target s t h

end Compile

/-- Finding the type of a field agrees, at every depth. -/
theorem agree_annotateWithin (mode : Mode) (depth : Nat) (property : String) (f : Fragment) :
    Agree true (annotateWithin mode depth property f) := by
  induction depth generalizing property f with
  | zero => exact agree_throw _
  | succ depth ih => exact agree_annotateOnce ih property f

/-- A roll-back undoes the same on both sides. -/
theorem Alike.rolledBack {s' t' : Generation} (h : Alike strict s t) (h' : Alike strict s' t') :
    Alike strict (s.rolledBack s') (t.rolledBack t') :=
  { h with
    documents := h'.documents
    inProgress := rfl
    pending := h'.pending
    session := h'.session }

/-- Whole generations agree on alike states. -/
theorem agree_generate (mode : Mode) (base : String) (f : Fragment) :
    Agree strict (generate mode base f) := by
  intro s t h
  obtain ⟨hr, hs⟩ := agree_unionOf (agree_annotateWithin mode mode.depth) base f s t h
  show (generate mode base f s).1 = (generate mode base f t).1 ∧
    Alike strict (generate mode base f s).2 (generate mode base f t).2
  unfold generate annotate
  rcases hx : (unionOf mode (annotateWithin mode mode.depth) base f).run s with ⟨r, s'⟩
  rcases hy : (unionOf mode (annotateWithin mode mode.depth) base f).run t with ⟨r', t'⟩
  rw [hx, hy] at hr hs
  dsimp only at hr hs
  subst hr
  rcases r with e | id
  · cases e with
    | generation e => exact ⟨rfl, h.rolledBack hs⟩
    | _ => exact ⟨rfl, hs⟩
  · exact ⟨rfl, hs⟩

end ShapeSum
