import ShapeSum.Decode.Judge
import ShapeSum.Proofs.Generation.Marks

/-!
# Sessions

A session answers requests one after the other: documents are added, fragments
looked up, unions generated and objects decoded.  A state is *reachable* when it
comes about by generations and compilations in any order and under any settings,
whatever happens to documents and names in between, and also when a generation
starts over on the types that another one left.
-/

namespace ShapeSum

variable {mode : Mode} {s : Generation}

/-! ## Requests and answers -/

/-- What a session may be asked. -/
inductive Request where
  /-- Add a document. -/
  | add (uri : String) (content : Json)
  /-- Look up a fragment. -/
  | locate (uri pointer : String)
  /-- Generate the union of a fragment. -/
  | generate (base : String) (f : Fragment)
  /-- Dispatch an object over the variants of a union. -/
  | decode (union : TypeId) (entries : List (String × Value))

/-- What a session answers. -/
inductive Answer where
  /-- The document was added. -/
  | added
  /-- The fragment, or why there is none. -/
  | located (r : Except Failure Fragment)
  /-- The union with its place, or why there is none. -/
  | generated (r : Except Failure (TypeId × Option UnionType))
  /-- The result of the dispatch, if there is such a union. -/
  | decoded (d : Option Dispatch)

/-- The answer to a request, and the state after it. -/
def Request.run (mode : Mode) : Request → Generation → Answer × Generation
  | .add uri content, s => (.added, { s with store := s.store.add uri content })
  | .locate uri pointer, s =>
    let (r, store) := (Store.fragment uri pointer).run s.store
    (.located r, { s with store })
  | .generate base f, s =>
    let (r, s') := (ShapeSum.generate mode base f).run s
    (.generated (r.map fun id => (id, s'.types.union? id)), s')
  | .decode union entries, s =>
    (.decoded ((s.types.union? union).map fun u => dispatch s.types u entries), s)

theorem Request.run_generate (base : String) (f : Fragment) :
    (Request.generate base f).run mode s =
      (.generated (((ShapeSum.generate mode base f).run s).1.map fun id =>
        (id, ((ShapeSum.generate mode base f).run s).2.types.union? id)),
      ((ShapeSum.generate mode base f).run s).2) := rfl

/-- The answers to requests in turn, and the state after them. -/
def answerAll (mode : Mode) : List Request → Generation → List Answer × Generation
  | [], s => ([], s)
  | q :: qs, s =>
    let (a, s') := q.run mode s
    let (as, s'') := answerAll mode qs s'
    (a :: as, s'')

/-- Whether an answer is no failure that escapes from a generation. -/
def Answer.isSettled : Answer → Bool
  | .generated (.error (.generation _)) => true
  | .generated (.error _) => false
  | _ => true

/-! ## What one generation leaves -/

/-- The failure of a generation is that of its run, and its state is that of the run or the state
that the run is rolled back to. -/
theorem generate_run (mode : Mode) (base : String) (f : Fragment) (s : Generation) :
    ((generate mode base f).run s).1 = ((unionOf mode (annotate mode) base f).run s).1 ∧
      ((generate mode base f).run s).2 =
        match ((unionOf mode (annotate mode) base f).run s).1 with
        | .error (.generation _) => s.rolledBack ((unionOf mode (annotate mode) base f).run s).2
        | _ => ((unionOf mode (annotate mode) base f).run s).2 := by
  show (generate mode base f s).1 = _ ∧ (generate mode base f s).2 = _
  unfold generate
  rcases (unionOf mode (annotate mode) base f).run s with ⟨e | id, s'⟩
  · cases e <;> exact ⟨rfl, rfl⟩
  · exact ⟨rfl, rfl⟩

/-- A generation leaves no marks of compilations behind. -/
theorem pending_generate (base : String) (f : Fragment) (hs : s.pending = []) :
    ((generate mode base f).run s).2.pending = [] := by
  obtain ⟨calls, hc⟩ := exists_makes mode base f s
  have hp := Course.pending_eq_nil hc hs
  rw [(generate_run mode base f s).2]
  split <;> exact hp

/-! ## Reachable states -/

/-- The states that generations and compilations reach. -/
inductive Reachable : Generation → Prop
  /-- The state before anything was generated. -/
  | fresh (store : Store) : Reachable { store }
  /-- A generation starts over on the types that are there, under any names. -/
  | anew {s : Generation} (store : Store) (names : Namespace) : Reachable s →
      Reachable { store, names, types := s.types }
  /-- Documents are added or loaded. -/
  | stored {s : Generation} (store : Store) : Reachable s → Reachable { s with store }
  /-- Names are declared by hand, or the names of another time are put back. -/
  | renamed {s : Generation} (names : Namespace) : Reachable s → Reachable { s with names }
  /-- A union is generated, or its generation fails. -/
  | generated {s : Generation} (mode : Mode) (base : String) (f : Fragment) : Reachable s →
      Reachable ((generate mode base f).run s).2
  /-- A fragment is compiled, or its compilation fails. -/
  | compiled {s : Generation} (mode : Mode) (name : String) (f : Fragment) : Reachable s →
      Reachable ((compileModel mode name f).run s).2

/-- Between generations nothing is marked as being compiled. -/
theorem Reachable.pending (h : Reachable s) : s.pending = [] := by
  induction h with
  | fresh store => rfl
  | anew store names h ih => rfl
  | stored store h ih => exact ih
  | renamed names h ih => exact ih
  | generated mode base f h ih => exact pending_generate base f ih
  | compiled mode name f h ih =>
    obtain ⟨calls, hc⟩ := exists_course_compileModel mode name f _
    exact hc.pending_eq_nil ih

/-- The variants of every generated union have their required fields in order. -/
theorem Reachable.ordered (h : Reachable s) : s.types.Ordered := by
  induction h with
  | fresh store => exact fun _ hu => nomatch hu
  | anew store names h ih => exact ih
  | stored store h ih => exact ih
  | renamed names h ih => exact ih
  | @generated s mode base f h ih =>
    obtain ⟨calls, hc⟩ := exists_makes mode base f s
    have ho := Course.ordered hc ih
    rw [(generate_run mode base f s).2]
    split
    · exact ih
    · exact ho
  | compiled mode name f h ih =>
    obtain ⟨calls, hc⟩ := exists_course_compileModel mode name f _
    exact hc.ordered ih

/-- Every state of a session is reachable. -/
theorem Reachable.request (h : Reachable s) (q : Request) : Reachable (q.run mode s).2 := by
  cases q with
  | add uri content => exact .stored _ h
  | locate uri pointer => exact .stored _ h
  | generate base f => exact .generated mode base f h
  | decode union entries => exact h

end ShapeSum
