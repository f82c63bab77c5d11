import ShapeSum.Generation.Generate
import ShapeSum.Proofs.Run

/-!
# Where failures come from

A compilation fails for a reason of its bookkeeping only by its own two steps, the
removal of its mark and the declaration of its name.  It gives up for depth only where
it follows references or goes on to a property, and it calls a union recursive only where
one is asked for.  The results that the other steps look at are `Ordinary`: when they are
failures, they are none of those.
-/

namespace ShapeSum

variable {α : Type}

/-- Whether a failure is one of the guards of the recursion: something is nested too deep, or a union
is met while it is being generated. -/
def Failure.ofRecursion : Failure → Bool
  | .tooDeep => true
  | .generation (.recursiveUnion _) => true
  | _ => false

/-- A result that is no failure of the bookkeeping of compilations, nor of the guards of the
recursion. -/
def Ordinary (r : Except Failure α) : Prop :=
  ∀ e, r = .error e → e.ofBookkeeping = false ∧ e.ofRecursion = false

theorem Ordinary.ok (a : α) : Ordinary (.ok a) := fun _ h => nomatch h

theorem Ordinary.error {e : Failure} (he : e.ofBookkeeping = false ∧ e.ofRecursion = false) :
    Ordinary (.error e : Except Failure α) := by
  intro e' h
  cases h
  exact he

theorem Ordinary.plain {r : Except Failure α} (h : Ordinary r) : Plain r := fun e he => (h e he).1

/-- A fault of a URI is ordinary. -/
theorem ordinary_uri (r : Except Uri.Fault α) : Ordinary (r.mapError .uri) := by
  cases r with
  | ok a => exact .ok a
  | error f => exact .error ⟨rfl, rfl⟩

/-! ## Compiling a model -/

theorem ordinary_requiredNames (f : Fragment) : Ordinary (requiredNames f) := by
  unfold requiredNames
  split
  · split
    · exact .error ⟨rfl, rfl⟩
    · exact .ok _
  · exact .ok _

/-- A back reference that cannot be left for later is a fault of the schema's names. -/
theorem ordinary_of_backReferenceFault {fields : List Field} {f : Field} {name : String}
    {e : Failure} (h : backReferenceFault? fields f name = some e) :
    e.ofBookkeeping = false ∧ e.ofRecursion = false := by
  unfold backReferenceFault? at h
  split at h
  · cases h
    exact ⟨rfl, rfl⟩
  · split at h
    · split at h
      · split at h <;> cases h <;> exact ⟨rfl, rfl⟩
      · cases h
        exact ⟨rfl, rfl⟩
    · cases h

theorem ordinary_resolveOwn (model : String) (id : TypeId) (fields : List Field) :
    Ordinary (resolveOwn model id fields) := by
  unfold resolveOwn
  dsimp only
  split
  · rename_i e he
    obtain ⟨f, -, hf⟩ := List.exists_of_findSome?_eq_some he
    obtain ⟨n, -, hn⟩ := List.exists_of_findSome?_eq_some hf
    exact .error (ordinary_of_backReferenceFault hn)
  · exact .ok _

theorem ordinary_finishFields (model : String) (id : TypeId) (fields : List Field) :
    Ordinary (finishFields model id fields) := by
  unfold finishFields
  split
  · exact .error ⟨rfl, rfl⟩
  · exact ordinary_resolveOwn model id fields

theorem ordinary_settle (names : Namespace) (m : Model) : Ordinary (m.settle names) := by
  unfold Model.settle
  dsimp only
  split
  · exact .error ⟨rfl, rfl⟩
  · exact .ok _

/-! ## Generating a union -/

theorem ordinary_nestedName (property : String) (reference : Option String) :
    Ordinary (nestedName property reference) := by
  cases reference with
  | none => exact .ok property
  | some ref => exact ordinary_uri _

theorem ordinary_variant (types : Types) (mode : Mode) (typeName source : String)
    (handle : Handle) : Ordinary (types.variant mode typeName source handle) := by
  cases handle with
  | model id =>
    unfold Types.variant
    dsimp only
    cases types.model? id with
    | none => exact .error ⟨rfl, rfl⟩
    | some m =>
      dsimp only [Model.descriptor, Descriptor.make]
      split
      · exact .ok _
      · exact .error ⟨rfl, rfl⟩
  | _ => exact .error ⟨rfl, rfl⟩

/-- Variants clash by their names or by their tags. -/
theorem ordinary_of_variantClash {union : String} {seen variants : List Descriptor}
    {e : GenerationError} (h : variantClash? union seen variants = some e) :
    (Failure.generation e).ofBookkeeping = false ∧ (Failure.generation e).ofRecursion = false := by
  induction variants generalizing seen with
  | nil => cases h
  | cons d ds ih =>
    unfold variantClash? at h
    split at h
    · cases h
      exact ⟨rfl, rfl⟩
    · split at h
      · cases h
        exact ⟨rfl, rfl⟩
      · exact ih h

theorem ordinary_assembleUnion (mode : Mode) (name location : String) (variants : List Variant) :
    Ordinary (assembleUnion mode name location variants) := by
  unfold assembleUnion
  split
  · rename_i e he
    refine .error ?_
    unfold unionFault? at he
    split at he
    · rename_i clash hc
      cases he
      exact ordinary_of_variantClash hc
    · obtain ⟨d, -, rfl⟩ := Option.map_eq_some_iff.1 he
      exact ⟨rfl, rfl⟩
  · exact .ok _

end ShapeSum
