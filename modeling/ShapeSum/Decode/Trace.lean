import ShapeSum.Decode.Judge
import ShapeSum.Event

/-!
# Traces of decoding

The trace of a dispatch lists the variants that are tried, and then the dispatches
of the unions inside the object, in the order in which its parts are judged.  The
options of a choice are judged in turn until one takes the value exactly.
-/

namespace ShapeSum

/-- What is reported when a type judges a value. -/
abbrev Trace := FieldType → List Event

/-- The traces of the parts of a value. -/
structure PartTraces where
  /-- Those of the items of a list. -/
  items : List Trace := []
  /-- Those of the entries of an object. -/
  entries : Entries Trace := []

/-- The events of the choice of a variant for some keys. -/
def traceSelect (keys : List String) : List Variant → List Event
  | [] => []
  | v :: vs =>
    .tried v.tag v.required v.optional :: match v.toDescriptor.rejection? keys with
      | some (.missing _ _) => traceSelect keys vs
      | some (.extra _ names) => .delta v.tag names :: traceSelect keys vs
      | none => [.delta v.tag []]

/-- The events of an object judged by the model at a place. -/
def traceModel (types : Types) (id : TypeId) (traces : Entries Trace) : List Event :=
  (types.fieldsOf id).flatMap fun f => match f.find? traces with
    | some (_, t) => t f.type
    | none => []

/-- The events of the dispatch of an object over a union. -/
def traceDispatch (types : Types) (u : UnionType) (traces : Entries Trace) : List Event :=
  let keys := sortedNames (Entries.keys traces)
  .dispatched u.name u.variants.length keys :: traceSelect keys u.tagged ++
    match (select keys u.tagged).2 with
    | some v => if types.isComplete v.type then traceModel types v.type traces else []
    | none => []

/-- The events of the options of a choice, up to the one that takes the value exactly. -/
def traceOptions : List (String × Judgement) → List (List Event) → List Event
  | (_, j) :: js, t :: ts =>
    t ++ match j with
      | .ok taken =>
        if taken.exactness = .exact ∧ taken.fieldCount = none then [] else traceOptions js ts
      | .error _ => traceOptions js ts
  | _, _ => []

mutual

/-- What is reported when a type judges a value, given what types report on its parts. -/
def traceWith (types : Types) (v : Value) (parts : PartJudges) (traces : PartTraces) : Trace
  | .list t => match v with
    | .list _ => traces.items.flatMap (· t)
    | _ => []
  | .tuple t => match v with
    | .list _ => traces.items.flatMap (· t)
    | .tuple _ => traces.items.flatMap (· t)
    | _ => []
  | .model id => match v with
    | .dict _ => traceModel types id traces.entries
    | _ => []
  | .union id => match types.union? id, v with
    | some u, .dict _ => traceDispatch types u traces.entries
    | _, _ => []
  | .choice os =>
    match v, os.any (FieldType.same .null) with
    | .null, true => []
    | v, _ => traceOptions (judgeOptions types v parts os) (traceAll types v parts traces os)
  | _ => []

/-- What is reported by the options of a choice besides null. -/
def traceAll (types : Types) (v : Value) (parts : PartJudges) (traces : PartTraces) :
    List FieldType → List (List Event)
  | [] => []
  | o :: os =>
    if FieldType.same o .null then traceAll types v parts traces os
    else traceWith types v parts traces o :: traceAll types v parts traces os

end

mutual

/-- What is reported when types judge a value. -/
def trace (types : Types) : Value → Trace
  | .list items => traceWith types (.list items) (partJudges types (.list items))
      { items := itemTraces types items }
  | .tuple items => traceWith types (.tuple items) (partJudges types (.tuple items))
      { items := itemTraces types items }
  | .dict entries => traceWith types (.dict entries) (partJudges types (.dict entries))
      { entries := entryTraces types entries }
  | v => traceWith types v {} {}

/-- What is reported when types judge the items of a list. -/
def itemTraces (types : Types) : List Value → List Trace
  | [] => []
  | x :: xs => trace types x :: itemTraces types xs

/-- What is reported when types judge the entries of an object. -/
def entryTraces (types : Types) : List (String × Value) → Entries Trace
  | [] => []
  | (k, v) :: es => (k, trace types v) :: entryTraces types es

end

/-- The trace of an object dispatched over the variants of a union. -/
def dispatchTrace (types : Types) (u : UnionType) (entries : List (String × Value)) : List Event :=
  traceDispatch types u (entryTraces types entries)

end ShapeSum
