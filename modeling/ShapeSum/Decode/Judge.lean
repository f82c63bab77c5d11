import ShapeSum.Decode.Convert
import ShapeSum.Decode.Dispatch

/-!
# Decoding by type

A type judges a value: it takes the value, perhaps converted, or gives the issues
that speak against it.  A judgement of a container rests on the judgements of its
parts, and a choice of types on the judgements of the same value by its options.
So `judge` recurses on the type, and `judgement` on the value: it hands to `judge`
the judgements of the parts as functions of a type.

Among the options of a choice the first that takes the value exactly decides.  If
there is none, the option with the most fields set wins, then the closest one,
then the first.

A union that comes upon a model that was never completed has no verdict on the value.
Its issue ends the choices around it, and the model that looked at it has no verdict either.
-/

namespace ShapeSum

/-- A value as a type takes it. -/
structure Taken where
  /-- The value, converted. -/
  value : Value
  /-- How closely it fits. -/
  exactness : Exactness
  /-- How many fields of models were set in it, if there are any models. -/
  fieldCount : Option Nat

/-- A value as taken, or the issues that speak against it. -/
abbrev Judgement := Except (List Issue) Taken

/-- What a type makes of a value. -/
abbrev Judge := FieldType → Judgement

/-- The judgements of the parts of a value. -/
structure PartJudges where
  /-- Those of the items of a list. -/
  items : List Judge := []
  /-- Those of the entries of an object. -/
  entries : List (String × Judge) := []

namespace Taken

/-- A value of exactly the right type. -/
def exact (v : Value) : Taken := ⟨v, .exact, none⟩

/-- The sum of two counts, where there are any. -/
def addCounts : Option Nat → Option Nat → Option Nat
  | some a, some b => some (a + b)
  | none, b => b
  | a, none => a

/-- Whether a value taken later is to be preferred to one taken before. -/
def better (new old : Taken) : Bool :=
  match old.fieldCount, new.fieldCount with
  | some m, some n => if m ≠ n then m < n else old.exactness.rank < new.exactness.rank
  | _, _ => old.exactness.rank < new.exactness.rank

end Taken

/-! ## Putting judgements together -/

/-- A conversion as a judgement. -/
def judgeScalar {α : Type} (wrap : α → Value) (r : Except Mismatch (α × Exactness)) : Judgement :=
  match r with
  | .ok (a, e) => .ok ⟨wrap a, e, none⟩
  | .error m => .error [⟨[], m⟩]

/-- Parts taken together: their values under their keys, their least exactness and the sum of
their counts. -/
structure TakenParts where
  /-- The values. -/
  values : List (String × Value) := []
  /-- The least exactness. -/
  exactness : Exactness := .exact
  /-- The sum of the counts. -/
  fieldCount : Option Nat := none

/-- The judgements of named parts together; the issues of all parts are kept.  Each part comes
with the step of the path that leads to it and the key that its value is kept under. -/
def judgeParts : List (String × String × Judgement) → Except (List Issue) TakenParts
  | [] => .ok {}
  | (step, key, j) :: rest =>
    match j, judgeParts rest with
    | .ok t, .ok p =>
      .ok ⟨(key, t.value) :: p.values, t.exactness.min p.exactness,
        Taken.addCounts t.fieldCount p.fieldCount⟩
    | .ok _, .error is => .error is
    | .error is, .ok _ => .error (is.map (Issue.under step))
    | .error is, .error js => .error (is.map (Issue.under step) ++ js)

/-- The items of a list judged by one type, under their indices from a number on. -/
def itemParts (item : FieldType) (start : Nat) : List Judge → List (String × String × Judgement)
  | [] => []
  | j :: js => (toString start, "", j item) :: itemParts item (start + 1) js

/-- A list judged by the type of its items. -/
def judgeItems (wrap : List Value → Value) (least : Exactness) (item : FieldType)
    (items : List Judge) : Judgement :=
  (judgeParts (itemParts item 0 items)).map fun p =>
    ⟨wrap (p.values.map Prod.snd), least.min p.exactness, p.fieldCount⟩

/-! ## Models -/

/-- The key that a field is found under, and the entry there: the name of the property, or else
that of the attribute. -/
def Field.find? {α : Type} (f : Field) (entries : Entries α) : Option (String × α) :=
  match entries.get? f.property with
  | some a => some (f.property, a)
  | none => (entries.get? f.name).map (f.name, ·)

/-- The parts of an object that the fields of a model find in it. -/
def fieldParts (entries : List (String × Judge)) : List Field → List (String × String × Judgement)
  | [] => []
  | f :: fs =>
    match f.find? entries with
    | some (key, j) => (key, f.name, j f.type) :: fieldParts entries fs
    | none =>
      if f.required then
        (f.property, f.name, .error [⟨[], .missing⟩]) :: fieldParts entries fs
      else fieldParts entries fs

/-- The issues for the keys that no field uses. -/
def extraIssues (fields : List Field) (entries : List (String × Judge)) : List Issue :=
  let used := (fields.filterMap (·.find? entries)).map Prod.fst
  (entries.filter fun e => !used.contains e.1).map fun e => ⟨[e.1], .extra⟩

/-- An object judged by a model. -/
def judgeFields (id : TypeId) (m : Model) (entries : List (String × Judge)) : Judgement :=
  match judgeParts (fieldParts entries m.fields), extraIssues m.fields entries with
  | .ok p, [] =>
    .ok ⟨.record id p.values, .lax, Taken.addCounts (some p.values.length) p.fieldCount⟩
  | .ok _, extra => .error extra
  | .error is, extra => .error (is ++ extra)

/-- A value judged by the model at a place. -/
def judgeModel (types : Types) (id : TypeId) (v : Value) (parts : PartJudges) : Judgement :=
  match types.model? id with
  | none => .error [⟨[], .unresolved ""⟩]
  | some m => match v with
    | .record id' fields =>
      if id' = id then .ok (Taken.exact (.record id' fields)) else .error [⟨[], .model m.name⟩]
    | .dict _ => judgeFields id m parts.entries
    | _ => .error [⟨[], .model m.name⟩]

/-! ## Unions -/

/-- The value of a model made from a value, or the error. -/
def materializeWith (types : Types) (id : TypeId) (v : Value) (parts : PartJudges) :
    Except DecodeError Value :=
  if types.isComplete id then
    match judgeModel types id v parts with
    | .ok t => .ok t.value
    | .error is => match undefinedIn? is with
      | some typeName => .error (.incomplete typeName)
      | none => .error (.rejected (types.nameOf id) is)
  else .error (.incomplete (types.nameOf id))

/-- An object dispatched over the variants of a union. -/
def dispatchWith (types : Types) (u : UnionType) (v : Value) (parts : PartJudges) : Dispatch :=
  dispatchOver u.tagged (Entries.keys parts.entries) fun w => materializeWith types w.type v parts

/-- A value judged by the union at a place. -/
def judgeUnion (types : Types) (id : TypeId) (v : Value) (parts : PartJudges) : Judgement :=
  let refuse (message : String) : Judgement := .error [⟨[], .union message⟩]
  match types.union? id with
  | none => .error [⟨[], .unresolved ""⟩]
  | some u =>
    let foreign := refuse s!"{u.name} expects an object, got {v.kind types}"
    match v with
    | .choice id' tag payload =>
      if id' = id then .ok (Taken.exact (.choice id' tag payload)) else foreign
    | .dict _ =>
      let d := dispatchWith types u v parts
      match d.outcome with
      | .matched w payload => .ok (Taken.exact (.choice id w.tag payload))
      | .failed _ (.incomplete typeName) => .error [⟨[], .undefined typeName⟩]
      | .failed _ e => refuse e.message
      | .noMatch => refuse (noMatchMessage u.name d.keys)
    | _ => foreign

/-! ## Types -/

/-- The best of the values that the options of a choice take; `best` is the best so far.  The
issues of the options count only when none takes the value. -/
def chooseBest (best : Option Taken) (issues : List Issue) :
    List (String × Judgement) → Judgement
  | [] => match best with
    | some t => .ok t
    | none => .error issues
  | (label, j) :: rest =>
    match j with
    | .ok t =>
      if t.exactness = .exact ∧ t.fieldCount = none then .ok t
      else match best with
        | none => chooseBest (some t) issues rest
        | some b => chooseBest (some (if t.better b then t else b)) issues rest
    | .error is =>
      if (undefinedIn? is).isSome then .error is
      else chooseBest best (issues ++ is.map (Issue.under label)) rest

/-- The judgement of the options of a choice besides null: one alone speaks without a label. -/
def judgeChoice : List (String × Judgement) → Judgement
  | [(_, j)] => j
  | js => chooseBest none [] js

mutual

/-- What a type makes of a value, given what types make of its parts. -/
def judge (types : Types) (v : Value) (parts : PartJudges) : FieldType → Judgement
  | .text => judgeScalar .str (Convert.text v)
  | .integer => judgeScalar .int (Convert.integer v)
  | .number => judgeScalar .float (Convert.number v)
  | .boolean => judgeScalar .bool (Convert.truth v)
  | .null => match v with
    | .null => .ok (Taken.exact .null)
    | _ => .error [⟨[], .null⟩]
  | .any => .ok ⟨v, .lax, none⟩
  | .object => match v with
    | .dict [] => .ok (Taken.exact (.dict []))
    | .dict (e :: es) => .ok ⟨.dict (e :: es), .lax, none⟩
    | _ => .error [⟨[], .object⟩]
  | .list t => match v with
    | .list _ => judgeItems .list .exact t parts.items
    | _ => .error [⟨[], .list⟩]
  | .tuple t => match v with
    | .tuple _ => judgeItems .tuple .exact t parts.items
    | .list _ => judgeItems .tuple .lax t parts.items
    | _ => .error [⟨[], .tuple⟩]
  | .literal values => judgeScalar Value.ofLiteral (Convert.literal values v)
  | .model id => judgeModel types id v parts
  | .union id => judgeUnion types id v parts
  | .named name => .error [⟨[], .unresolved name⟩]
  | .choice os =>
    match v, os.any (FieldType.same .null) with
    | .null, true => .ok (Taken.exact .null)
    | v, _ => judgeChoice (judgeOptions types v parts os)

/-- What the options of a choice besides null make of a value, under their labels. -/
def judgeOptions (types : Types) (v : Value) (parts : PartJudges) :
    List FieldType → List (String × Judgement)
  | [] => []
  | o :: os =>
    if FieldType.same o .null then judgeOptions types v parts os
    else (o.label types.nameOf, judge types v parts o) :: judgeOptions types v parts os

end

mutual

/-- What types make of a value. -/
def judgement (types : Types) : Value → Judge
  | .list items => judge types (.list items) { items := itemJudgements types items }
  | .tuple items => judge types (.tuple items) { items := itemJudgements types items }
  | .dict entries => judge types (.dict entries) { entries := entryJudgements types entries }
  | v => judge types v {}

/-- What types make of the items of a list. -/
def itemJudgements (types : Types) : List Value → List Judge
  | [] => []
  | x :: xs => judgement types x :: itemJudgements types xs

/-- What types make of the entries of an object. -/
def entryJudgements (types : Types) : List (String × Value) → List (String × Judge)
  | [] => []
  | (k, v) :: es => (k, judgement types v) :: entryJudgements types es

end

/-- The judgements of the parts of a value. -/
def partJudges (types : Types) : Value → PartJudges
  | .list items => { items := itemJudgements types items }
  | .tuple items => { items := itemJudgements types items }
  | .dict entries => { entries := entryJudgements types entries }
  | _ => {}

/-- The judgement of a value is that of its type, given those of its parts. -/
theorem judgement_eq (types : Types) (v : Value) :
    judgement types v = judge types v (partJudges types v) := by
  cases v <;> simp [judgement, partJudges]

/-! ## Entry points -/

/-- The value of the model at a place made from data. -/
def materialize (types : Types) (id : TypeId) (v : Value) : Except DecodeError Value :=
  materializeWith types id v (partJudges types v)

/-- An object dispatched over the variants of a union. -/
def dispatch (types : Types) (u : UnionType) (entries : List (String × Value)) : Dispatch :=
  dispatchWith types u (.dict entries) (partJudges types (.dict entries))

end ShapeSum
