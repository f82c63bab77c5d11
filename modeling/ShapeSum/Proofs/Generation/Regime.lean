import Mathlib.Data.List.Forall2
import ShapeSum.Proofs.Generation.Failures
import ShapeSum.Proofs.Generation.Session
import ShapeSum.Proofs.Schema.Reach
import ShapeSum.Proofs.Types.Outline

/-!
# Regimes

A regime says what holds while types are found for fragments: of the states, of two
states before and after a computation, of the fragments that are met, and of the type
that is found for one of them.  Its laws are about the elementary steps.  What every
computation keeps follows once for all regimes, function by function along the
recursion.

A computation may be asked for within a depth only.  The depth matters for regimes that
say when it suffices; the others allow every depth and every failure.  A regime knows
two ways how the states before and after are related: a strict one, which holds across
the type of a property, and a loose one, which holds inside a union.  Only there a
fragment may be compiled while it is being compiled already.
-/

namespace ShapeSum

variable {α β : Type} {mode : Mode} {view : String → Fetch}

/-! ## Types for fragments -/

/-- A type suits the fragment where the references from a fragment end. -/
def Suited (view : String → Fetch) (fit : Fragment → FieldType × Bool → Prop) (f : Fragment)
    (r : FieldType × Bool) : Prop :=
  ∃ t, LeadsTo view f t ∧ fit t r

theorem Suited.imp {fit fit' : Fragment → FieldType × Bool → Prop} {f : Fragment}
    {r : FieldType × Bool} (h : Suited view fit f r) (hfit : ∀ t, fit t r → fit' t r) :
    Suited view fit' f r := by
  obtain ⟨t, ht, hr⟩ := h
  exact ⟨t, ht, hfit t hr⟩

/-- A field is made for a property: its type suits the property's fragment, or is the optional type
of one that does. -/
structure FieldFor (suited : Fragment → FieldType × Bool → Prop) (required : List String)
    (p : String × Fragment) (field : Field) : Prop where
  /-- It has the name of the property. -/
  property : field.property = p.1
  /-- It is required if the property is. -/
  required : field.required = (required.contains p.1 || marksRequired p.2)
  /-- It has a type for the property's fragment. -/
  type : ∃ type back, suited p.2 (type, back) ∧
    field.type = if field.required then type else type.optional

theorem FieldFor.imp {suited suited' : Fragment → FieldType × Bool → Prop} {required : List String}
    {p : String × Fragment} {field : Field} (h : FieldFor suited required p field)
    (hs : ∀ f r, suited f r → suited' f r) : FieldFor suited' required p field := by
  obtain ⟨type, back, htype, he⟩ := h.type
  exact ⟨h.property, h.required, type, back, hs _ _ htype, he⟩

/-- The items of a fragment have a type: one that suits the fragment that says what they are, or the
type of everything. -/
def ItemFor (suited : Fragment → FieldType × Bool → Prop) (t : Fragment)
    (r : FieldType × Bool) : Prop :=
  match t.get? "items" with
  | some (.obj ms) => suited (t.part "items" (.obj ms)) r
  | _ => r = (.any, false)

/-- A variant is made for a branch: it has a model for the fragment where the references from the
branch end. -/
def VariantFor (view : String → Fetch) (fit : Fragment → FieldType × Bool → Prop)
    (branch : Fragment) (v : Variant) : Prop :=
  ∃ t, LeadsTo view branch t ∧ t.isObject = true ∧ fit t (.model v.type, false)

/-- The type for a JSON type that is neither that of objects nor that of arrays. -/
def plainType : String → FieldType
  | "string" => .text
  | "integer" => .integer
  | "number" => .number
  | "boolean" => .boolean
  | "null" => .null
  | _ => .any

/-- The JSON types that a fragment declares; one that describes objects without declaring a type is
one of objects. -/
def Fragment.declared (f : Fragment) : List String :=
  if f.types.isEmpty then if f.isObject then ["object"] else [] else f.types

/-- A fragment has its type from the JSON types that it declares. -/
structure Fragment.IsTyped (f : Fragment) : Prop where
  /-- It is no choice between branches. -/
  noBranches : f.hasOneOf = false
  /-- It is no choice between literals. -/
  noLiterals : literals? f = none

/-! ## Marks -/

/-- What is not marked in one state is not marked in another one. -/
def MarksNoMore (s s' : Generation) : Prop :=
  ∀ l, Entries.has s.pending l = false → Entries.has s'.pending l = false

theorem MarksNoMore.of_eq {s s' : Generation} (h : s'.pending = s.pending) : MarksNoMore s s' :=
  fun _ hl => h ▸ hl

theorem MarksNoMore.refl (s : Generation) : MarksNoMore s s := fun _ hl => hl

theorem MarksNoMore.trans {s s' s'' : Generation} (h : MarksNoMore s s')
    (h' : MarksNoMore s' s'') : MarksNoMore s s'' := fun l hl => h' l (h l hl)

/-- A mark that is set may be taken away again. -/
theorem MarksNoMore.unmark {s s' : Generation} {location name : String}
    (h : MarksNoMore (s.mark location name) s') : MarksNoMore s (s'.unmark location) := by
  intro l hl
  rw [Bool.eq_false_iff] at hl ⊢
  intro hl'
  obtain ⟨hne, hl'⟩ := (has_unmark s' location l).1 hl'
  have hfree : Entries.has (s.mark location name).pending l = false :=
    Bool.eq_false_iff.2 fun hm => ((has_mark s location name l).1 hm).elim hne hl
  rw [h l hfree] at hl'
  cases hl'

/-! ## Regimes -/

/-- A step that touches none of the names, unions, types and marks. -/
structure Aside (s s' : Generation) : Prop where
  view : s'.store.view = s.store.view
  names : s'.names = s.names
  unions : s'.unions = s.unions
  types : s'.types = s.types
  pending : s'.pending = s.pending
  inProgress : s'.inProgress = s.inProgress
  backReference : s'.backReference = true → s.backReference = true

/-- What holds while types are found, with the laws of the elementary steps. -/
structure Regime (mode : Mode) (view : String → Fetch) where
  /-- The fragments that are met. -/
  Known : Fragment → Prop
  /-- The states. -/
  Good : Generation → Prop
  /-- The states before and after a computation, strictly or loosely. -/
  After : Bool → Generation → Generation → Prop
  /-- The failures that computations may end in. -/
  Err : Failure → Prop
  /-- The fragments that types are put down for. -/
  New : Fragment → Prop
  /-- Within a depth the type of a fragment may be asked for. -/
  May : Nat → Generation → Fragment → Prop
  /-- With the types of its properties found within a depth a fragment may be compiled. -/
  MayCompile : Nat → Generation → Fragment → Prop
  /-- With types found within a depth the branches of a fragment may be compiled. -/
  MayBranch : Nat → Generation → Fragment → Prop
  /-- The types, with the mark of a back reference, that may be found for a fragment. -/
  Fit : Types → Fragment → FieldType × Bool → Prop
  /-- The types that may be found for a fragment by one of its JSON types. -/
  FitAs : Types → Fragment → String → FieldType × Bool → Prop
  /-- The models that are made of a fragment. -/
  Made : Types → Fragment → TypeId → Prop
  -- Fragments and failures.  A type is put down only where none is remembered.
  known_part {f g : Fragment} : Known f → f.HasPart g → Known g
  known_leads {f t : Fragment} : Known f → LeadsTo view f t → Known t
  new {s : Generation} {f : Fragment} : Good s → Known f → s.names.typeOf? f = none → New f
  failure {e : Failure} : e.ofRecursion = false → Err e
  unresolved {f : Fragment} {e : Failure} : Known f →
    ((resolveChain f).run (Store.empty view)).1 = .error e → Err e
  tooDeep {s : Generation} {f : Fragment} : May 0 s f → Err .tooDeep
  recursive {d : Nat} {s : Generation} {f t : Fragment} : May (d + 1) s f → Known f →
    LeadsTo view f t → t.hasOneOf = true → t.location ∈ s.inProgress →
    Err (.generation (.recursiveUnion t.location))
  -- States before and after.
  view_eq {s : Generation} : Good s → s.store.view = view
  after_refl (b : Bool) (s : Generation) : After b s s
  after_trans {b : Bool} {s s' s'' : Generation} : After b s s' → After b s' s'' → After b s s''
  after_of_strict {b : Bool} {s s' : Generation} : After true s s' → After b s s'
  pending_after {b : Bool} {s s' : Generation} {location : String} : After b s s' →
    Entries.has s.pending location = false → Entries.has s'.pending location = false
  may_after {d : Nat} {s s' : Generation} {f : Fragment} : Known f → May d s f →
    After true s s' → May d s' f
  mayCompile_after {d : Nat} {s s' : Generation} {f : Fragment} : MayCompile d s f →
    After true s s' → MayCompile d s' f
  mayBranch_after {d : Nat} {s s' : Generation} {f : Fragment} : MayBranch d s f →
    After false s s' → MayBranch d s' f
  fit_after {s s' : Generation} {f : Fragment} {r : FieldType × Bool} : After false s s' →
    Fit s.types f r → Fit s'.types f r
  fitAs_after {s s' : Generation} {f : Fragment} {jsonType : String} {r : FieldType × Bool} :
    After false s s' → FitAs s.types f jsonType r → FitAs s'.types f jsonType r
  made_after {s s' : Generation} {f : Fragment} {id : TypeId} : After false s s' →
    Made s.types f id → Made s'.types f id
  -- From the type of a fragment to those inside it.
  may_item {d : Nat} {s : Generation} {f t : Fragment} {ms : List (String × Json)} :
    May (d + 1) s f → Known f → LeadsTo view f t → t.IsTyped → "array" ∈ t.types →
    t.get? "items" = some (.obj ms) → May d s (t.part "items" (.obj ms))
  may_object {d : Nat} {s : Generation} {f t : Fragment} : May (d + 1) s f → Known f →
    LeadsTo view f t → t.IsTyped → Entries.has s.pending t.location = false → MayCompile d s t
  may_property {d : Nat} {s : Generation} {t g : Fragment} {property name : String} :
    MayCompile d s t → Known t → t.isObject = true → (property, g) ∈ t.properties →
    May d (s.mark t.location name) g
  may_union {d : Nat} {s : Generation} {f t : Fragment} : May (d + 1) s f → Known f →
    LeadsTo view f t → t.hasOneOf = true → Entries.get? s.unions t.location = none →
    t.location ∉ s.inProgress → MayBranch d (s.enter t.location) t
  may_branch {d : Nat} {s : Generation} {t b g : Fragment} : MayBranch d s t → Known t →
    b ∈ t.branches → LeadsTo view b g → MayCompile d s g
  -- Steps.
  aside {s s' : Generation} : Good s → Aside s s' → Good s' ∧ After true s s'
  refer {s : Generation} {f : Fragment} {type : FieldType} : Good s → Known f →
    Suited view (Fit s.types) f (type, true) →
    Good { s with backReference := true } ∧ After true s { s with backReference := true }
  mark {s : Generation} (location name : String) : Good s → Good (s.mark location name)
  unmark {s : Generation} (location : String) : Good s → Good (s.unmark location)
  unmark_after {b : Bool} {d : Nat} {s s' : Generation} {f : Fragment} {name : String} : Known f →
    MayCompile d s f → (b = true → Entries.has s.pending f.location = false) →
    After true (s.mark f.location name) s' → After b s (s'.unmark f.location)
  enter {s : Generation} (location : String) : Good s → Good (s.enter location)
  leave {d : Nat} {s s' : Generation} {f : Fragment} {name : String} {id : TypeId} : Good s' →
    Known f → New f → f.hasOneOf = true → MayBranch d (s.enter f.location) f →
    Fit s'.types f (.union id, false) → Entries.get? s.unions f.location = none →
    f.location ∉ s.inProgress → After false (s.enter f.location) s' →
    Good (s'.leave name id f) ∧ After true s (s'.leave name id f)
  reserve {s : Generation} (name : String) : Good s →
    Good (s.put name .reserved none) ∧ After true s (s.put name .reserved none)
  declare {s : Generation} {f : Fragment} {id : TypeId} (name : String) : Good s → Known f →
    New f → Made s.types f id →
    Good (s.put name (.model id) (some f)) ∧ After true s (s.put name (.model id) (some f))
  model {s : Generation} {f : Fragment} {name : String} {required : List String}
    {fields fields' : List Field} : Good s → Known f → f.isObject = true →
    requiredNames f = .ok required →
    List.Forall₂ (FieldFor (Suited view (Fit s.types)) required) f.properties fields →
    fields.map Field.outline = outlinesOf required [] f.properties →
    finishFields name s.types.length fields = .ok fields' →
    let m : Model := ⟨name, fields', mode.config.frozenPayloads⟩
    let s' : Generation := { s with types := s.types ++ [.model m] }
    Good s' ∧ After true s s' ∧ Made s'.types f s.types.length
  settle {s : Generation} {id : TypeId} {m m' : Model} : Good s → s.backReference = true →
    s.types.model? id = some m → m.settle s.names = .ok m' →
    let s' : Generation := { s with types := s.types.set id (.model m') }
    Good s' ∧ After true s s'
  union {s : Generation} {f : Fragment} {name : String} {u : UnionType} : Good s → Known f →
    f.hasOneOf = true → List.Forall₂ (VariantFor view (Fit s.types)) f.branches u.variants →
    assembleUnion mode name f.location u.variants = .ok u →
    let s' : Generation := { s with types := s.types ++ [.union u] }
    Good s' ∧ After true s s' ∧ Fit s'.types f (.union s.types.length, false)
  -- Types.
  fit_made {types : Types} {f : Fragment} {id : TypeId} : Made types f id →
    Fit types f (.model id, false)
  back {d : Nat} {s : Generation} {f t : Fragment} {name : String} : Good s →
    May (d + 1) s f → Known f → LeadsTo view f t → Entries.get? s.pending t.location = some name →
    Fit s.types t (.named name, true)
  cached {s : Generation} {t : Fragment} {h : Handle} : Good s → Known t →
    s.names.typeOf? t = some h → Fit s.types t (h.fieldType, false)
  kept {s : Generation} {t : Fragment} {id : TypeId} : Good s → Known t → t.hasOneOf = true →
    Entries.get? s.unions t.location = some id → Fit s.types t (.union id, false)
  fit_literal {types : Types} {t : Fragment} {values : List Literal} : t.hasOneOf = false →
    literals? t = some values → Fit types t (.literal values, false)
  fit_anyBranch {types : Types} {t : Fragment} : t.hasOneOf = true → mode.nestedUnions = false →
    Fit types t (.any, false)
  fit_untyped {types : Types} {t : Fragment} : t.IsTyped → t.declared = [] →
    Fit types t (.any, false)
  fit_options {types : Types} {t : Fragment} {rs : List (FieldType × Bool)} : Known t →
    t.IsTyped → t.declared ≠ [] → List.Forall₂ (FitAs types t) t.declared rs →
    Fit types t (.ofOptions (rs.map Prod.fst), rs.any Prod.snd)
  fitAs_plain {types : Types} {t : Fragment} {jsonType : String} : t.IsTyped →
    jsonType ∈ t.declared → jsonType ≠ "object" → jsonType ≠ "array" →
    FitAs types t jsonType (plainType jsonType, false)
  fitAs_array {types : Types} {t : Fragment} {item : FieldType} {isBack : Bool} : t.IsTyped →
    "array" ∈ t.declared → ItemFor (Suited view (Fit types)) t (item, isBack) →
    FitAs types t "array" (if mode.config.frozenPayloads then .tuple item else .list item, isBack)
  fitAs_object {types : Types} {t : Fragment} : t.IsTyped → "object" ∈ t.declared →
    t.properties.isEmpty = true → FitAs types t "object" (.object, false)
  fitAs_handle {types : Types} {t : Fragment} {h : Handle} : t.IsTyped → "object" ∈ t.declared →
    h ≠ .reserved → Fit types t (h.fieldType, false) → FitAs types t "object" (h.fieldType, false)

end ShapeSum
