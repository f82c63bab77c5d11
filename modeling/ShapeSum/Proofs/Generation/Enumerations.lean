import ShapeSum.Proofs.Decode.Confining
import ShapeSum.Proofs.Decode.Conforming
import ShapeSum.Proofs.Generation.Assigning

/-!
# Enumerations

A fragment may list the values that it allows.  Where all of them are scalars, the type
that a compilation assigns is that of the literals, and under the items of arrays it is a
type of lists of literals (`EnumAt.confines`).  So at each such place of a property a
model makes only values that are dumped as members of the list, or null for the property
as a whole when it is not required.  It holds of every record within a value that a model
or a union makes, whatever data and values that were made before go into it
(`TidySession.keepsEnumerations`).

A list with a number that is no integer, or with a list or an object, is passed over:
then the JSON types say what is allowed.  So are the items of arrays beside which anything
is allowed, and the list of a fragment that describes objects and is compiled to a model
(`strays_cases`).
-/

namespace ShapeSum

variable {mode : Mode} {view : String → Fetch} {root f g t : Fragment} {types : Types}
  {js : List Json} {k : Nat}

/-! ## Places -/

/-- A fragment without branches enumerates values: it lists some, and all of them are scalars that
can be literals. -/
structure Fragment.Enumerates (t : Fragment) (js : List Json) : Prop where
  noBranches : t.hasOneOf = false
  enum : t.get? "enum" = some (.arr js)
  nonempty : js ≠ []
  scalars : ∀ j ∈ js, (Literal.ofJson? j).isSome = true

/-- A fragment without branches says by its items what lists are: unless there are literals, it
declares JSON types, all of them known ones. -/
structure Fragment.SaysItems (t : Fragment) (ms : List (String × Json)) : Prop where
  noBranches : t.hasOneOf = false
  items : t.get? "items" = some (.obj ms)
  declared : literals? t = none → t.declared ≠ [] ∧ ∀ name ∈ t.declared, name ∈ jsonTypes

/-- Values are enumerated for a fragment, under the items of a number of arrays.  The fragment that
enumerates them shares its location with none in reach of the root that describes objects. -/
inductive EnumAt (view : String → Fetch) (root : Fragment) :
    Nat → List Json → Fragment → Prop
  /-- The references lead to the fragment that enumerates values. -/
  | here {f t : Fragment} {js : List Json} : LeadsTo view f t → t.Enumerates js →
      ¬ObjectAt view root t.location → EnumAt view root 0 js f
  /-- The references lead to arrays, and values are enumerated for the items. -/
  | items {f t : Fragment} {ms : List (String × Json)} {k : Nat} {js : List Json} :
      LeadsTo view f t → t.SaysItems ms → EnumAt view root k js (t.part "items" (.obj ms)) →
      EnumAt view root (k + 1) js f

/-! ## Assigned types confine values -/

theorem Literal.toJson_of_ofJson? {j : Json} {l : Literal} (h : ofJson? j = some l) :
    l.toJson = j := by
  cases j <;> cases h <;> rfl

/-- Scalars that can be literals are those of some literals. -/
theorem Literal.exists_mapM_ofJson? (h : ∀ j ∈ js, (ofJson? j).isSome = true) :
    ∃ values, js.mapM ofJson? = some values ∧ values.map toJson = js := by
  induction js with
  | nil => exact ⟨[], rfl, rfl⟩
  | cons j js ih =>
    obtain ⟨hj, hjs⟩ := List.forall_mem_cons.1 h
    obtain ⟨l, hl⟩ := Option.isSome_iff_exists.1 hj
    obtain ⟨values, hvalues, hjson⟩ := ih hjs
    refine ⟨l :: values, ?_, ?_⟩
    · rw [List.mapM_cons, hl, hvalues]
      rfl
    · rw [List.map_cons, toJson_of_ofJson? hl, hjson]

/-- What is enumerated gives literals. -/
theorem Fragment.Enumerates.exists_literals (h : t.Enumerates js) :
    ∃ values, literals? t = some values ∧ ∀ l ∈ values, l.toJson ∈ js := by
  obtain ⟨j, js, rfl⟩ := List.exists_cons_of_ne_nil h.nonempty
  obtain ⟨values, hvalues, hjson⟩ := Literal.exists_mapM_ofJson? h.scalars
  refine ⟨values.eraseDups, ?_, fun l hl => ?_⟩
  · unfold literals?
    rw [h.enum]
    dsimp only
    rw [hvalues, Option.map_some]
  · rw [← hjson]
    exact List.mem_map_of_mem (List.mem_eraseDups.1 hl)

/-- An option for a JSON type that is known takes arrays only if it is a type of lists of what is
assigned to the items. -/
theorem AssignedAs.exists_listOf {ms : List (String × Json)} {name : String} {type : FieldType}
    (h : AssignedAs view root t name type) (hname : name ∈ jsonTypes)
    (hitems : t.get? "items" = some (.obj ms)) (harr : type.takesArrays = true) :
    ∃ item, type.ListOf item ∧ Assigned view root (t.part "items" (.obj ms)) item := by
  cases h with
  | plain hobject harray =>
    simp only [jsonTypes, List.mem_cons, List.not_mem_nil, or_false] at hname
    rcases hname with rfl | rfl | rfl | rfl | rfl | rfl | rfl <;> contradiction
  | items hget hitem hlist =>
    cases hitems.symm.trans hget
    exact ⟨_, hlist, hitem⟩
  | anyItems hno => exact absurd hitems (hno ms)
  | object => cases harr
  | @generated _ h => cases h <;> cases harr

/-- Every type that is assigned to a fragment where values are enumerated confines what it makes to
them. -/
theorem EnumAt.confines (h : EnumAt view root k js f) (hf : Reaches view root f) :
    ∃ values, (∀ l ∈ values, l.toJson ∈ js) ∧
      ∀ type, Assigned view root f type → FieldType.Confines values k type := by
  induction h with
  | @here f t js hlead henum hfree =>
    obtain ⟨values, hvalues, hmem⟩ := henum.exists_literals
    refine ⟨values, hmem, fun type htype => ?_⟩
    obtain ⟨hlead', htype⟩ := htype
    cases hlead.unique hlead'
    cases htype with
    -- A name or a model stands only where objects are described.
    | back hobject => exact absurd hobject hfree
    | model ho => exact absurd ⟨t, hf.leads hlead, ho, rfl⟩ hfree
    | union honeOf | anyBranch honeOf =>
      rw [henum.noBranches] at honeOf
      cases honeOf
    | literal _ hliterals =>
      cases hvalues.symm.trans hliterals
      rfl
    | untyped ht | options ht =>
      cases hvalues.symm.trans ht.noLiterals
  | @items f t ms k js hlead hlisted _ ih =>
    obtain ⟨values, hmem, hconfines⟩ := ih ((hf.leads hlead).part (.items hlisted.items))
    refine ⟨values, hmem, fun type htype => ?_⟩
    obtain ⟨hlead', htype⟩ := htype
    cases hlead.unique hlead'
    cases htype with
    -- Names, models and literals are no lists, so there are no items to confine.
    | back | model | literal => exact FieldType.confines_of_not_takesArrays rfl
    | union honeOf | anyBranch honeOf =>
      rw [hlisted.noBranches] at honeOf
      cases honeOf
    | untyped ht hnone => exact absurd hnone (hlisted.declared ht.noLiterals).1
    | options ht _ hts =>
      refine FieldType.confines_ofOptions fun o ho harr => ?_
      obtain ⟨name, hname, has⟩ := hts.exists_assignedAs ho
      obtain ⟨item, hlist, hitem⟩ :=
        has.exists_listOf ((hlisted.declared ht.noLiterals).2 name hname) hlisted.items harr
      exact ⟨item, hlist, hconfines item hitem⟩

/-! ## Fields -/

/-- A field stands for a property of a fragment and confines values where they are enumerated. -/
def Field.KeepsEnums (view : String → Fetch) (root f : Fragment) (field : Field) : Prop :=
  ∃ g, (field.property, g) ∈ f.properties ∧ field.required = f.requires (field.property, g) ∧
    ∀ k js, EnumAt view root k js g → ∃ values, (∀ l ∈ values, l.toJson ∈ js) ∧
      FieldType.ConfinesFor values field.required k field.type

/-- A field with an assigned type keeps to what is enumerated. -/
theorem keepsEnums_of_fieldFor {required : List String} {p : String × Fragment} {field : Field}
    (hf : Reaches view root f) (hp : p ∈ f.properties) (hrequired : requiredNames f = .ok required)
    (h : FieldFor (fun g r => Assigned view root g r.1) required p field) :
    field.KeepsEnums view root f := by
  obtain ⟨type, back, htype, hfield⟩ := h.type
  refine ⟨p.2, h.property ▸ hp, ?_, fun k js henum => ?_⟩
  · rw [Fragment.requires, hrequired, h.required, h.property]
    rfl
  · obtain ⟨values, hmem, hconfines⟩ := henum.confines (hf.part (.property hp))
    exact ⟨values, hmem, hfield ▸ (hconfines type htype).confinesFor field.required⟩

theorem Field.KeepsEnums.resolve {lookup : String → Option FieldType} {field : Field}
    (hlookup : FieldType.Scalar lookup) (h : field.KeepsEnums view root f) :
    (field.resolve lookup).KeepsEnums view root f := by
  obtain ⟨g, hg, hrequired, henums⟩ := h
  refine ⟨g, hg, hrequired, fun k js henum => ?_⟩
  obtain ⟨values, hmem, hconfines⟩ := henums k js henum
  exact ⟨values, hmem, hconfines.resolve hlookup⟩

/-- The fields of a model that realizes a fragment keep to what is enumerated. -/
theorem Model.Realizes.keepsEnums {m : Model} (h : m.Realizes view root f) :
    ∀ field ∈ m.fields, field.KeepsEnums view root f := by
  obtain ⟨hf, required, fields, hrequired, hfields, hresolved⟩ := h
  generalize m.fields = fields' at hresolved
  induction hresolved with
  | refl =>
    intro field hfield
    obtain ⟨p, hp, hfor⟩ := exists_left_of_forall₂ hfields hfield
    exact keepsEnums_of_fieldFor hf hp hrequired hfor
  | resolve _ hscalar ih =>
    intro field hfield
    obtain ⟨field', hfield', rfl⟩ := List.mem_map.1 hfield
    exact (ih field' hfield').resolve hscalar

/-! ## Values -/

/-- Wherever values are enumerated for a property of a fragment, a value for it has members of the
list there, or it is null and the property is not required. -/
def Value.KeepsEnums (types : Types) (view : String → Fetch) (root f : Fragment)
    (p : String × Fragment) (x : Value) : Prop :=
  ∀ k js, EnumAt view root k js p.2 →
    x.AtDepth (fun y => ∀ dump, y.toJson types dump ∈ js) k ∨ f.requires p = false ∧ x = .null

theorem Value.AtDepth.imp {P Q : Value → Prop} (hPQ : ∀ y, P y → Q y) {k : Nat} {x : Value}
    (h : x.AtDepth P k) : x.AtDepth Q k := by
  induction k generalizing x with
  | zero => exact hPQ x h
  | succ k ih => exact fun items hitems y hy => ih (h items hitems y hy)

/-- What the type of such a field makes keeps to what is enumerated. -/
theorem Field.KeepsEnums.value {field : Field} (h : field.KeepsEnums view root f) {x : Value}
    (hx : field.type.Makes types x) :
    ∃ g, (field.property, g) ∈ f.properties ∧
      x.KeepsEnums types view root f (field.property, g) := by
  obtain ⟨g, hg, hrequired, henums⟩ := h
  refine ⟨g, hg, fun k js henum => ?_⟩
  obtain ⟨values, hmem, hconfines⟩ := henums k js henum
  have hdump (y : Value) (hy : y.IsAmong values) : ∀ dump, y.toJson types dump ∈ js := by
    obtain ⟨l, hl, rfl⟩ := hy
    intro dump
    rw [Value.toJson_ofLiteral]
    exact hmem l hl
  rcases hconfines.atDepth hx with hdepth | ⟨hoptional, hnull⟩
  · exact .inl (hdepth.imp hdump)
  · exact .inr ⟨hrequired ▸ hoptional, hnull⟩

/-- How the models of a state keep to what is enumerated, and of which fragments they are. -/
structure KeepsEnumerations (past : List (String → Fetch)) (s : Generation) : Prop where
  /-- What is compiled anew is a model of the fragment. -/
  anew {mode : Mode} {name : String} {f : Fragment} {h : Handle} {s' : Generation} :
    TidySchema s.store.view f → s.names.typeOf? f = none →
    (compileModel mode name f).run s = (.ok h, s') →
    ∃ id m, h = .model id ∧ s'.types.model? id = some m ∧ m.Realizes s.store.view f f
  /-- The model that is remembered for a fragment is one of such a fragment. -/
  again {f : Fragment} {id : TypeId} : s.names.typeOf? f = some (.model id) →
    ∃ m, s.types.model? id = some m ∧ ∃ view ∈ past, ∃ root g, g.location = f.location ∧
      g.content.sameContent f.content = true ∧ m.Realizes view root g
  /-- A model of a fragment stays one when something is generated or compiled, or fails to be. -/
  later {mode : Mode} {name : String} {f g root : Fragment} {view : String → Fetch}
    {s' : Generation} {id : TypeId} {m : Model} : TidySchema s.store.view f →
    (s' = ((generate mode name f).run s).2 ∨ s' = ((compileModel mode name f).run s).2) →
    s.types.model? id = some m → m.Realizes view root g →
    ∃ m', s'.types.model? id = some m' ∧ m'.Realizes view root g
  /-- Every model is one of a fragment. -/
  model {m : Model} : .model m ∈ s.types → ∃ view ∈ past, ∃ root f, m.Realizes view root f
  /-- In a record within any value that decoding gives, whatever is for a property has members of
  the lists that the property's fragment has, or it is null as a whole and not required. -/
  value {v : Value} {id : TypeId} {fields : List (String × Value)} : v.Obtained s.types →
    v.Within (.record id fields) → ∀ p ∈ fields, ∃ m, s.types.model? id = some m ∧
      ∃ field ∈ m.fields, field.name = p.1 ∧ ∀ view root f, m.Realizes view root f →
        ∃ g, (field.property, g) ∈ f.properties ∧
          p.2.KeepsEnums s.types view root f (field.property, g)

/-- In every session the models keep to what is enumerated. -/
theorem TidySession.keepsEnumerations {past : List (String → Fetch)} {s : Generation}
    (h : TidySession past s) : KeepsEnumerations past s where
  anew := realizes_of_compileModel h
  again := by
    intro f id hf
    obtain ⟨content, hsame, -, hrooted⟩ := h.realizing.2.exists_rooted hf
    cases hrooted with
    | model hm hview hlocation hcontent _ hrealizes =>
      subst hcontent
      exact ⟨_, hm, _, hview, _, _, hlocation, hsame, hrealizes⟩
  later := by
    intro mode name f g root view s' id m htidy hs' hm hrealizes
    have hview := h.realizing.1
    have hkept : s.types.Resolves s'.types := by
      rcases hs' with rfl | rfl
      · exact (h.realizing_self.generate mode hview h.marksObjects htidy name).kept
      · exact (h.realizing_self.compileModel mode hview h.marksObjects htidy name).kept
    obtain ⟨m', hm', hresolved⟩ := hkept id m hm
    exact ⟨m', hm', hrealizes.resolved hresolved⟩
  model hm := h.realizing.2.models _ hm
  value := by
    intro v id fields hv hwithin p hp
    obtain ⟨field, hfield, hname, hmade⟩ := hv.groundedWithin _ hwithin p hp
    cases hm : s.types.model? id with
    | none =>
      rw [Types.fieldsOf, hm] at hfield
      cases hfield
    | some m =>
      rw [Types.fieldsOf, hm] at hfield
      exact ⟨m, rfl, field, hfield, hname, fun view root f hrealizes =>
        (hrealizes.keepsEnums field hfield).value hmade⟩

/-! ### An order -/

/-- A schema of orders with a state and, optionally, rows of marks. -/
def orderRoot : Fragment where
  content := .obj [("type", .str "object"), ("required", .arr [.str "state"]), ("properties", .obj [
    ("state", .obj [("enum", .arr [.str "new", .int 1, .null])]),
    ("marks", .obj [("type", .str "array"), ("items", .obj [
      ("type", .arr [.str "array", .str "null"]),
      ("items", .obj [("type", .str "string"), ("enum", .arr [.str "x", .str "o"])])])])])]
  document := "memory:///order.json"
  pointer := ""

/-- The fragment of a property of an order. -/
def orderProperty (name : String) : Fragment :=
  (Entries.get? orderRoot.properties name).getD orderRoot

/-- An order. -/
def orderData : Json :=
  .obj [("state", .int 1), ("marks", .arr [.arr [.str "x", .str "o"], .null])]

/-- The state after the schema of orders was compiled. -/
def orderState : Generation :=
  ((compileModel { config := {} } "Order" orderRoot).run
    { store := .empty fun _ => .unavailable "" }).2

theorem tidySchema_of_levels (hview : ∀ uri j, view uri ≠ .content j) {n : Nat}
    (hlast : (f.level n).isEmpty = true)
    (h : ((List.range n).flatMap fun i => f.level i).all
      (fun g => g.content.hasDistinctKeys) = true) : TidySchema view f :=
  fun g hg => List.all_eq_true.1 h g (hg.mem_levels hview hlast)

theorem not_objectAt_of_levels (hview : ∀ uri j, view uri ≠ .content j) {n : Nat}
    (hlast : (f.level n).isEmpty = true) {location : String}
    (h : ((List.range n).flatMap fun i => f.level i).all
      (fun g => !(g.isObject && decide (g.location = location))) = true) :
    ¬ObjectAt view f location := by
  rintro ⟨g, hg, hobject, hlocation⟩
  have hnot := List.all_eq_true.1 h g (hg.mem_levels hview hlast)
  simp [hobject, hlocation] at hnot

/-- The state of an order is enumerated, and so are the marks in its rows. -/
theorem enumAt_orderProperty {view : String → Fetch} (hview : ∀ uri j, view uri ≠ .content j) :
    EnumAt view orderRoot 0 [.str "new", .int 1, .null] (orderProperty "state") ∧
      EnumAt view orderRoot 2 [.str "x", .str "o"] (orderProperty "marks") := by
  have hfree {location : String} (h : ((List.range 4).flatMap fun i => orderRoot.level i).all
      (fun g => !(g.isObject && decide (g.location = location))) = true) :
      ¬ObjectAt view orderRoot location :=
    not_objectAt_of_levels hview (n := 4) (by decide +kernel) h
  refine ⟨.here (leadsTo_self rfl _) ⟨rfl, rfl, by decide, by decide⟩ (hfree (by decide +kernel)),
    .items (leadsTo_self rfl _) ⟨rfl, rfl, fun _ => by decide +kernel⟩
      (.items (leadsTo_self rfl _) ⟨rfl, rfl, fun _ => by decide +kernel⟩
        (.here (leadsTo_self rfl _) ⟨rfl, rfl, by decide, by decide⟩ (hfree (by decide +kernel))))⟩

/-- Whether the order is taken by a model as a record of it. -/
def takesOrder (r : Except Failure Handle × Generation) : Bool :=
  match r.1 with
  | .ok (.model id) =>
    match materialize r.2.types id (.ofJson orderData) with
    | .ok (.record id' _) => decide (id' = id)
    | _ => false
  | _ => false

/-- The order is taken by its model, whose values keep to what is enumerated. -/
theorem keepsEnums_orderData : ∃ id m fields,
    orderState.types.model? id = some m ∧
    m.Realizes orderState.store.view orderRoot orderRoot ∧
    materialize orderState.types id (.ofJson orderData) = .ok (.record id fields) ∧
    EnumAt orderState.store.view orderRoot 2 [.str "x", .str "o"] (orderProperty "marks") ∧
    ∀ p ∈ fields, ∃ field ∈ m.fields, field.name = p.1 ∧
      ∃ g, (field.property, g) ∈ orderRoot.properties ∧
        p.2.KeepsEnums orderState.types orderState.store.view orderRoot orderRoot
          (field.property, g) := by
  let start : Generation := { store := .empty fun _ => .unavailable "" }
  have hnone : ∀ uri j, start.store.view uri ≠ .content j := fun _ _ h => (nomatch h)
  have htidy : TidySchema start.store.view orderRoot :=
    tidySchema_of_levels hnone (n := 4) (by decide +kernel) (by decide +kernel)
  have hstart : TidySession [start.store.view] start := .fresh start.store
  have hsession : TidySession [start.store.view] orderState :=
    .compiled { config := {} } "Order" orderRoot htidy hstart
  have hview : orderState.store.view = start.store.view :=
    List.mem_singleton.1 hsession.realizing.1
  have htest : takesOrder ((compileModel { config := {} } "Order" orderRoot).run start) = true := by
    decide +kernel
  rcases hrun : (compileModel { config := {} } "Order" orderRoot).run start with ⟨result, s'⟩
  have hs' : orderState = s' := congrArg Prod.snd hrun
  rw [hrun] at htest
  unfold takesOrder at htest
  dsimp only at htest
  split at htest
  · rename_i id
    split at htest
    · rename_i id' fields hmade
      cases of_decide_eq_true htest
      obtain ⟨_, m, he, hm, hrealizes⟩ := hstart.keepsEnumerations.anew htidy rfl hrun
      cases he
      rw [← hs'] at hm hmade
      rw [hview]
      refine ⟨id, m, fields, hm, hrealizes, hmade, (enumAt_orderProperty hnone).2, fun p hp => ?_⟩
      obtain ⟨m', hm', field, hfield, hname, hkeeps⟩ := hsession.keepsEnumerations.value
        (.model (Value.obtained_ofJson orderData) hmade) .refl p hp
      cases hm.symm.trans hm'
      exact ⟨field, hfield, hname, hkeeps _ _ _ hrealizes⟩
    · cases htest
  · cases htest

/-! ### Lists that are passed over -/

/-- The list of values that a plain reading finds for a fragment without branches, under the items
of a number of fragments. -/
def listed? (view : String → Fetch) : Nat → Fragment → Option (List Json)
  | 0, f =>
    match ((resolve f).run (Store.empty view)).1 with
    | .ok t =>
      match t.hasOneOf, t.get? "enum" with
      | false, some (.arr (j :: js)) => some (j :: js)
      | _, _ => none
    | .error _ => none
  | k + 1, f =>
    match ((resolve f).run (Store.empty view)).1 with
    | .ok t =>
      match t.get? "items" with
      | some (.obj ms) => listed? view k (t.part "items" (.obj ms))
      | _ => none
    | .error _ => none

/-- Whether something in a value, under a number of lists, is dumped as what equals no member of a
list. -/
def Value.strays (types : Types) (js : List Json) : Nat → Value → Bool
  | 0, x => (x.toJson types .set).sameContent (x.toJson types .set) &&
      js.all fun j => !(x.toJson types .set).sameContent j
  | k + 1, x => (x.items?.getD []).any (strays types js k)

theorem Value.not_atDepth_of_strays {x : Value} (h : x.strays types js k = true) :
    ¬x.AtDepth (fun y => y.toJson types .set ∈ js) k := by
  induction k generalizing x with
  | zero =>
    intro hmem
    obtain ⟨hself, hall⟩ := Bool.and_eq_true_iff.1 h
    have hnot := List.all_eq_true.1 hall _ hmem
    rw [hself] at hnot
    cases hnot
  | succ k ih =>
    intro hdepth
    obtain ⟨y, hy, hstrays⟩ := List.any_eq_true.1 h
    cases hitems : x.items? with
    | none =>
      rw [hitems] at hy
      cases hy
    | some items =>
      rw [hitems] at hy
      exact ih hstrays (hdepth items hitems y hy)

/-- A schema of records, data for a property of it, and how many lists deep the property's list of
values is. -/
structure ListedCase where
  mode : Mode := { config := {} }
  content : Json
  depth : Nat
  data : Json

/-- The schema as a fragment. -/
def ListedCase.schema (c : ListedCase) : Fragment := ⟨c.content, "memory:///schema.json", ""⟩

/-- The documents with this schema. -/
def ListedCase.store (c : ListedCase) : Store :=
  (Store.empty fun _ => .unavailable "").add "memory:///schema.json" c.content

/-- Records with one property. -/
def ListedCase.record (p : Json) : Json :=
  .obj [("type", .str "object"), ("properties", .obj [("p", p)])]

/-- A fragment with a list of one text. -/
def onlyA : Json := .obj [("enum", .arr [.str "a"])]

/-- A list with a number that is no integer. -/
def fractionCase : ListedCase where
  content := ListedCase.record (.obj [("type", .str "string"),
    ("enum", .arr [.str "a", .float (.ofQuotient false 3 2)])])
  depth := 0
  data := .str "b"

/-- A list for the items of arrays, with an unknown JSON type beside them. -/
def unknownTypeCase : ListedCase where
  content := ListedCase.record (.obj [("type", .arr [.str "array", .str "matrix"]),
    ("items", onlyA)])
  depth := 1
  data := .arr [.str "b"]

/-- A list for items, where no JSON type is declared. -/
def untypedCase : ListedCase where
  content := ListedCase.record (.obj [("items", onlyA)])
  depth := 1
  data := .arr [.str "b"]

/-- A list for items beside branches, which are not generated for properties. -/
def branchesCase : ListedCase where
  mode := { config := {}, nestedUnions := false }
  content := ListedCase.record (.obj [("oneOf", .arr []), ("items", onlyA)])
  depth := 1
  data := .arr [.str "b"]

/-- A list of a fragment that describes objects and has a reference back to itself. -/
def objectCase : ListedCase where
  content := .obj [("type", .str "object"), ("enum", .arr [.str "a"]),
    ("properties", .obj [("p", .obj [("$ref", .str "#")])])]
  depth := 0
  data := .obj []

/-- The model of the schema takes the data as what is neither null nor as listed. -/
def ListedCase.Strays (c : ListedCase) : Prop :=
  ∃ id id' s' fields x g js,
    (compileModel c.mode "Record" c.schema).run { store := c.store } = (.ok (.model id), s') ∧
    materialize s'.types id (.ofJson (.obj [("p", c.data)])) = .ok (.record id' fields) ∧
    ("p", x) ∈ fields ∧ ("p", g) ∈ c.schema.properties ∧
    listed? c.store.view c.depth g = some js ∧
    ¬x.AtDepth (fun y => y.toJson s'.types .set ∈ Json.null :: js) c.depth

/-- Whether it does so. -/
def ListedCase.strays (c : ListedCase) : Bool :=
  match (compileModel c.mode "Record" c.schema).run { store := c.store } with
  | (.ok (.model id), s') =>
    match materialize s'.types id (.ofJson (.obj [("p", c.data)])) with
    | .ok (.record _ fields) =>
      (Entries.get? fields "p").any fun x => (Entries.get? c.schema.properties "p").any fun g =>
        (listed? c.store.view c.depth g).any fun js => x.strays s'.types (.null :: js) c.depth
    | _ => false
  | _ => false

theorem ListedCase.Strays.of_strays {c : ListedCase} (h : c.strays = true) : c.Strays := by
  unfold strays at h
  rcases hrun : (compileModel c.mode "Record" c.schema).run { store := c.store } with ⟨r, s'⟩
  rw [hrun] at h
  split at h
  · rename_i id _ he
    cases he
    split at h
    · rename_i id' fields hmade
      obtain ⟨x, hx, h⟩ := (Option.any_eq_true _ _).1 h
      obtain ⟨g, hg, h⟩ := (Option.any_eq_true _ _).1 h
      obtain ⟨js, hjs, h⟩ := (Option.any_eq_true _ _).1 h
      exact ⟨id, id', s', fields, x, g, js, hrun, hmade, Entries.mem_of_get? hx,
        Entries.mem_of_get? hg, hjs, Value.not_atDepth_of_strays h⟩
    · cases h
  · cases h

/-- A plain reading is wrong in these cases. -/
theorem strays_cases : fractionCase.Strays ∧ unknownTypeCase.Strays ∧ untypedCase.Strays ∧
    branchesCase.Strays ∧ objectCase.Strays :=
  ⟨.of_strays (by decide +kernel), .of_strays (by decide +kernel), .of_strays (by decide +kernel),
    .of_strays (by decide +kernel), .of_strays (by decide +kernel)⟩

end ShapeSum
