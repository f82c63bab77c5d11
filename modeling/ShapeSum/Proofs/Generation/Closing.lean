import ShapeSum.Proofs.Generation.Declaring
import ShapeSum.Proofs.Generation.Producing

/-!
# References back are closed

A property that leads back to a fragment that is still being compiled gets a type by
name.  The name is resolved when the compilation that began the session ends, or at once
when it is that of the model itself.  Then the field of the property takes what the model
of that fragment takes, item by item if arrays are on the way, and null when it is not
required (`closes_compile`).

One name is resolved to something else: a model with the name `None` gets fields that
take nothing but null where they should take its own values (`exists_back_to_none`).
-/

namespace ShapeSum

variable {mode : Mode} {s s' : Generation} {f t : Fragment}

/-! ## The end of a session -/

/-- The type that a name is resolved to at the end of a session. -/
def Namespace.typeNamed (names : Namespace) (n : String) : Option FieldType :=
  (names.get? n).map Handle.fieldType

theorem Model.eq_of_settle {names : Namespace} {m m' : Model} (h : m.settle names = .ok m') :
    m' = { m with fields := m.fields.map fun f => { f with
      type := f.type.resolve names.typeNamed } } := by
  unfold settle at h
  dsimp only at h
  split at h
  · cases h
  · exact (Except.ok.inj h).symm

/-- The names in the fields of the models in a list are resolved, and nothing else happens. -/
theorem of_run_settleAll {ids : List TypeId} (hids : ids.Nodup)
    (h : (settleAll ids).run s = (.ok (), s')) :
    s'.store = s.store ∧ s'.names = s.names ∧ s'.session = s.session ∧
      (∀ id, id ∉ ids → s'.types.model? id = s.types.model? id) ∧
      ∀ id ∈ ids, ∀ m, s.types.model? id = some m →
        ∃ m', m.settle s.names = .ok m' ∧ s'.types.model? id = some m' := by
  induction ids generalizing s with
  | nil =>
    cases h
    exact ⟨rfl, rfl, rfl, fun _ _ => rfl, fun _ hid => nomatch hid⟩
  | cons i ids ih =>
    obtain ⟨hi, hids⟩ := List.nodup_cons.1 hids
    unfold settleAll at h
    obtain ⟨_, _, hget, h⟩ := exists_of_run_bind h
    cases hget
    split at h
    · rename_i hnone
      obtain ⟨hstore, hnames, hsession, hothers, hsettled⟩ := ih hids h
      refine ⟨hstore, hnames, hsession,
        fun id hid => hothers id fun hmem => hid (List.mem_cons_of_mem _ hmem),
        fun id hid m hm => ?_⟩
      rcases List.mem_cons.1 hid with rfl | hid
      · cases hnone.symm.trans hm
      · exact hsettled id hid m hm
    · rename_i m hm
      split at h
      · cases h
      · rename_i m' hsettle
        obtain ⟨_, s₁, hset, h⟩ := exists_of_run_bind h
        cases hset
        obtain ⟨hstore, hnames, hsession, hothers, hsettled⟩ := ih hids h
        have hset := Types.model?_set hm m'
        refine ⟨hstore, hnames, hsession, fun id hid => ?_, fun id hid m'' hm'' => ?_⟩
        · rw [hothers id fun hmem => hid (List.mem_cons_of_mem _ hmem)]
          refine (hset id).trans (if_neg ?_)
          rintro rfl
          exact hid List.mem_cons_self
        · rcases List.mem_cons.1 hid with rfl | hid
          · cases hm.symm.trans hm''
            exact ⟨m', hsettle, (hothers id hi).trans ((hset id).trans (if_pos rfl))⟩
          · refine hsettled id hid m'' ((hset id).trans ((if_neg ?_).trans hm''))
            rintro rfl
            exact hi hid

/-- How a session ends: each model of it keeps its outline, and its names are resolved if there was
a reference back. -/
structure Concludes (s s' : Generation) : Prop where
  /-- The same documents can be had. -/
  view : s'.store.view = s.store.view
  /-- The names stay. -/
  names : s'.names = s.names
  /-- The session is not changed. -/
  session : s'.session = s.session
  /-- The models of the session. -/
  models : ∀ id ∈ s.session, ∀ m, s.types.model? id = some m → ∃ m', s'.types.model? id = some m' ∧
    m'.outline = m.outline ∧ m'.name = m.name ∧
    (s.backReference = true → m.settle s.names = .ok m')

theorem concludes_of_run_endSession (hids : s.session.Nodup)
    (h : (endSession true).run s = (.ok (), s')) : Concludes s s' := by
  unfold endSession at h
  obtain ⟨_, _, hget, h⟩ := exists_of_run_bind h
  cases hget
  split at h
  · obtain ⟨hstore, hnames, hsession, -, hsettled⟩ := of_run_settleAll hids h
    refine ⟨by rw [hstore], hnames, hsession, fun id hid m hm => ?_⟩
    obtain ⟨m', hsettle, hm'⟩ := hsettled id hid m hm
    exact ⟨m', hm', Model.outline_of_settle hsettle, Model.name_of_settle hsettle,
      fun _ => hsettle⟩
  · rename_i hflag
    obtain ⟨-, rfl⟩ := of_run_pure h
    exact ⟨rfl, rfl, rfl, fun id _ m hm => ⟨m, hm, rfl, rfl, fun hback => absurd hback hflag⟩⟩

/-! ## The types of names -/

theorem scalar_ownType (model : String) (id : TypeId) :
    FieldType.Scalar (ownType? model id) := by
  intro n t ht
  unfold ownType? at ht
  split at ht
  · cases ht
    rfl
  · split at ht
    · cases ht
    · split at ht
      · cases ht
        rfl
      · cases ht

theorem scalar_typeNamed (names : Namespace) : FieldType.Scalar names.typeNamed := by
  intro n t ht
  obtain ⟨handle, -, rfl⟩ := Option.map_eq_some_iff.1 ht
  exact takesArrays_fieldType handle

/-- A name other than `None` means the model itself from its creation on, if anything. -/
theorem eq_of_ownType {model n : String} {id : TypeId} {type : FieldType} (hn : n ≠ "None")
    (h : ownType? model id n = some type) : n = model ∧ type = .model id := by
  unfold ownType? at h
  rw [if_neg hn] at h
  split at h
  · cases h
  · split at h
    · rename_i hown
      obtain ⟨hown, -⟩ := Bool.and_eq_true_iff.1 hown
      cases h
      simp_all
    · cases h

/-- A name other than `None` is resolved to the model that it is declared for. -/
theorem resolve_named {names : Namespace} {model n : String} {id id' : TypeId} (hn : n ≠ "None")
    (hmodel : names.get? model = some (.model id)) (hname : names.get? n = some (.model id')) :
    ((FieldType.named n).resolve (ownType? model id)).resolve names.typeNamed = .model id' := by
  have hlater : names.typeNamed n = some (.model id') := by
    rw [Namespace.typeNamed, hname]
    rfl
  rw [FieldType.resolve]
  cases hown : ownType? model id n with
  | none =>
    rw [Option.getD_none, FieldType.resolve, hlater]
    rfl
  | some type =>
    obtain ⟨rfl, rfl⟩ := eq_of_ownType hn hown
    cases hmodel.symm.trans hname
    rfl

theorem eq_of_finishFields {model : String} {id : TypeId} {fields fields' : List Field}
    (h : finishFields model id fields = .ok fields') :
    fields' = fields.map fun f => { f with type := f.type.resolve (ownType? model id) } := by
  unfold finishFields at h
  split at h
  · cases h
  · unfold resolveOwn at h
    dsimp only at h
    split at h
    · cases h
    · exact (Except.ok.inj h).symm

/-! ## Models of a session -/

/-- The documents stay. -/
theorem upkeep_view (mode : Mode) (view : String → Fetch) :
    Upkeep mode view fun s => s.store.view = view where
  documents hs := hs
  frame hs hview _ _ _ := hview.trans hs
  model hs _ := hs
  declare hs _ _ _ := hs
  settle hs _ _ := hs
  reserve hs _ := hs
  union hs _ := hs
  keep hs _ _ _ := hs

namespace Making

variable {m : Making} {ms : List Making}

/-- The model of a making depicts its fragment. -/
theorem Genuine.exists_depicts (h : m.Genuine mode) : ∃ model,
    m.after.types.model? m.id = some model ∧ model.Depicts m.fragment ∧ model.name = m.name := by
  obtain ⟨depth, hrun⟩ := h
  have hI := upkeep_view mode m.start.store.view
  obtain ⟨-, -, hpost⟩ :=
    upholds_buildModel hI (upholds_annotateWithin hI depth) m.name m.fragment rfl
  rw [hrun] at hpost
  exact hpost m.id rfl

/-- What a making leaves behind in the end, among all makings of the session. -/
structure Closed (mode : Mode) (s : Generation) (ms : List Making) (m : Making) : Prop where
  /-- The program made the model. -/
  genuine : m.Genuine mode
  /-- The model is in the table. -/
  model : ∃ model, s.types.model? m.id = some model ∧ model.Depicts m.fragment ∧
    model.name = m.name
  /-- The name is declared for the model. -/
  declared : s.names.get? m.name = some (.model m.id)
  /-- The fragment was being compiled under the name. -/
  own : m.start.marked m.location = some m.name
  /-- What else was being compiled is among the makings. -/
  within : ∀ l n, m.start.marked l = some n → ∃ d ∈ ms, d.location = l ∧ d.name = n
  /-- A property that leads back to what was being compiled has a field.  It takes data in as many
  layers of arrays exactly when the model there takes all that is innermost, and null when it is not
  required. -/
  back : ∀ property g k t, (property, g) ∈ m.fragment.properties →
    LeadsBack s.store.view m.start.marked s.names k g t →
    ∃ d ∈ ms, d.location = t.location ∧ m.start.marked t.location = some d.name ∧
      (d.name ≠ "None" → ∃ field ∈ s.types.fieldsOf m.id, field.property = property ∧
        ∀ j : Json, j.Layered (fun _ => True) k → (field.type.Takes s.types j ↔
          j.Layered ((FieldType.model d.id).Takes s.types) k ∨
            m.fragment.requires (property, g) = false ∧ j = .null))

end Making

/-- The field for a property that leads back, in the end. -/
theorem takes_iff_of_layeredFor {types : Types} {names : Namespace} {model n : String}
    {id id' : TypeId} {required : Bool} {k : Nat} {type : FieldType} {j : Json} (hn : n ≠ "None")
    (hmodel : names.get? model = some (.model id)) (hname : names.get? n = some (.model id'))
    (htype : FieldType.LayeredFor (.named n) required k type) (hj : j.Layered (fun _ => True) k) :
    ((type.resolve (ownType? model id)).resolve names.typeNamed).Takes types j ↔
      j.Layered ((FieldType.model id').Takes types) k ∨ required = false ∧ j = .null := by
  have hown := htype.resolve (scalar_ownType model id) nofun rfl
  have hscalar := FieldType.takesArrays_resolve (scalar_ownType model id)
    (show (FieldType.named n).takesArrays = false from rfl)
  have hnull : (FieldType.named n).resolve (ownType? model id) ≠ .null := by
    intro he
    have hresolved := resolve_named hn hmodel hname
    rw [he] at hresolved
    cases hresolved
  have hlater := hown.resolve (scalar_typeNamed names) hnull hscalar
  rw [resolve_named hn hmodel hname] at hlater
  exact FieldType.takes_iff_layeredFor hlater hj

/-- The makings of a session that has ended are closed. -/
theorem Produces.closed {ms : List Making} {s₀ : Generation} (h : Produces mode s₀ ms s)
    (hfree : ∀ l, s₀.marked l = none) (hsession : s₀.session = []) (hend : Concludes s s') :
    ∀ m ∈ ms, m.Closed mode s' ms := by
  intro m hm
  have hids : s.session = ms.map Making.id := by rw [h.session, hsession, List.nil_append]
  have hwithin (l n : String) (hl : m.start.marked l = some n) :
      ∃ d ∈ ms, d.location = l ∧ d.name = n := by
    refine (h.within m hm l n hl).resolve_left ?_
    rw [hfree]
    exact nofun
  have hdeclared (d : Making) (hd : d ∈ ms) : s'.names.get? d.name = some (.model d.id) := by
    rw [hend.names]
    exact (h.stands d hd).declared
  have hmem : m.id ∈ s.session := by
    rw [hids]
    exact List.mem_map_of_mem hm
  have hstands := h.stands m hm
  obtain ⟨required, fields, fields', hrequired, hfields, hfinish, hmodel⟩ := hstands.drafted
  obtain ⟨model, hmodel', houtline, hname, hsettle⟩ := hend.models m.id hmem _ hmodel
  refine ⟨hstands.genuine, ⟨model, hmodel', ?_, hname⟩, hdeclared m hm, hstands.own, hwithin,
    fun property g k t hp hback => ?_⟩
  · obtain ⟨made, hmade, hdepicts, -⟩ := hstands.genuine.exists_depicts
    have hkept : s.types.model? m.id = some made := by
      rw [Types.model?_eq_some] at hmade ⊢
      obtain ⟨rest, he⟩ := hstands.after
      rw [← he, List.getElem?_append_left (List.getElem?_eq_some_iff.1 hmade).1, hmade]
    cases hmodel.symm.trans hkept
    unfold Model.Depicts
    rw [houtline]
    exact hdepicts
  · rw [hend.view, hend.names] at hback
    obtain ⟨field, hfield, hfor⟩ := exists_right_of_forall₂ hfields hp
    obtain ⟨type, back, ⟨hnoted, hflag⟩, htype⟩ := hfor.type
    obtain ⟨hisBack, n, hn, hlayered⟩ := hnoted k t hback
    obtain ⟨d, hd, hlocation, rfl⟩ := hwithin _ _ hn
    refine ⟨d, hd, hlocation, hn, fun hnone => ?_⟩
    have hfinal := Model.eq_of_settle (hsettle (hflag hisBack))
    have hlast : s'.types.fieldsOf m.id = fields'.map fun f => { f with
        type := f.type.resolve s.names.typeNamed } := by
      unfold Types.fieldsOf
      rw [hmodel', hfinal]
    let settled : Field := { field with
      type := (field.type.resolve (ownType? m.name m.id)).resolve s.names.typeNamed }
    refine ⟨settled, ?_, hfor.property, fun j hj => ?_⟩
    · rw [hlast, eq_of_finishFields hfinish, List.map_map]
      exact List.mem_map_of_mem hfield
    · have hfieldType : FieldType.LayeredFor (.named d.name) field.required k field.type := by
        rw [htype]
        exact hlayered.layeredFor field.required
      have hrequires : m.fragment.requires (property, g) = field.required := by
        rw [Fragment.requires, hrequired]
        exact hfor.required.symm
      rw [hend.names] at hdeclared
      rw [hrequires]
      exact takes_iff_of_layeredFor hnone (hdeclared m hm) (hdeclared d hd) hfieldType hj

/-! ## Outermost compilations -/

/-- Objects with a next object, and a list of parts. -/
def linkedContent : Json :=
  .obj [("type", .str "object"), ("properties", .obj [
    ("next", .obj [("$ref", .str "#")]),
    ("parts", .obj [("type", .str "array"), ("items", .obj [("$ref", .str "#")])])])]

/-- A fragment of a document. -/
def schemaPart (content : Json) (pointer : String) : Fragment :=
  ⟨content, "memory:///schema.json", pointer⟩

/-- Whether the references from a fragment end at a location. -/
def leadsToLocation (s : Generation) (f : Fragment) (location : String) : Bool :=
  ((resolve f).run s.store).1.toOption.any (·.location == location)

theorem exists_leadsTo (s : Generation) (f : Fragment) {location : String}
    (h : leadsToLocation s f location = true) :
    ∃ t, LeadsTo s.store.view f t ∧ t.location = location := by
  obtain ⟨t, ht, hl⟩ := (Option.any_eq_true _ _).1 h
  exact ⟨t, leadsTo_iff.2 (eq_ok_of_toOption ht), eq_of_beq hl⟩

/-- The state before some content is compiled from scratch. -/
def recordStart (content : Json) : Generation :=
  { store := (Store.empty fun _ => .unavailable "").add "memory:///schema.json" content }

/-- A compilation leaves the documents as they are, so references end where they did before. -/
theorem exists_leadsTo_recordRun (content : Json) (f : Fragment) {location : String}
    (h : leadsToLocation (recordStart content) f location = true) :
    ∃ t, LeadsTo (recordRun content).2.store.view f t ∧ t.location = location := by
  obtain ⟨calls, hcourse⟩ := exists_course_compileModel { config := {} } "Record"
    ⟨content, "memory:///schema.json", ""⟩ (recordStart content)
  have hview : (recordRun content).2.store.view = (recordStart content).store.view := hcourse.view
  rw [hview]
  exact exists_leadsTo _ f h

/-- Objects whose items are chained, under the name `none`. -/
def noneContent : Json :=
  .obj [("type", .str "object"),
    ("properties", .obj [("item", .obj [("$ref", .str "#/definitions/none")])]),
    ("definitions", .obj [("none", .obj [("type", .str "object"), ("properties", .obj [
      ("next", .obj [("$ref", .str "#/definitions/none")])])])])]

/-- The fragment of the chained items. -/
def noneFragment : Fragment :=
  schemaPart (.obj [("type", .str "object"), ("properties", .obj [
    ("next", .obj [("$ref", .str "#/definitions/none")])])]) "/definitions/none"

/-- The property of the chained items that leads back to them. -/
def noneNext : Fragment :=
  schemaPart (.obj [("$ref", .str "#/definitions/none")]) "/definitions/none/properties/next"

/-- The state when their model is made, inside of the objects that have them as items. -/
def noneStart : Generation :=
  let start : Generation :=
    { store := (Store.empty fun _ => .unavailable "").add "memory:///schema.json" noneContent }
  (start.mark (schemaPart noneContent "").location "Record").mark noneFragment.location "None"

/-- The making of their model. -/
def noneMaking : Making where
  name := "None"
  fragment := noneFragment
  id := 0
  start := noneStart
  after := ((buildModel { config := {} } (annotateWithin { config := {} } 1) "None"
    noneFragment).run noneStart).2

/-- Whether the model at a place has one field, for a property, which does not take an object that
the model itself takes. -/
def Types.disownsEmpty (types : Types) (id : TypeId) (property : String) : Bool :=
  (judgement types (.ofJson (.obj [])) (.model id)).toOption.isSome &&
    match types.fieldsOf id with
    | [field] => field.property == property &&
      (judgement types (.ofJson (.obj [])) field.type).toOption.isNone
    | _ => false

theorem of_disownsEmpty {types : Types} {id : TypeId} {property : String}
    (h : types.disownsEmpty id property = true) :
    (FieldType.model id).Takes types (.obj []) ∧ ∃ field, types.fieldsOf id = [field] ∧
      field.property = property ∧ ¬field.type.Takes types (.obj []) := by
  unfold Types.disownsEmpty at h
  obtain ⟨htakes, hfield⟩ := Bool.and_eq_true_iff.1 h
  obtain ⟨taken, htaken⟩ := Option.isSome_iff_exists.1 htakes
  refine ⟨⟨taken, eq_ok_of_toOption htaken⟩, ?_⟩
  split at hfield
  · rename_i field hfields
    obtain ⟨hproperty, hrefused⟩ := Bool.and_eq_true_iff.1 hfield
    refine ⟨field, hfields, eq_of_beq hproperty, ?_⟩
    rintro ⟨taken', htaken'⟩
    rw [htaken'] at hrefused
    cases hrefused
  · cases hfield

end ShapeSum
