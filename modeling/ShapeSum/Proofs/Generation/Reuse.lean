import ShapeSum.Proofs.Decode.Taking
import ShapeSum.Proofs.Generation.Keeping
import ShapeSum.Proofs.Types.Resemblance

/-!
# Types that are used again

A type that was compiled once is used again for a fragment at the same location with
equal content.  It should be the type that a compilation from scratch gives by the
present documents.  A model is one: it has the properties of the new model and the same
ones are required, except where a marker is equal to `true` without being it.  If the
content is the same, it takes the same objects as far as the types of its fields take
the same entries (`Reuse`).  But these types need not be those from scratch: a property
with branches is not typed by a union once its location holds a model or is being
compiled to one.
-/

namespace ShapeSum

variable {past : List (String → Fetch)} {s : Generation}

/-! ## Compilations from scratch -/

section
variable {store : Store} {mode : Mode} {name : String} {f : Fragment} {h : Handle}

/-- A compilation from scratch gives a model that is remembered for the fragment. -/
theorem exists_compiled_of_compileModel
    (hr : ((compileModel mode name f).run { store }).1 = .ok h) :
    ∃ id, h = .model id ∧
      Entries.get? ((compileModel mode name f).run { store }).2.names.compiled f.location =
        some (f.content, .model id) := by
  have hI := upkeep_keeps mode (Session.fresh store).view_mem
  have hrun : (compileModel mode name f).run { store } =
      (compileNew mode (annotate mode) name f true).run { store } := by
    unfold compileModel compile at hr ⊢
    split at hr
    · rename_i ho
      rw [if_pos ho]
      rfl
    · cases hr
  rw [hrun] at hr ⊢
  obtain ⟨-, -, hp⟩ := upholds_compileNew hI (upholds_annotate hI) name f true
    (Session.fresh store).keeps
  obtain ⟨id, rfl, -, hget⟩ := hp h hr
  exact ⟨id, rfl, hget⟩

/-- A compilation from scratch gives a model that depicts the fragment. -/
theorem exists_depicts_of_compileModel
    (hr : ((compileModel mode name f).run { store }).1 = .ok h) :
    ∃ id m, h = .model id ∧
      ((compileModel mode name f).run { store }).2.types.model? id = some m ∧ m.Depicts f := by
  obtain ⟨id, rfl, hget⟩ := exists_compiled_of_compileModel hr
  cases (Session.compiled mode name f (.fresh store)).keeps.compiled _ _ _ hget with
  | model hm _ hc hd => exact ⟨id, _, rfl, hm, (Fragment.outline_congr hc).symm.trans hd⟩

end

/-! ## Properties with branches -/

/-- A handle is a union's type when it stands for a union. -/
theorem Handle.fieldType_eq_union {h : Handle} :
    (∃ id, h.fieldType = .union id) ↔ ∃ id, h = .union id := by
  cases h with
  | union id => exact ⟨fun _ => ⟨id, rfl⟩, fun _ => ⟨id, rfl⟩⟩
  | _ => exact ⟨fun ⟨_, h⟩ => (nomatch h), fun ⟨_, h⟩ => (nomatch h)⟩

/-- A property whose references lead to a fragment with branches is typed by a union exactly when the
location is not being compiled and no other type is remembered for it. -/
theorem annotate_isUnion_iff {mode : Mode} (hn : mode.nestedUnions = true) {property : String}
    {f target : Fragment} {type : FieldType} {isBack : Bool}
    (hr : ((annotate mode property f).run s).1 = .ok (type, isBack))
    (hl : LeadsTo s.store.view f target) (ho : target.hasOneOf = true) :
    (∃ id, type = .union id) ↔ Entries.get? s.pending target.location = none ∧
      ∀ h, s.names.typeOf? target = some h → ∃ id, h = .union id := by
  unfold annotate at hr
  generalize mode.depth = depth at hr
  cases depth with
  | zero => cases hr
  | succ depth =>
    have hl := leadsTo_iff.1 hl
    unfold annotateWithin annotateOnce at hr
    rw [run_bind, Generating.run_onStore] at hr
    unfold resolve at hl
    rw [run_bind] at hl
    rcases hc : (resolveChain f).run s.store with ⟨e | chain, store⟩
    · rw [hc] at hr
      cases hr
    · rw [hc] at hr hl
      cases hl
      dsimp only at hr
      rw [run_bind_ok (run_get _)] at hr
      dsimp only at hr
      cases hp : Entries.get? s.pending chain.target.location with
      | some name =>
        rw [hp] at hr
        cases hr
        exact ⟨fun ⟨_, h⟩ => (nomatch h), fun h => (nomatch h.1)⟩
      | none =>
        rw [hp] at hr
        cases ht : s.names.typeOf? chain.target with
        | some h =>
          rw [ht] at hr
          cases hr
          rw [Handle.fieldType_eq_union]
          exact ⟨fun hu => ⟨rfl, fun h' he => by cases he; exact hu⟩, fun hu => hu.2 h rfl⟩
        | none =>
          rw [ht] at hr
          refine ⟨fun _ => ⟨rfl, fun h he => nomatch he⟩, fun _ => ?_⟩
          dsimp only at hr
          unfold newType at hr
          rw [if_pos ho, if_pos hn, run_bind] at hr
          split at hr <;> cases hr
          exact ⟨_, rfl⟩

/-! ## Reuse -/

/-- Every variant of a union that describes a fragment has the fields of its model. -/
theorem UnionType.Describes.exists_model {u : UnionType} {types : Types} {view : String → Fetch}
    {f : Fragment} (h : u.Describes types view f) {v : Variant} (hv : v ∈ u.variants) :
    ∃ m, types.model? v.type = some m ∧ v.Lists m.outline := by
  obtain ⟨branch, -, target, g, m, -, -, -, -, hm, -, hl⟩ := exists_left_of_forall₂ h.variants hv
  exact ⟨m, hm, hl⟩

/-- How far the types that a state has for fragments are those of a compilation from scratch by the
documents that can be had. -/
structure Reuse (s : Generation) : Prop where
  /-- A model that is used again for a fragment resembles the model of a compilation from scratch.
  If it was compiled from the same content, it has the same outline, and it takes the same data if
  the types of the fields do. -/
  model {f : Fragment} {content : Json} {id : TypeId} :
    Entries.get? s.names.compiled f.location = some (content, .model id) →
    content.sameContent f.content = true → content.hasDistinctKeys = true →
    ∀ (mode : Mode) (name : String) (h : Handle),
      ((compileModel mode name f).run { store := s.store }).1 = .ok h →
      ∃ m id' m', s.types.model? id = some m ∧ h = .model id' ∧
        ((compileModel mode name f).run { store := s.store }).2.types.model? id' = some m' ∧
        m.Resembles m' f ∧ (content = f.content → m.outline = m'.outline ∧
          (List.Forall₂ (fun field field' : Field => TakeAlike s.types field.type
              ((compileModel mode name f).run { store := s.store }).2.types field'.type)
              m.fields m'.fields →
            TakeAlike s.types (.model id)
              ((compileModel mode name f).run { store := s.store }).2.types (.model id')))
  /-- The payloads of a union are objects of compiled models, whose fields its variants have. -/
  payload {location : String} {id : TypeId} {u : UnionType} :
    Entries.get? s.unions location = some id → s.types.union? id = some u → ∀ v ∈ u.variants,
      ∃ m, s.types.model? v.type = some m ∧ v.Lists m.outline

/-- A description of objects that has branches as well. -/
def splitContent : Json :=
  .obj [("type", .str "object"), ("properties", .obj [("a", .obj [("type", .str "string")])]),
    ("oneOf", .arr [.obj [("type", .str "object"), ("properties", .obj [
      ("b", .obj [("type", .str "string")])])]])]

/-- A description of objects with a property that refers to the other description. -/
def ownerContent : Json :=
  .obj [("type", .str "object"), ("properties", .obj [
    ("p", .obj [("$ref", .str "#/definitions/x")])]), ("required", .arr [.str "p"])]

/-- A document with both descriptions as branches. -/
def splitDocument : Json :=
  .obj [("oneOf", .arr [.obj [("$ref", .str "#/definitions/x")],
      .obj [("$ref", .str "#/definitions/y")]]),
    ("definitions", .obj [("x", splitContent), ("y", ownerContent)])]

/-- The first branch. -/
def splitFragment : Fragment := ⟨splitContent, "memory:///schema.json", "/definitions/x"⟩

/-- The second branch. -/
def ownerFragment : Fragment := ⟨ownerContent, "memory:///schema.json", "/definitions/y"⟩

/-- The state after the union of the document was generated. -/
def splitState : Generation :=
  ((Request.generate "pair" ⟨splitDocument, "memory:///schema.json", ""⟩).run { config := {} }
    { store := (Store.empty fun _ => .unavailable "").add "memory:///schema.json"
        splitDocument }).2

theorem session_splitState : ∃ past, Session past splitState :=
  ⟨_, .request _ (.generate _ _) (.fresh _)⟩

/-- The content and the model that are remembered at a location. -/
def Namespace.modelAt? (n : Namespace) (location : String) : Option (Json × TypeId) :=
  match Entries.get? n.compiled location with
  | some (content, .model id) => some (content, id)
  | _ => none

theorem Namespace.get?_compiled_of_modelAt? {n : Namespace} {location : String} {content : Json}
    {id : TypeId} (h : n.modelAt? location = some (content, id)) :
    Entries.get? n.compiled location = some (content, .model id) := by
  unfold modelAt? at h
  split at h <;> cases h
  assumption

/-- The first description with its members in another order. -/
def turnedFragment : Fragment :=
  ⟨.obj [("oneOf", .arr [.obj [("properties", .obj [("b", .obj [("type", .str "string")])]),
      ("type", .str "object")]]),
    ("properties", .obj [("a", .obj [("type", .str "string")])]), ("type", .str "object")],
    "memory:///schema.json", "/definitions/x"⟩

/-- A compilation from scratch after the union of the document was generated. -/
def recompiled (f : Fragment) : Except Failure Handle × Generation :=
  (compileModel { config := {} } "X" f).run { store := splitState.store }

/-- Whether a type is that of texts that may be null. -/
def FieldType.isNullableText : FieldType → Bool
  | .choice [.text, .null] => true
  | _ => false

/-- Texts that may be null are the same over all tables of types. -/
theorem takeAlike_of_isNullableText {types types' : Types} {t t' : FieldType}
    (h : t.isNullableText = true) (h' : t'.isNullableText = true) : TakeAlike types t types' t' := by
  unfold FieldType.isNullableText at h h'
  split at h <;> cases h
  split at h' <;> cases h'
  intro j
  unfold FieldType.Takes
  rw [judgement_eq, judgement_eq]
  simp [judge, judgeOptions, FieldType.same, FieldType.label]

/-- Whether the model of a handle has one field, for texts that may be null. -/
def Types.hasOneText (types : Types) : Handle → Bool
  | .model id => (types.model? id).any fun m => match m.fields with
    | [field] => field.type.isNullableText
    | _ => false
  | _ => false

theorem Types.forall₂_of_hasOneText {types types' : Types} {id id' : TypeId} {m m' : Model}
    (hm : types.model? id = some m) (hm' : types'.model? id' = some m')
    (h : types.hasOneText (.model id) = true) (h' : types'.hasOneText (.model id') = true) :
    List.Forall₂ (fun field field' : Field => TakeAlike types field.type types' field'.type)
      m.fields m'.fields := by
  unfold hasOneText at h h'
  simp only [hm, hm', Option.any_some] at h h'
  split at h
  · rename_i hfields
    split at h'
    · rename_i hfields'
      rw [hfields, hfields']
      exact .cons (takeAlike_of_isNullableText h h') .nil
    · cases h'
  · cases h

/-- Whether a type is a union. -/
def FieldType.isUnion : FieldType → Bool
  | .union _ => true
  | _ => false

/-- The property of the second description. -/
def ownerProperty : Fragment :=
  (ownerFragment.part "properties" (.obj [("p", .obj [("$ref", .str "#/definitions/x")])])).part "p"
    (.obj [("$ref", .str "#/definitions/x")])

end ShapeSum
