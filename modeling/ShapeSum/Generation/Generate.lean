import ShapeSum.Generation.Compile
import ShapeSum.Union.Enumeration

/-!
# Generating unions

A fragment with branches becomes a union with a variant for each branch.  A
branch must describe objects; its type is the one that its fragment was compiled
to before, or is compiled now under a new name.  Unions are kept by location and
generated once.

`generate` is the entry point.  A generation error undoes everything that the
generation did, except that documents that were loaded stay loaded.

The recursion through the types of fields is bounded by the depth that the mode
allows.
-/

namespace ShapeSum

/-! ## Unions -/

/-- What is wrong with the variants of a union, if anything: the first one whose type name or
whose tag came up before.  `seen` are the variants before, the last first. -/
def variantClash? (union : String) (seen : List Descriptor) :
    List Descriptor → Option GenerationError
  | [] => none
  | d :: ds =>
    if seen.any (·.typeName == d.typeName) then some (.duplicateVariant union d.typeName)
    else match seen.find? (·.tag == d.tag) with
      | some e => some (.tagCollision d.tag e.typeName d.typeName)
      | none => variantClash? union (d :: seen) ds

/-- Why some variants make no union. -/
def unionFault? (union : String) (variants : List Descriptor) : Option Failure :=
  match variantClash? union [] variants with
  | some e => some (.generation e)
  | none => (variants.find? (isReservedTag ·.tag)).map (.reservedTag ·.tag)

/-- The descriptor of a model under a type name. -/
def Model.descriptor (m : Model) (typeName : String) (source : Option String)
    (emptyTag : String) : Except Failure Descriptor :=
  Descriptor.make (tagFor typeName emptyTag) typeName
    ((m.fields.filter Field.required).map Field.wire)
    ((m.fields.filter (!·.required)).map Field.wire) source

/-- The fragment that a branch stands for, which has to describe objects. -/
def branchTarget (branch : Fragment) : Generating Fragment := do
  let target ← if branch.ref.isSome then Generating.onStore (resolve branch) else pure branch
  if target.isObject then return target
  else throw (.generation (.nonObject target.location target.content))

/-- A new name for the type of a branch: after its reference, or numbered. -/
def nameBranch (mode : Mode) (base : String) (branch : Fragment) : Generating String :=
  match branch.ref with
  | some ref => do
    let declared ← Generating.declaredNames
    Generating.ofExcept ((mode.config.namer.forReference ref declared).mapError .uri)
  | none => do
    modify fun st => { st with counters := st.counters.advance base }
    let st ← get
    return mode.config.namer.forInline base (st.counters.current base) (Entries.keys st.names.names)

/-- The type of a branch with its name: the one that its fragment was compiled to before, or a new
one. -/
def branchType (mode : Mode) (annotate : Annotate) (base : String) (branch target : Fragment) :
    Generating (String × Handle) := do
  let st ← get
  match st.names.typeOf? target with
  | some (.model id) => return (st.types.nameOf id, .model id)
  | some (.union id) => return (st.types.nameOf id, .union id)
  | some _ => throw .noType
  | none => do
    let name ← nameBranch mode base branch
    let handle ← compile mode annotate name target
    return (name, handle)

/-- The variant of a type under a name. -/
def Types.variant (types : Types) (mode : Mode) (typeName : String) (source : String)
    (handle : Handle) : Except Failure Variant :=
  match handle with
  | .model id => match types.model? id with
    | none => .error (.noFields typeName)
    | some m => (m.descriptor typeName (some source) mode.config.emptyTag).map fun d =>
      { d with type := id }
  | _ => .error (.noFields typeName)

/-- The variant for a branch. -/
def compileVariant (mode : Mode) (annotate : Annotate) (base : String) (branch : Fragment) :
    Generating Variant := do
  let target ← branchTarget branch
  let (typeName, handle) ← branchType mode annotate base branch target
  Generating.report (.branch typeName target.location)
  let st ← get
  Generating.ofExcept (st.types.variant mode typeName target.location handle)

/-- The variants for branches in turn. -/
def compileVariants (mode : Mode) (annotate : Annotate) (base : String) :
    List Fragment → Generating (List Variant)
  | [] => return []
  | b :: bs => do
    let v ← compileVariant mode annotate base b
    let vs ← compileVariants mode annotate base bs
    return v :: vs

/-- The union made of some variants. -/
def assembleUnion (mode : Mode) (name location : String) (variants : List Variant) :
    Except Failure UnionType :=
  match unionFault? name (variants.map Variant.toDescriptor) with
  | some e => .error e
  | none => .ok ⟨name, some location, variants, mode.config.structural, mode.config.hashing⟩

/-- Adds the union of a fragment to the types, under a name that is reserved before the variants
are compiled. -/
def draftUnion (mode : Mode) (annotate : Annotate) (base : String) (f : Fragment) :
    Generating (String × TypeId) := do
  let declared ← Generating.declaredNames
  let name := mode.config.namer.forUnion base declared
  Generating.reserve name
  Generating.report (.generating name f.branches.length)
  let variants ← compileVariants mode annotate base f.branches
  let union ← Generating.ofExcept (assembleUnion mode name f.location variants)
  let id ← Generating.addType (.union union)
  return (name, id)

/-- Makes the union of a fragment that is no reference and was not generated before. -/
def buildUnion (mode : Mode) (annotate : Annotate) (base : String) (f : Fragment) :
    Generating TypeId := do
  modify fun st => { st with inProgress := f.location :: st.inProgress }
  let (name, id) ← draftUnion mode annotate base f
  Generating.fill name (.union id) (some f)
  modify fun st => { st with
    inProgress := st.inProgress.filter (· != f.location)
    unions := Entries.set st.unions f.location id }
  return id

/-- The union of a fragment that is no reference: the one that was generated before, or a new
one. -/
def unionAtTarget (mode : Mode) (annotate : Annotate) (base : String) (f : Fragment) :
    Generating TypeId := do
  let st ← get
  match Entries.get? st.unions f.location with
  | some id => return id
  | none =>
    if st.inProgress.contains f.location then
      throw (.generation (.recursiveUnion f.location))
    else if f.branches.isEmpty then throw (.generation (.noBranches f.location))
    else buildUnion mode annotate base f

/-- The union of a fragment, after following its references. -/
def unionOf (mode : Mode) (annotate : Annotate) (base : String) (f : Fragment) :
    Generating TypeId := do
  let target ← Generating.onStore (resolve f)
  unionAtTarget mode annotate base target

/-! ## The types of fields -/

/-- The literals that a fragment restricts values to, if it does and all of them are allowed. -/
def literals? (f : Fragment) : Option (List Literal) :=
  match f.get? "enum" with
  | some (.arr (j :: js)) =>
    ((j :: js).mapM Literal.ofJson?).map List.eraseDups
  | _ => none

/-- The type for the items of an array. -/
def itemType (annotate : Annotate) (property : String) (f : Fragment) :
    Generating (FieldType × Bool) :=
  match f.get? "items" with
  | some (.obj members) => annotate property (f.part "items" (.obj members))
  | _ => return (.any, false)

/-- The raw name for the type of a nested object: that of the reference that led to it, if one did,
or that of the property. -/
def nestedName (property : String) (reference : Option String) : Except Failure String :=
  match reference with
  | none => .ok property
  | some ref => (referenceName ref).mapError .uri

/-- The type for an object inside another one.  `reference` is the reference that led to the
fragment, if one did. -/
def objectType (mode : Mode) (annotate : Annotate) (property : String) (reference : Option String)
    (f : Fragment) : Generating (FieldType × Bool) :=
  if f.properties.isEmpty then return (.object, false)
  else do
    let raw ← Generating.ofExcept (nestedName property reference)
    let declared ← Generating.declaredNames
    let handle ← compile mode annotate (mode.config.namer.forNested raw declared) f
    return (handle.fieldType, false)

/-- The type for one declared JSON type of a fragment. -/
def typeFor (mode : Mode) (annotate : Annotate) (property : String) (reference : Option String)
    (f : Fragment) (jsonType : String) : Generating (FieldType × Bool) :=
  match jsonType with
  | "object" => objectType mode annotate property reference f
  | "array" => do
    let (item, isBack) ← itemType annotate property f
    return (if mode.config.frozenPayloads then .tuple item else .list item, isBack)
  | "string" => return (.text, false)
  | "integer" => return (.integer, false)
  | "number" => return (.number, false)
  | "boolean" => return (.boolean, false)
  | "null" => return (.null, false)
  | _ => return (.any, false)

/-- The types for declared JSON types in turn, and whether one of them is a back reference. -/
def typesFor (mode : Mode) (annotate : Annotate) (property : String) (reference : Option String)
    (f : Fragment) : List String → Generating (List FieldType × Bool)
  | [] => return ([], false)
  | t :: ts => do
    let (o, isBack) ← typeFor mode annotate property reference f t
    let (os, anyBack) ← typesFor mode annotate property reference f ts
    return (o :: os, isBack || anyBack)

/-- One type, or a choice of several. -/
def FieldType.ofOptions : List FieldType → FieldType
  | [o] => o
  | os => .alternatives os

/-- The type for a fragment by the JSON types that it declares.  A fragment that describes objects
without declaring a type is one of objects, and any other takes everything. -/
def typeByJsonTypes (mode : Mode) (annotate : Annotate) (property : String)
    (reference : Option String) (f : Fragment) : Generating (FieldType × Bool) :=
  if f.types.isEmpty && !f.isObject then return (.any, false)
  else do
    let (os, isBack) ← typesFor mode annotate property reference f
      (if f.types.isEmpty then ["object"] else f.types)
    return (.ofOptions os, isBack)

/-- The type for a fragment that is no reference, is not being compiled and was not compiled
before. -/
def newType (mode : Mode) (annotate : Annotate) (property : String) (reference : Option String)
    (f : Fragment) : Generating (FieldType × Bool) :=
  if f.hasOneOf then
    if mode.nestedUnions then do
      let id ← unionOf mode annotate property f
      return (.union id, false)
    else return (.any, false)
  else match literals? f with
    | some values => return (.literal values, false)
    | none => typeByJsonTypes mode annotate property reference f

/-- The type of a property's fragment, given how the types of the fragments inside it are
found. -/
def annotateOnce (mode : Mode) (annotate : Annotate) : Annotate := fun property f => do
  let chain ← Generating.onStore (resolveChain f)
  let st ← get
  match Entries.get? st.pending chain.target.location with
  | some name => return (.named name, true)
  | none =>
    match st.names.typeOf? chain.target with
    | some h => return (h.fieldType, false)
    | none =>
      let reference := if chain.isReference then f.ref.filter (!·.isEmpty) else none
      newType mode annotate property reference chain.target

/-- The type of a property's fragment, with at most `depth` fragments inside each other. -/
def annotateWithin (mode : Mode) : Nat → Annotate
  | 0 => fun _ _ => throw .tooDeep
  | depth + 1 => annotateOnce mode (annotateWithin mode depth)

/-- The type of a property's fragment. -/
def annotate (mode : Mode) : Annotate := annotateWithin mode mode.depth

/-! ## Entry points -/

/-- The model of a fragment under a name. -/
def compileModel (mode : Mode) (name : String) (f : Fragment) : Generating Handle :=
  compile mode (annotate mode) name f

/-- The state before a generation, with what a roll-back leaves alone taken from the state after
it: the documents, the marks of pending compilations, the session and the reports. -/
def Generation.rolledBack (before after : Generation) : Generation :=
  { before with
    store := after.store
    pending := after.pending
    session := after.session
    backReference := after.backReference
    log := after.log
    inProgress := [] }

/-- The union of a fragment, under a name derived from `base`.  A generation error leaves no trace
but loaded documents. -/
def generate (mode : Mode) (base : String) (f : Fragment) : Generating TypeId := fun before =>
  match (unionOf mode (annotate mode) base f).run before with
  | (.error (.generation e), after) => (.error (.generation e), before.rolledBack after)
  | r => r

end ShapeSum
