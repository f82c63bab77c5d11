import ShapeSum.Generation.State
import ShapeSum.Naming.Attribute

/-!
# Compiling fragments to models

A fragment that describes objects becomes a model with a field for each property.
The type of a field comes from the property's own fragment, after following its
references: a fragment that is still being compiled gives a back reference by
name, one that was compiled before gives its type, and any other is compiled in
turn.

Every round of the recursion goes through the type of a field.  So the functions
here take the function for that, `Annotate`, as an argument, and the recursion is
tied elsewhere.
-/

namespace ShapeSum

/-- Gives the type of a property's fragment, and whether it is a back reference. -/
abbrev Annotate := String → Fragment → Generating (FieldType × Bool)

/-! ## Back references -/

/-- Names with a fixed meaning that is no type of values. -/
def fixedNames : List String :=
  ["True", "False", "Ellipsis", "NotImplemented", "ArithmeticError", "AssertionError",
   "AttributeError", "BaseException", "BaseExceptionGroup", "BlockingIOError", "BrokenPipeError",
   "BufferError", "BytesWarning", "ChildProcessError", "ConnectionAbortedError",
   "ConnectionError", "ConnectionRefusedError", "ConnectionResetError", "DeprecationWarning",
   "EOFError", "EncodingWarning", "EnvironmentError", "Exception", "ExceptionGroup",
   "FileExistsError", "FileNotFoundError", "FloatingPointError", "FutureWarning",
   "GeneratorExit", "IOError", "ImportError", "ImportWarning", "IndentationError", "IndexError",
   "InterruptedError", "IsADirectoryError", "KeyError", "KeyboardInterrupt", "LookupError",
   "MemoryError", "ModuleNotFoundError", "NameError", "NotADirectoryError",
   "NotImplementedError", "OSError", "OverflowError", "PendingDeprecationWarning",
   "PermissionError", "ProcessLookupError", "RecursionError", "ReferenceError",
   "ResourceWarning", "RuntimeError", "RuntimeWarning", "StopAsyncIteration", "StopIteration",
   "SyntaxError", "SyntaxWarning", "SystemError", "SystemExit", "TabError", "TimeoutError",
   "TypeError", "UnboundLocalError", "UnicodeDecodeError", "UnicodeEncodeError", "UnicodeError",
   "UnicodeTranslateError", "UnicodeWarning", "UserWarning", "ValueError", "Warning",
   "ZeroDivisionError", "__build_class__", "__debug__", "__doc__", "__import__", "__loader__",
   "__name__", "__package__", "__spec__"]

/-- The type that a back reference has as soon as its model exists: the model's own name means
the model, and one name means null. -/
def ownType? (model : String) (id : TypeId) (name : String) : Option FieldType :=
  if name = "None" then some .null
  else if fixedNames.contains name && name != model then none
  else if name = model && name != "True" && name != "False" then some (.model id)
  else none

/-- Why a back reference in a field of a model cannot be left for later, if it cannot. -/
def backReferenceFault? (fields : List Field) (f : Field) (name : String) : Option Failure :=
  if fixedNames.contains name then some .notAType
  else if fields.any (·.name == name) then
    match f.required, f.type with
    | true, .named _ => if f.name = name then some .ownField else some .notAType
    | _, _ => some .notAType
  else none

/-- The fields of a model with the back references resolved that its creation resolves. -/
def resolveOwn (model : String) (id : TypeId) (fields : List Field) :
    Except Failure (List Field) :=
  let resolved := fields.map fun f => { f with type := f.type.resolve (ownType? model id) }
  match resolved.findSome? fun f => f.type.names.findSome? (backReferenceFault? fields f) with
  | some e => .error e
  | none => .ok resolved

/-- The type that a name stands for. -/
def Handle.fieldType : Handle → FieldType
  | .reserved => .null
  | .model id => .model id
  | .union id => .union id
  | .label text => .named text

/-- The model with its back references resolved by the declared names. -/
def Model.settle (names : Namespace) (m : Model) : Except Failure Model :=
  let fields := m.fields.map fun f =>
    { f with type := f.type.resolve fun n => (names.get? n).map Handle.fieldType }
  match (fields.flatMap fun f => f.type.names).head? with
  | some n => .error (.undeclared n)
  | none => .ok { m with fields }

/-- Resolves the back references of some models by the declared names. -/
def settleAll : List TypeId → Generating Unit
  | [] => pure ()
  | id :: ids => do
    let st ← get
    match st.types.model? id with
    | none => settleAll ids
    | some m => match m.settle st.names with
      | .error e => throw e
      | .ok m' =>
        set { st with types := st.types.set id (.model m') }
        settleAll ids

/-! ## Models -/

/-- The names in a list of required properties.  Only texts can name a property, and a container
among them is a fault. -/
def requiredNames (f : Fragment) : Except Failure (List String) :=
  match f.get? "required" with
  | some (.arr items) =>
    match items.find? fun
      | .arr _ => true
      | .obj _ => true
      | _ => false with
    | some j => .error (.unhashable j.kind)
    | none => .ok (items.filterMap Json.text?)
  | _ => .ok []

/-- Whether a fragment marks its own property as required. -/
def marksRequired (f : Fragment) : Bool :=
  match f.get? "required" with
  | some (.bool b) => b
  | _ => false

/-- The fields for properties in turn. -/
def compileFields (annotate : Annotate) (required : List String) :
    List Field → List (String × Fragment) → Generating (List Field)
  | done, [] => return done
  | done, (property, f) :: rest => do
    let (type, isBack) ← annotate property f
    if isBack then modify fun st => { st with backReference := true }
    let needed := required.contains property || marksRequired f
    let field : Field :=
      { name := attributeName property (done.map Field.name)
        property
        required := needed
        type := if needed then type else type.optional
        description := (f.get? "description").bind Json.text? }
    compileFields annotate required (done ++ [field]) rest

/-- The name that no field may have, since models keep it for their settings. -/
def settingsName : String := "Config"

/-- The fields of a model as its creation leaves them. -/
def finishFields (model : String) (id : TypeId) (fields : List Field) :
    Except Failure (List Field) :=
  if fields.any (·.name == settingsName) then .error .settingsField
  else resolveOwn model id fields

/-- Makes the model of a fragment. -/
def buildModel (mode : Mode) (annotate : Annotate) (name : String) (f : Fragment) :
    Generating TypeId := do
  let required ← Generating.ofExcept (requiredNames f)
  let fields ← compileFields annotate required [] f.properties
  let id := (← get).types.length
  let fields ← Generating.ofExcept (finishFields name id fields)
  Generating.addType (.model ⟨name, fields, mode.config.frozenPayloads⟩)

/-- Runs a compilation with its location marked as pending.  The mark is removed whatever the
result, and a mark that is gone already is a failure of its own. -/
def whilePending {α : Type} (location name : String) (x : Generating α) : Generating α := fun st =>
  let (r, st) := x.run { st with pending := Entries.set st.pending location name }
  if Entries.has st.pending location then
    (r, { st with pending := st.pending.filter (·.1 != location) })
  else (.error (.pendingLost location), st)

/-- A compilation that is not inside another one begins a session. -/
def beginSession (outermost : Bool) : Generating Unit :=
  modify fun st => if outermost then { st with session := [], backReference := false } else st

/-- The compilation that began a session resolves the back references of its models. -/
def endSession (outermost : Bool) : Generating Unit := do
  let st ← get
  if outermost && st.backReference then settleAll st.session else return

/-- The new model of a fragment under a name.  The outermost compilation resolves the back
references of all models compiled within it. -/
def compileNew (mode : Mode) (annotate : Annotate) (name : String) (f : Fragment)
    (outermost : Bool) : Generating Handle := do
  beginSession outermost
  let id ← whilePending f.location name (buildModel mode annotate name f)
  Generating.declare name (.model id) (some f)
  modify fun st => { st with session := st.session ++ [id] }
  Generating.report (.compiled name f.location)
  endSession outermost
  return .model id

/-- The model of a fragment under a name: the one that was compiled before, or a new one. -/
def compile (mode : Mode) (annotate : Annotate) (name : String) (f : Fragment) :
    Generating Handle :=
  if f.isObject then do
    let st ← get
    match st.names.typeOf? f with
    | some h => return h
    | none => compileNew mode annotate name f st.pending.isEmpty
  else throw (.generation (.nonObject f.location f.content))

end ShapeSum
