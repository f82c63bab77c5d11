import ShapeSum.Json.Basic
import ShapeSum.Number.Numeric
import ShapeSum.Schema.Pointer

/-!
# Schema fragments

A fragment is a part of a schema document together with the place where it
stands.  The accessors read off what a schema keyword says, and an ill-formed
keyword counts as absent.  `child` descends by keys and list indices; each step
can fault in a way of its own.
-/

namespace ShapeSum

/-- A part of a schema document and where it stands. -/
structure Fragment where
  /-- The part itself. -/
  content : Json
  /-- The URI of the document. -/
  document : String
  /-- The pointer to the part within the document. -/
  pointer : String

/-- Why a step into a value fails. -/
inductive StepFault where
  /-- The object has no such member. -/
  | missing (key : String)
  /-- The segment is no index. -/
  | notIndex (segment : String)
  /-- The index lies outside the list. -/
  | outside
  /-- The index is too large for any list. -/
  | tooLarge
  /-- A text has no members. -/
  | text
  /-- A value of this kind has no parts. -/
  | scalar (kind : String)

/-- The first two hundred characters of a text in quotes. -/
def shownStart (s : String) : String := String.ofList ((Text.quoted s).toList.take 200)

/-- The wording of a fault. -/
def StepFault.message : StepFault → String
  | .missing key => Text.quoted key
  | .notIndex segment => s!"invalid literal for int() with base 10: {shownStart segment}"
  | .outside => "list index out of range"
  | .tooLarge => "cannot fit 'int' into an index-sized integer"
  | .text => "string indices must be integers, not 'str'"
  | .scalar kind => s!"'{kind}' object is not subscriptable"

/-- The item of a list at an index; a negative index counts from the end. -/
def itemAt? (items : List Json) (i : Int) : Option Json :=
  if 0 ≤ i then items[i.toNat]?
  else if 0 ≤ items.length + i then items[(items.length + i).toNat]?
  else none

/-- One step into a value by a key or an index. -/
def Json.step (j : Json) (segment : String) : Except StepFault Json :=
  match j with
  | .arr items =>
    match Number.readInt? segment.toList with
    | none => .error (.notIndex segment)
    | some i => match itemAt? items i with
      | some v => .ok v
      | none => .error (if Binary64.fitsInt64 i then .outside else .tooLarge)
  | .obj members =>
    match Entries.get? members segment with
    | some v => .ok v
    | none => .error (.missing segment)
  | .str _ => .error .text
  | j => .error (.scalar j.kind)

namespace Fragment

/-- The place of a fragment: document and pointer. -/
def location (f : Fragment) : String := f.document ++ "#" ++ f.pointer

/-- The value of a keyword. -/
def get? (f : Fragment) (keyword : String) : Option Json := f.content.get? keyword

/-- The reference that the fragment consists of, if it is one. -/
def ref (f : Fragment) : Option String := (f.get? "$ref").bind Json.text?

/-- The declared types. -/
def types (f : Fragment) : List String :=
  match f.get? "type" with
  | some (.arr items) => items.filterMap Json.text?
  | some (.str s) => [s]
  | _ => []

/-- Whether the fragment describes objects: by its type, or by properties when it declares no
type. -/
def isObject (f : Fragment) : Bool :=
  f.types.contains "object" || (f.types.isEmpty && (f.get? "properties").isSome)

/-- Whether the fragment is a choice between branches. -/
def hasOneOf (f : Fragment) : Bool := (f.get? "oneOf").isSome

/-- The part of the fragment under a keyword, as a fragment. -/
def part (f : Fragment) (segment : String) (content : Json) : Fragment :=
  ⟨content, f.document, Pointer.append f.pointer segment⟩

/-- The branches of a choice, in order. -/
def branches (f : Fragment) : List Fragment :=
  match f.get? "oneOf" with
  | some (.arr items) =>
    items.mapIdx fun i item => (f.part "oneOf" (.arr items)).part (toString i) item
  | _ => []

/-- The members of the object under a keyword, in order; none if there is no object. -/
def members (f : Fragment) (keyword : String) : List (String × Fragment) :=
  match f.get? keyword with
  | some (.obj ms) => ms.map fun (name, v) => (name, (f.part keyword (.obj ms)).part name v)
  | _ => []

/-- The declared properties, in order. -/
def properties (f : Fragment) : List (String × Fragment) := f.members "properties"

/-- The fragment that a path of keys and indices leads to. -/
def child (f : Fragment) : List String → Except StepFault Fragment
  | [] => .ok f
  | segment :: rest =>
    match f.content.step segment with
    | .error e => .error e
    | .ok v => (f.part segment v).child rest

end Fragment

/-- The fragment of a document that a pointer names. -/
def fragmentAt (uri : String) (root : Json) (pointer : String) : Except StepFault Fragment :=
  Fragment.child ⟨root, uri, ""⟩ (Pointer.split pointer)

end ShapeSum
