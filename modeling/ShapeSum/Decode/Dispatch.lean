import ShapeSum.Decode.Mismatch
import ShapeSum.Union.Enumeration

/-!
# Dispatch

A union takes an object by its keys.  The variants are tried in order, and the
first one whose fields fit the keys is selected; the ones before it are recorded
with the reason why they do not fit.  The object is then made a value of the
selected variant's model, and when that fails no other variant is tried.

What makes the value of a model is a parameter here, so that the selection can be
studied on its own.
-/

namespace ShapeSum

/-- Why a variant does not fit. -/
inductive Rejection where
  /-- Required fields are missing. -/
  | missing (tag : String) (names : List String)
  /-- Some keys are no fields. -/
  | extra (tag : String) (names : List String)

/-- The tag of the variant that does not fit. -/
def Rejection.tag : Rejection → String
  | .missing t _ => t
  | .extra t _ => t

/-- How a dispatch ends. -/
inductive Outcome where
  /-- A variant was selected and took the object. -/
  | matched (variant : Variant) (payload : Value)
  /-- A variant was selected and did not take the object. -/
  | failed (variant : Variant) (error : DecodeError)
  /-- No variant fits. -/
  | noMatch

/-- The result of a dispatch. -/
structure Dispatch where
  /-- The keys of the object, sorted. -/
  keys : List String
  /-- The variants that do not fit, in order, up to the selected one. -/
  rejections : List Rejection
  /-- How it ended. -/
  outcome : Outcome

/-- Whether an object was taken. -/
def Dispatch.isMatched (d : Dispatch) : Bool :=
  match d.outcome with
  | .matched _ _ => true
  | _ => false

/-- Why a variant does not fit some keys, if it does not.  Missing fields come first. -/
def Descriptor.rejection? (d : Descriptor) (keys : List String) : Option Rejection :=
  match d.missingFrom keys with
  | m :: ms => some (.missing d.tag (m :: ms))
  | [] => match d.extraIn keys with
    | e :: es => some (.extra d.tag (e :: es))
    | [] => none

/-- The first variant that fits some keys, and the reasons why those before it do not. -/
def select (keys : List String) : List Variant → List Rejection × Option Variant
  | [] => ([], none)
  | v :: vs =>
    match v.toDescriptor.rejection? keys with
    | some r =>
      let (rs, found) := select keys vs
      (r :: rs, found)
    | none => ([], some v)

/-- The variants whose tags are enumerated. -/
def UnionType.tagged (u : UnionType) : List Variant := u.variants.filter (!isHiddenTag ·.tag)

/-- Dispatches an object with the given keys over variants. -/
def dispatchOver (variants : List Variant) (keys : List String)
    (materialize : Variant → Except DecodeError Value) : Dispatch :=
  let keys := sortedNames keys
  let (rejections, found) := select keys variants
  ⟨keys, rejections, match found with
    | none => .noMatch
    | some v => match materialize v with
      | .ok payload => .matched v payload
      | .error e => .failed v e⟩

/-- The wording for an object that no variant of a union fits. -/
def noMatchMessage (union : String) (keys : List String) : String :=
  s!"No '{union}' variant matches fields {displayTexts keys}"

end ShapeSum
