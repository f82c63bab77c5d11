import ShapeSum.Text.Case
import ShapeSum.Text.Word
import ShapeSum.Uri.Join
import ShapeSum.Uri.Percent
import ShapeSum.Schema.Pointer

/-!
# Type names

A raw name from a schema becomes the name of a type: words are joined with a
capital at the start of each, characters that no identifier may hold become
underscores, and a name that would be empty or start with a digit gets an
underscore in front.  `typeName` on a raw name holds only ASCII word characters.
-/

namespace ShapeSum

open ShapeSum.Text (capitalize isPlainWord isDigit)

/-- How type names are formed. -/
structure NamingPolicy where
  /-- Put in front of the names of unions. -/
  before : Option String := none
  /-- Put behind the names of unions. -/
  after : Option String := none
  /-- The characters that separate words. -/
  delimiters : String := "-_"

namespace NamingPolicy

/-- The words of a text between the characters that satisfy a test; empty words are left out. -/
def words (isDelimiter : Char → Bool) (s : List Char) : List (List Char) :=
  (s.foldr (fun c ws =>
    if isDelimiter c then [] :: ws
    else match ws with
      | [] => [[c]]
      | w :: ws => (c :: w) :: ws) [[]]).filter (!·.isEmpty)

/-- A name with its words joined, each with a capital at its start.  A name without words is left
as it is. -/
def joinWords (p : NamingPolicy) (s : List Char) : List Char :=
  if p.delimiters.isEmpty then s
  else match words p.delimiters.toList.contains s with
    | [] => s
    | ws => ws.flatMap capitalize

/-- A name with an underscore for every character that is no ASCII word character. -/
def plainWord (s : List Char) : List Char := s.map fun c => if isPlainWord c then c else '_'

/-- A name between the affixes of the policy. -/
def affix (p : NamingPolicy) (s : List Char) : List Char :=
  (p.before.getD "").toList ++ s ++ (p.after.getD "").toList

/-- A name that is neither empty nor starts with a digit. -/
def guardStart (s : List Char) : List Char :=
  match s with
  | [] => ['_']
  | c :: rest => if isDigit c then '_' :: c :: rest else c :: rest

/-- The characters of the type name for a raw name. -/
def typeChars (p : NamingPolicy) (affixed : Bool) (raw : List Char) : List Char :=
  let s := capitalize raw
  let s := if affixed then p.affix s else s
  guardStart (plainWord (p.joinWords s))

/-- The type name for a raw name, between the affixes if asked for. -/
def typeName (p : NamingPolicy) (raw : String) (affixed : Bool := false) : String :=
  String.ofList (p.typeChars affixed raw.toList)

example : ({} : NamingPolicy).typeName "my-dog" = "MyDog" ∧
    ({} : NamingPolicy).typeName "1st" = "_1st" ∧ ({} : NamingPolicy).typeName "" = "_" ∧
    ({} : NamingPolicy).typeName "ßa é" = "SSa__" := by decide +kernel

end NamingPolicy

/-- The raw type name for a reference: the last segment of its fragment, or the name of its
document, or nothing. -/
def referenceName (ref : String) : Except Uri.Fault String := do
  let (document, fragment) ← Uri.splitFragment ref.toList
  let fragment := Text.trimRight (· == '/') (Uri.unescape fragment)
  if !fragment.isEmpty then
    return String.ofList (Pointer.unescapeChars (Text.afterLast '/' fragment))
  else if !document.isEmpty then return String.ofList (Uri.stem (Uri.unescape document))
  else return ""

end ShapeSum
