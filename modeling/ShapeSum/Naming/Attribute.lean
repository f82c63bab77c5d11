import ShapeSum.Text.Identifier

/-!
# Attribute names

A property name becomes the name of an attribute.  Characters that are no word
characters become underscores, underscores at the start are dropped, and a name
that would be empty or start with a digit is put behind `field_`.  Reserved words
and names in the range of the model's own attributes get an underscore behind.
-/

namespace ShapeSum

open ShapeSum.Text (isWord isDigit isReserved)

/-- What the names of a model's own attributes start with. -/
def modelRange : List Char := "model_".toList

/-- The attribute name for a property, before it is made unique. -/
def attributeChars (property : List Char) : List Char :=
  let name := (property.map fun c => if isWord c then c else '_').dropWhile (· == '_')
  let name := match name with
    | [] => "field_".toList
    | c :: _ => if isDigit c then "field_".toList ++ name else name
  if isReserved name || modelRange.isPrefixOf name then name ++ ['_'] else name

/-- The first of at most `tries + 1` candidates, each an underscore longer, that is not taken. -/
def firstUntaken (taken : List String) : Nat → String → String
  | 0, name => name
  | tries + 1, name =>
    if taken.contains name then firstUntaken taken tries (name ++ "_") else name

/-- The attribute name for a property, different from those that are taken. -/
def attributeName (property : String) (taken : List String) : String :=
  firstUntaken taken taken.length (String.ofList (attributeChars property.toList))

/-- The attribute names for properties in turn, each different from those before. -/
def attributeNames (taken : List String) : List String → List String
  | [] => []
  | p :: ps =>
    let a := attributeName p taken
    a :: attributeNames (taken ++ [a]) ps

example : attributeNames [] ["_id", "id", "class", "", "1a", "model_x", "a-b"] =
    ["id", "id_", "class_", "field_", "field_1a", "model_x_", "a_b"] := by decide +kernel

end ShapeSum
