/-!
# The enumeration of tags

The tags of a union are the names of an enumeration, and an enumeration has uses of
its own for some names: those between double underscores and its own private names
do not become members, and of those between single underscores a few are settings
and the others are refused.
-/

namespace ShapeSum

/-- The names between single underscores that the enumeration of tags takes as settings of its
own. -/
def enumerationSettings : List String :=
  ["_generate_next_value_", "_numeric_repr_", "_missing_", "_ignore_", "_iter_member_",
    "_iter_member_by_value_", "_iter_member_by_def_"]

/-- Whether a tag is hidden from the enumeration of tags: a name between double underscores, one
that is private to the enumeration, or one of its settings. -/
def isHiddenTag (tag : String) : Bool :=
  let s := tag.toList
  let ends (p : List Char) : Bool := p.isPrefixOf s && p.isSuffixOf s
  let dunder := decide (4 < s.length) && ends ['_', '_'] && s[2]? != some '_' &&
    s.reverse[2]? != some '_'
  let mark := "_Tag__".toList
  let secret := decide (mark.length < s.length) && mark.isPrefixOf s &&
    !(['_', '_'].isSuffixOf s)
  dunder || secret || enumerationSettings.contains tag

/-- Whether a tag is kept for special use in the enumeration of tags: the name of the enumeration's
own operation, or one between single underscores that is not hidden. -/
def isReservedTag (tag : String) : Bool :=
  let s := tag.toList
  tag == "mro" || (decide (2 < s.length) && s.head? == some '_' && s.getLast? == some '_' &&
    s[1]? != some '_' && s.reverse[1]? != some '_' && !isHiddenTag tag)

example : isHiddenTag "__e__" = true ∧ isHiddenTag "__E" = false ∧ isHiddenTag "_missing_" = true ∧
    isReservedTag "_missing_" = false ∧ isReservedTag "_e_" = true ∧ isReservedTag "_" = false := by
  decide +kernel

end ShapeSum
