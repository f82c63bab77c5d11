import ShapeSum.Naming.Policy

/-!
# Unique names

A name that is taken, whatever the case of its letters, is lengthened by a
separator until it is free.  With a separator that is not empty the candidates
have small forms of growing length, so among one more candidates than there are
taken names one is free.
-/

namespace ShapeSum

open ShapeSum.Text (lower)

/-- The first of at most `tries + 1` candidates whose small form is not taken. -/
def firstFree (taken : List String) (separator : String) : Nat → String → String
  | 0, name => name
  | tries + 1, name =>
    if taken.contains (lower name) then firstFree taken separator tries (name ++ separator)
    else name

/-- A name lengthened by separators until it differs from every declared one. -/
def uniqueName (name : String) (declared : List String) (separator : String) : String :=
  firstFree (declared.map lower) separator declared.length name

example : uniqueName "Dog" ["dog", "DOG_"] "_" = "Dog__" := by decide +kernel

end ShapeSum
