import ShapeSum.Uri.Join
import ShapeSum.Uri.Percent

/-!
# Paths

A path is written with single slashes between its components and without dot
components; a component of two dots stays where it is.  Resolving a path against
a directory gives an absolute path without either.
-/

namespace ShapeSum.Path

open ShapeSum.Text (splitOn joinWith)

/-- The components of a path, without empty ones and single dots. -/
def components (path : List Char) : List (List Char) :=
  (splitOn '/' path).filter fun s => !s.isEmpty && s != ['.']

/-- What an absolute path starts with: a slash, or two if there are exactly two. -/
def lead (path : List Char) : List Char :=
  match (path.takeWhile (· == '/')).length with
  | 0 => []
  | 2 => ['/', '/']
  | _ => ['/']

/-- A path as it is written. -/
def tidyChars (path : List Char) : List Char :=
  match lead path ++ joinWith ['/'] (components path) with
  | [] => ['.']
  | s => s

/-- A path as it is written. -/
def tidy (path : String) : String := String.ofList (tidyChars path.toList)

/-- The absolute path that a path means in a directory. -/
def resolve (directory path : String) : String :=
  String.ofList (Uri.normalPath (match path.toList with
    | '/' :: rest => '/' :: rest.dropWhile (· == '/')
    | rest => directory.toList ++ '/' :: rest))

/-- The path of a file in a directory, the directory's path being written tidily. -/
def inside (directory name : String) : String :=
  if directory = "." then name
  else if directory.toList.getLast? = some '/' then directory ++ name
  else directory ++ "/" ++ name

/-- The URI of an absolute path. -/
def toUri (path : String) : String := "file://" ++ String.ofList (Uri.escapePath path.toList)

example : tidy "a//./b/../c/" = "a/b/../c" ∧ tidy "" = "." ∧ tidy "//x" = "//x" ∧
    tidy "///x" = "/x" := by decide +kernel

example : resolve "/d" "a/../b.json" = "/d/b.json" := by decide +kernel

end ShapeSum.Path
