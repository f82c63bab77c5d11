import ShapeSum.Entries
import ShapeSum.Files.Basic
import ShapeSum.Text.Split

/-!
# Trees of files

A tree of files holds texts under paths of names.  Its directories are the paths
that lead to a file.  A path is looked up component by component: every component
but the last must lead to a directory, and two dots lead back to the one above.
-/

namespace ShapeSum

/-- The files by their paths from the root. -/
structure FileTree where
  /-- The path of the directory that relative paths start from. -/
  base : List String
  /-- The texts of the files. -/
  files : List (List String × String)

namespace FileTree

/-- What stands at a path of names from the root. -/
def entry (t : FileTree) (path : List String) : FileContent :=
  match t.files.lookup path with
  | some s => .text s
  | none =>
    if path.isPrefixOf t.base || t.files.any fun f => path.isPrefixOf f.1 then .directory
    else .missing

/-- What is reached from a place by components of a path. -/
def walk (t : FileTree) (place : List String) : List String → FileContent
  | [] => t.entry place
  | c :: rest =>
    match t.entry place with
    | .directory =>
      if c = "" ∨ c = "." then walk t place rest
      else if c = ".." then walk t place.dropLast rest
      else walk t (place ++ [c]) rest
    | .text _ => .throughFile
    | e => e

/-- What is found under a path. -/
def find (t : FileTree) (path : String) : FileContent :=
  match path.toList with
  | [] => .missing
  | s => t.walk (if s.head? = some '/' then [] else t.base)
      ((Text.splitOn '/' s).map String.ofList)

example : (match FileTree.find ⟨["r"], [(["r", "a", "b.json"], "1")]⟩ "a/../a/b.json" with
    | .text s => s
    | _ => "") = "1" := by decide +kernel

end FileTree

end ShapeSum
