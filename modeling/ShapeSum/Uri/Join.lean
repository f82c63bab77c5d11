import ShapeSum.Uri.Basic

/-!
# Joining a reference to a base

A reference to a document is resolved against the URI of the document that holds
it.  Schemes that are known to be relative follow the general rule; for any other
scheme the reference is taken as a path beside the base's path.
-/

namespace ShapeSum.Uri

open ShapeSum.Text (splitOn joinWith uptoLast trimRight)

/-! ## The general rule -/

/-- Resolves the dot segments of a path; `done` are the segments kept, the last first. -/
def resolveDots (done : List (List Char)) : List (List Char) → List (List Char)
  | [] => done.reverse
  | seg :: rest =>
    if seg = ['.', '.'] then resolveDots done.tail rest
    else if seg = ['.'] then resolveDots done rest
    else resolveDots (seg :: done) rest

/-- Drops the empty segments but for the first and the last. -/
def dropInnerEmpty : List (List Char) → List (List Char)
  | [] => []
  | s :: rest =>
    match rest.getLast? with
    | none => [s]
    | some final => s :: (rest.dropLast.filter (!·.isEmpty) ++ [final])

/-- A path resolved against the path of the base. -/
def mergePaths (base path : List Char) : List Char :=
  let baseParts := splitOn '/' base
  let baseParts := if baseParts.getLast? = some [] then baseParts else baseParts.dropLast
  let segments :=
    if path.head? = some '/' then splitOn '/' path
    else dropInnerEmpty (baseParts ++ splitOn '/' path)
  let resolved := resolveDots [] segments
  let resolved :=
    if segments.getLast? = some ['.'] ∨ segments.getLast? = some ['.', '.'] then resolved ++ [[]]
    else resolved
  let joined := joinWith ['/'] resolved
  if joined.isEmpty then ['/'] else joined

/-- A reference resolved against a base by the general rule. -/
def joinGeneral (base ref : List Char) : Except Fault (List Char) :=
  if base.isEmpty then .ok ref
  else if ref.isEmpty then .ok base
  else do
    let b := (← split base).splitParameters
    let r ← split ref
    let r := (if r.scheme.isEmpty then { r with scheme := b.scheme } else r).splitParameters
    if r.scheme ≠ b.scheme || !listed relativeSchemes r.scheme then return ref
    else if listed authoritySchemes r.scheme && !r.authority.isEmpty then return r.unsplit
    else
      let r := if listed authoritySchemes r.scheme then { r with authority := b.authority } else r
      if r.path.isEmpty && r.parameters.isEmpty then
        return { r with
          path := b.path
          parameters := b.parameters
          query := if r.query.isEmpty then b.query else r.query }.unsplit
      else return { r with path := mergePaths b.path r.path }.unsplit

/-! ## Paths -/

/-- The directory part of a path. -/
def directory (path : List Char) : List Char :=
  let head := uptoLast '/' path
  if head.all (· == '/') then head else trimRight (· == '/') head

/-- A path taken relative to a directory. -/
def beside (dir path : List Char) : List Char :=
  if path.head? = some '/' then path
  else if dir.isEmpty || dir.getLast? = some '/' then dir ++ path
  else dir ++ '/' :: path

/-- Resolves the dot segments of a path, keeping those above the start of a relative one. -/
def normalSegments (absolute : Bool) (done : List (List Char)) :
    List (List Char) → List (List Char)
  | [] => done.reverse
  | seg :: rest =>
    if seg = [] ∨ seg = ['.'] then normalSegments absolute done rest
    else if seg ≠ ['.', '.'] then normalSegments absolute (seg :: done) rest
    else match done with
      | [] => normalSegments absolute (if absolute then [] else [seg]) rest
      | d :: ds =>
        normalSegments absolute (if d = ['.', '.'] then seg :: d :: ds else ds) rest

/-- The normal form of a path: no empty or dot segments and no slash at the end.  Two leading
slashes stay two, any other number of them becomes one. -/
def normalPath (path : List Char) : List Char :=
  if path.isEmpty then ['.']
  else
    let slashes := (path.takeWhile (· == '/')).length
    let lead := if slashes = 0 then 0 else if slashes = 2 then 2 else 1
    let body := joinWith ['/'] (normalSegments (lead != 0) [] (splitOn '/' path))
    let whole := List.replicate lead '/' ++ body
    if whole.isEmpty then ['.'] else whole

/-! ## Documents -/

/-- The URI of the document that a reference names, seen from the document of a base URI. -/
def join (base ref : String) : Except Fault String := do
  let base := base.toList
  let r := ref.toList
  if !(← split r).scheme.isEmpty then return ref
  let joined ← joinGeneral base r
  if !(← split joined).scheme.isEmpty then return String.ofList joined
  let b := (← split base).splitParameters
  let dir := directory b.path
  let path := normalPath (beside (if dir.isEmpty then ['/'] else dir) r)
  return String.ofList (b.scheme ++ ':' :: '/' :: '/' :: (b.authority ++ path))

/-! ## Names of files -/

/-- The last component of a path without its last suffix; dots at its start or end make no
suffix. -/
def stem (path : List Char) : List Char :=
  let parts := (splitOn '/' path).filter fun s => !s.isEmpty && s != ['.']
  let name := parts.getLast?.getD []
  let suffix := ShapeSum.Text.afterLast '.' name
  let before := (ShapeSum.Text.uptoLast '.' name).dropLast
  if name.contains '.' && !suffix.isEmpty && !before.isEmpty then before else name

end ShapeSum.Uri
