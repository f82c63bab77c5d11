import ShapeSum.Config
import ShapeSum.Report.Decoding

/-!
# What a run shows

The lines that a run writes about a union, about a batch of items and about wrong
settings.
-/

namespace ShapeSum.CommandLine

/-- Texts with commas between them, or a dash if there are none. -/
def listed (xs : List String) : String := if xs.isEmpty then "-" else ", ".intercalate xs

/-- The lines about variants, numbered from `n` on. -/
def variantLines (n : Nat) : List Descriptor → List String
  | [] => []
  | d :: ds =>
    [s!"  {n}. {d.tag} -> {d.typeName}",
     s!"     required: {listed d.required}",
     s!"     optional: {listed d.optional}"] ++ variantLines (n + 1) ds

/-- The lines about a union. -/
def unionLines (u : UnionType) : List String :=
  [s!"{u.name}  ({u.tagged.length} variants, first match wins)"] ++
    variantLines 1 (u.tagged.map Variant.toDescriptor) ++
    u.overlapping.map fun (a, b) => s!"  [WARN] {a} shadows {b} for inputs both accept"

/-- The lines about a batch of items. -/
def summaryLines (s : CheckSummary) : List String :=
  let status := if s.ok then "OK" else "FAILED"
  [s!"[{status}] Checked {s.total} items against {s.union}",
   s!"  Matched: {s.matched}",
   s!"  No match: {s.noMatch}",
   s!"  Decode errors: {s.decodeErrors}"] ++
    (s.tagCounts.map fun (tag, n) => s!"  {tag}: {n}") ++
    s.failures.map fun (i, r) => s!"  [{i}] {r.verdict.code} keys={displayTexts r.keys}"

/-! ## Wrong settings -/

/-- The greatest number of bytes of a value that are shown. -/
def shownBytes : Nat := 50

/-- The number of bytes of a character. -/
def byteCount (c : Char) : Nat := (Uri.encodeChar c).length

/-- The longest start of a text with at most a number of bytes. -/
def takeBytes : Nat → List Char → List Char
  | _, [] => []
  | n, c :: rest => if byteCount c ≤ n then c :: takeBytes (n - byteCount c) rest else []

/-- A text with its middle left out if it is too long. -/
def abridged (s : List Char) : List Char :=
  if s.foldl (fun n c => n + byteCount c) 0 ≤ shownBytes then s
  else
    let half := (shownBytes + 1) / 2
    takeBytes half s ++ "...".toList ++ (takeBytes (half - 1) s.reverse).reverse

/-- The key of a setting; one with a dot in it is set apart. -/
def shownKey (key : String) : String :=
  if key.toList.contains '.' then "`" ++ key ++ "`" else key

/-- The lines about what is wrong with a value under a key. -/
def issueLines (key message code : String) (given : Json) : List String :=
  let value := String.ofList (abridged given.display.toList)
  [shownKey key,
   s!"  {message} [type={code}, input_value={value}, input_type={given.kind}]",
   s!"    For further information visit https://errors.pydantic.dev/2.14/v/{code}"]

/-- The lines about wrong settings. -/
def issuesText (is : List Config.Issue) : String :=
  let noun := if is.length = 1 then "error" else "errors"
  "\n".intercalate (s!"{is.length} validation {noun} for GenerationConfig" ::
    is.flatMap fun i => issueLines i.key i.fault.message i.fault.code i.given)

/-- The lines about a tag that is no identifier. -/
def tagIssueText (tag : String) : String :=
  "\n".intercalate ("1 validation error for VariantDescriptor" ::
    issueLines "tag_name" s!"Value error, Tag '{tag}' is not a valid identifier" "value_error"
      (.str tag))

example : abridged (List.replicate 60 'a') =
    List.replicate 25 'a' ++ "...".toList ++ List.replicate 24 'a' := by decide

end ShapeSum.CommandLine
