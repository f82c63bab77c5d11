import ShapeSum.Failure
import ShapeSum.Files.Basic
import ShapeSum.Schema.Fragment
import ShapeSum.Uri.Join
import ShapeSum.Uri.Percent

/-!
# The document store

The store holds the documents that were added and those that were loaded, by
their URI.  A document that is not there is asked of the loader; what it answers
is kept, and a failure is not.  The store also records which URIs were asked for.
-/

namespace ShapeSum

/-- What a loader answers. -/
inductive Fetch where
  /-- The document. -/
  | content (j : Json)
  /-- The document cannot be had. -/
  | unavailable (reason : String)
  /-- The loader broke down. -/
  | broken

/-- The documents known so far and the way to others. -/
structure Store where
  /-- Documents by URI. -/
  documents : Entries Json
  /-- The loader. -/
  fetch : String → Fetch
  /-- The URIs asked of the loader, in order. -/
  asked : List String

/-- A computation on the store that may fail; what it loaded is kept in either case. -/
abbrev Resolving := ExceptT Failure (StateM Store)

namespace Store

/-- The store without documents. -/
def empty (fetch : String → Fetch) : Store := ⟨[], fetch, []⟩

/-- The store with a document under a URI. -/
def add (s : Store) (uri : String) (content : Json) : Store :=
  { s with documents := s.documents.set uri content }

/-- The document under a URI. -/
def document (uri : String) : Resolving Json := do
  let s ← get
  match s.documents.get? uri with
  | some j => return j
  | none =>
    set { s with asked := s.asked ++ [uri] }
    match s.fetch uri with
    | .content j =>
      modify fun s => s.add uri j
      return j
    | .unavailable reason => throw (.generation (.unresolvable uri none reason))
    | .broken => throw (.loader uri)

/-- The fragment of a document that a pointer names, or why there is none. -/
def locate (uri : String) (root : Json) (pointer : String) : Except GenerationError Fragment :=
  match fragmentAt uri root pointer with
  | .ok f => .ok f
  | .error e =>
    .error (.unresolvable ("#" ++ pointer) (some uri) s!"no fragment at segment {e.message}")

/-- The fragment that a URI and a pointer name. -/
def fragment (uri pointer : String) : Resolving Fragment := do
  let root ← document uri
  match locate uri root pointer with
  | .ok f => return f
  | .error e => throw (.generation e)

/-- A generation error about a reference, told from the place of the reference. -/
def retell (ref base : String) : Failure → Failure
  | .generation (.unresolvable _ _ reason) => .generation (.unresolvable ref (some base) reason)
  | f => f

/-- The fragment that a reference leads to in one hop from the fragment that carries it. -/
def resolveRef (ref : String) (base : Fragment) : Resolving Fragment := do
  match Uri.splitFragment ref.toList with
  | .error f => throw (.uri f)
  | .ok (document, pointer) =>
    let uri ← if document.isEmpty then pure base.document
      else match Uri.join base.document (String.ofList document) with
        | .ok uri => pure uri
        | .error f => throw (.uri f)
    tryCatch (fragment uri (String.ofList (Uri.unescape pointer)))
      fun f => throw (retell ref base.location f)

end Store

/-! ## Loading from files -/

/-- The loader of documents with the scheme for files. -/
def fileLoader (files : Files) (uri : String) : Fetch :=
  match Uri.split uri.toList with
  | .error f => .unavailable f.message
  | .ok p =>
    if p.scheme ≠ "file".toList then
      let scheme := if p.scheme.isEmpty then "<none>" else String.ofList p.scheme
      .unavailable s!"No loader for scheme '{scheme}'"
    else match files.readJson (String.ofList (Uri.unescape p.path)) with
      | .ok j => .content j
      | .error f => .unavailable f.message

end ShapeSum
