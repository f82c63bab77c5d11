import ShapeSum.Generation.Generate

/-!
# The unions of a document

One union is generated for a place in a document, or one for every fragment with
branches that is reached from the root through properties and definitions.  A
union is named after the last segment of its pointer that is a name, else after
the title of the document, else after the document's file.
-/

namespace ShapeSum

/-! ## Names -/

/-- Whether a segment of a pointer is a name, and not an index or one of two keywords. -/
def isNameSegment (segment : String) : Bool :=
  !(!segment.isEmpty && segment.toList.all Text.isDigit) && segment != "properties" &&
    segment != "oneOf"

/-- The title of a document, if it has one that is not empty. -/
def title? (root : Json) : Option String :=
  ((root.get? "title").bind Json.text?).filter (!·.isEmpty)

/-- The name that the file of a document gives, if it gives one. -/
def fileName? (uri : String) : Option String :=
  let s := String.ofList (Uri.stem (Text.afterLast '/' uri.toList))
  if s.isEmpty || s == "schema" then none else some s

/-- The name for the union at a pointer into a document. -/
def defaultName (uri : String) (root : Json) (pointer : String) : String :=
  match ((Pointer.split pointer).filter isNameSegment).getLast? with
  | some s => s
  | none => ((title? root).orElse fun _ => fileName? uri).getD "OneOf"

/-! ## Fragments with branches -/

/-- The fragments that are searched after a fragment: its properties and its definitions. -/
def Fragment.searched (f : Fragment) : List (String × Fragment) :=
  f.properties ++ f.members "definitions" ++ f.members "$defs"

theorem Entries.sizeOf_get?_lt {ms : Entries Json} {key : String} {j : Json}
    (h : ms.get? key = some j) : sizeOf j < sizeOf ms := by
  induction ms with
  | nil => cases h
  | cons p rest ih =>
    obtain ⟨k, v⟩ := p
    simp only [Entries.get?] at h
    split at h
    · cases h; simp +arith
    · have := ih h; simp only [List.cons.sizeOf_spec]; omega

theorem Fragment.sizeOf_members_lt {f g : Fragment} {keyword name : String}
    (h : (name, g) ∈ f.members keyword) : sizeOf g.content < sizeOf f.content := by
  simp only [members, Fragment.get?, Json.get?] at h
  split at h
  · rename_i ms hm
    split at hm
    · rename_i outer hc
      obtain ⟨⟨k, v⟩, hv, e⟩ := List.mem_map.1 h
      have h₁ := List.sizeOf_lt_of_mem hv
      have h₂ := Entries.sizeOf_get?_lt hm
      cases e
      rw [hc]
      simp only [Json.obj.sizeOf_spec, Prod.mk.sizeOf_spec, part] at *
      omega
    · cases hm
  · cases h

/-- What is searched after a fragment is smaller. -/
theorem Fragment.sizeOf_searched_lt {f g : Fragment} {name : String}
    (h : (name, g) ∈ f.searched) : sizeOf g.content < sizeOf f.content := by
  simp only [searched, properties, List.mem_append] at h
  rcases h with (h | h) | h <;> exact sizeOf_members_lt h

/-- The fragments with branches that are reached from a fragment, each with the name that it is
known by, outer ones first. -/
def Fragment.choices (name : String) (f : Fragment) : List (String × Fragment) :=
  (if f.hasOneOf then [(name, f)] else []) ++
    f.searched.attach.flatMap fun ⟨(n, g), _⟩ => g.choices n
termination_by sizeOf f.content
decreasing_by exact sizeOf_searched_lt ‹_›

/-! ## Entry points -/

/-- The union at a pointer into a document, under a name if one is given. -/
def unionAt (config : Config) (uri pointer : String) (name : Option String) :
    Generating TypeId := do
  let root ← Generating.onStore (Store.document uri)
  let f ← Generating.onStore (Store.fragment uri pointer)
  generate { config } ((name.filter (!·.isEmpty)).getD (defaultName uri root pointer)) f

/-- The unions of fragments in turn. -/
def generateEach (mode : Mode) : List (String × Fragment) → Generating Unit
  | [] => return
  | (name, f) :: rest => do
    let _ ← generate mode name f
    generateEach mode rest

/-- All unions of a document, with those that were met in their branches. -/
def allUnions (config : Config) (uri : String) : Generating (List TypeId) := do
  let root ← Generating.onStore (Store.document uri)
  generateEach { config } (Fragment.choices (defaultName uri root "") ⟨root, uri, ""⟩)
  return (← get).unions.map Prod.snd

end ShapeSum
