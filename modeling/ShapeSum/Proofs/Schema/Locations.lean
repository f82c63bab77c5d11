import ShapeSum.Proofs.Json.Numerals
import ShapeSum.Proofs.Schema.Reach
import ShapeSum.Proofs.Value.Distinct

/-!
# Locations identify fragments

A document is walked by moves: to a branch, a property, the items or a definition.
Each move goes along one or two segments, and the pointer of the fragment that is
reached writes the segments of all moves one after the other.  Reading a pointer
gives the segments back, with whatever characters they have, so looking the pointer up
repeats the walk (`fragmentAt_pointer`).  The first segment of a move tells what
kind it is, so the segments also give back the moves.

One list of segments is not read back: a single empty segment is written as a lone
slash, which stands for the whole document.  No walk has these segments.
-/

namespace ShapeSum

open ShapeSum.Text (splitOn)

variable {f g h : Fragment} {uri : String} {root : Json}

/-! ## Pointers from segments -/

namespace Text

variable {sep : Char} {s t : List Char}

theorem splitOn_append_sep (sep : Char) (s t : List Char) :
    splitOn sep (s ++ sep :: t) = splitOn sep s ++ splitOn sep t := by
  induction s with
  | nil => simp [splitOn]
  | cons c s ih =>
    by_cases hc : c = sep
    · simp [splitOn, hc, ih]
    · rw [List.cons_append, splitOn, if_neg hc, ih, splitOn, if_neg hc]
      cases h : splitOn sep s with
      | nil => exact absurd h (splitOn_ne_nil sep s)
      | cons p ps => rfl

theorem splitOn_of_not_mem (h : sep ∉ s) : splitOn sep s = [s] := by
  induction s with
  | nil => rfl
  | cons c s ih =>
    obtain ⟨hc, hs⟩ := not_or.1 (List.mem_cons.not.1 h)
    rw [splitOn, if_neg (Ne.symm hc), ih hs]

end Text

namespace Pointer

/-- The pointer that writes some segments. -/
def ofSegments (segments : List String) : String := segments.foldl append ""

/-- No slash is left in an escaped segment. -/
theorem slash_not_mem_escapeChars (s : List Char) : '/' ∉ escapeChars s := by
  intro h
  obtain ⟨c, -, hc⟩ := List.mem_flatMap.1 h
  unfold escapeChar at hc
  split at hc
  · simp at hc
  · split at hc
    · simp at hc
    · rename_i hslash
      exact hslash (List.mem_singleton.1 hc).symm

theorem toList_append (pointer segment : String) :
    (append pointer segment).toList = pointer.toList ++ '/' :: escapeChars segment.toList := by
  simp [append, escape]

/-- A slash stands before every segment. -/
theorem toList_ofSegments (segments : List String) :
    (ofSegments segments).toList = segments.flatMap fun s => '/' :: escapeChars s.toList := by
  have hrun (pointer : String) : (segments.foldl append pointer).toList =
      pointer.toList ++ segments.flatMap fun s => '/' :: escapeChars s.toList := by
    induction segments generalizing pointer with
    | nil => simp
    | cons s segments ih => rw [List.foldl_cons, ih, toList_append]; simp
  exact (hrun "").trans (by simp)

/-- Splitting behind the first slash gives the escaped segments. -/
theorem splitOn_segments (s : String) (segments : List String) :
    splitOn '/' (escapeChars s.toList ++
        segments.flatMap fun s => '/' :: escapeChars s.toList) =
      (s :: segments).map fun s => escapeChars s.toList := by
  induction segments generalizing s with
  | nil =>
    rw [List.flatMap_nil, List.append_nil,
      Text.splitOn_of_not_mem (slash_not_mem_escapeChars s.toList)]
    rfl
  | cons t segments ih =>
    rw [List.flatMap_cons, List.cons_append, Text.splitOn_append_sep,
      Text.splitOn_of_not_mem (slash_not_mem_escapeChars s.toList), ih t]
    rfl

theorem ofList_unescapeChars_escapeChars (s : String) :
    String.ofList (unescapeChars (escapeChars s.toList)) = s := by
  rw [unescapeChars_escapeChars, String.ofList_toList]

/-- The segments of a pointer are read back, unless they are a single empty one. -/
theorem split_ofSegments {segments : List String} (h : segments ≠ [""]) :
    split (ofSegments segments) = segments := by
  unfold split
  rw [toList_ofSegments]
  cases segments with
  | nil => rfl
  | cons s segments =>
    have hrest : (splitOn '/' (escapeChars s.toList ++
          segments.flatMap fun s => '/' :: escapeChars s.toList)).map
        (fun s => String.ofList (unescapeChars s)) = s :: segments := by
      rw [splitOn_segments, List.map_map]
      exact (List.map_congr_left fun t _ => ofList_unescapeChars_escapeChars t).trans
        (List.map_id _)
    rw [List.flatMap_cons, List.cons_append]
    split
    · rename_i hnil
      cases hnil
    · -- A lone slash has a single empty segment behind it.
      rename_i hlone
      rw [(List.cons.inj hlone).2] at hrest
      exact absurd hrest.symm h
    · rename_i rest _ hcons
      cases hcons
      exact hrest
    · rename_i hslash
      exact (hslash _ rfl).elim

end Pointer

/-! ## Indices -/

namespace Number

open ShapeSum.Text (trim)

theorem toNat_of_isDigit {c : Char} (h : c.isDigit = true) : 48 ≤ c.toNat ∧ c.toNat ≤ 57 :=
  Char.isDigit_iff_toNat.1 h

theorem isPadding_of_isDigit {c : Char} (h : c.isDigit = true) : isPadding c = false := by
  have hc := toNat_of_isDigit h
  have hspace : c ≠ ' ' := by
    rintro rfl
    cases h
  simp only [isPadding, Text.isPlainBlank, Bool.or_eq_false_iff, Bool.and_eq_false_iff,
    beq_eq_false_iff_ne, decide_eq_false_iff_not]
  exact ⟨⟨hspace, by omega⟩, .inl (by omega)⟩

theorem plainDigit_of_isDigit {c : Char} (h : c.isDigit = true) : plainDigit c = c := by
  have hc := toNat_of_isDigit h
  exact if_pos (by omega)

/-- Nothing is taken off a text without padding. -/
theorem trim_of_forall {α : Type} {p : α → Bool} {s : List α} (h : ∀ c ∈ s, p c = false) :
    trim p s = s := by
  have hkept (s : List α) (h : ∀ c ∈ s, p c = false) : s.dropWhile p = s := by
    cases s with
    | nil => rfl
    | cons c s => exact List.dropWhile_cons_of_neg (by simp [h c List.mem_cons_self])
  rw [trim, hkept s h, hkept s.reverse fun c hc => h c (List.mem_reverse.1 hc),
    List.reverse_reverse]

theorem spanGrouped_of_digits {s : List Char} (h : ∀ c ∈ s, c.isDigit = true)
    (afterDigit : Bool) : Binary64.spanGrouped afterDigit s = (s, []) := by
  induction s generalizing afterDigit with
  | nil => rfl
  | cons c s ih =>
    obtain ⟨hc, hs⟩ := List.forall_mem_cons.1 h
    rw [Binary64.spanGrouped.eq_def]
    dsimp only
    rw [if_pos hc, ih hs]

/-- A text that starts with a digit has no sign. -/
theorem readSign_of_digits {s : List Char} (h : ∀ c ∈ s, c.isDigit = true) :
    Binary64.readSign s = (false, s) := by
  unfold Binary64.readSign
  split
  · exact absurd (h '-' List.mem_cons_self) (by decide)
  · exact absurd (h '+' List.mem_cons_self) (by decide)
  · rfl

/-- An index is read back from its digits. -/
theorem readInt?_toString (n : Nat) : readInt? (toString n).toList = some (n : Int) := by
  have htext : (toString n).toList = Nat.toDigits 10 n := Nat.toList_repr
  have hdigits := Binary64.isDigit_toDigits n
  have hvalue := Binary64.digitsValue_toDigits n
  obtain ⟨d, ds, hd⟩ := List.exists_cons_of_ne_nil (Nat.toDigits_ne_nil (n := n) (b := 10))
  unfold readInt?
  rw [htext]
  rw [hd] at hdigits hvalue ⊢
  rw [trim_of_forall fun c hc => isPadding_of_isDigit (hdigits c hc), readSign_of_digits hdigits]
  dsimp only
  rw [List.map_congr_left fun c hc => plainDigit_of_isDigit (hdigits c hc), List.map_id',
    spanGrouped_of_digits hdigits]
  dsimp only
  rw [hvalue]
  rfl

end Number

/-! ## Descending by segments -/

namespace Json

theorem HasPart.hasDistinctKeys {j x : Json} (h : j.HasPart x) (hd : j.hasDistinctKeys = true) :
    x.hasDistinctKeys = true := by
  cases h with
  | item hx => exact hasDistinctKeys_arr.1 hd x hx
  | member hx => exact (hasDistinctKeys_obj.1 hd).2 _ hx

theorem Within.hasDistinctKeys {j x : Json} (h : j.Within x) (hd : j.hasDistinctKeys = true) :
    x.hasDistinctKeys = true := by
  induction h with
  | refl => exact hd
  | tail _ hx ih => exact hx.hasDistinctKeys ih

theorem step_of_get? {j x : Json} {key : String} (h : j.get? key = some x) :
    j.step key = .ok x := by
  cases j with
  | obj members =>
    have hget : Entries.get? members key = some x := h
    unfold step
    dsimp only
    rw [hget]
  | _ => cases h

/-- An item is found by its index. -/
theorem step_toString {items : List Json} {x : Json} {i : Nat} (h : items[i]? = some x) :
    (Json.arr items).step (toString i) = .ok x := by
  have hitem : itemAt? items i = some x := by
    rw [itemAt?, if_pos (Int.natCast_nonneg i), Int.toNat_natCast, h]
  unfold step
  rw [Number.readInt?_toString]
  dsimp only
  rw [hitem]

end Json

namespace Fragment

theorem child_cons {x : Json} {segment : String} {rest : List String}
    (h : f.content.step segment = .ok x) :
    f.child (segment :: rest) = (f.part segment x).child rest := by
  rw [child, h]

theorem child_append {p q : List String} (h : f.child p = .ok g) :
    f.child (p ++ q) = g.child q := by
  induction p generalizing f with
  | nil =>
    cases h
    rfl
  | cons segment rest ih =>
    unfold child at h
    split at h
    · cases h
    · rename_i x hx
      rw [List.cons_append, child_cons hx]
      exact ih h

/-- The pointer grows by the segments, one after the other. -/
theorem pointer_of_child {segments : List String} (h : f.child segments = .ok g) :
    g.pointer = segments.foldl Pointer.append f.pointer := by
  induction segments generalizing f with
  | nil =>
    cases h
    rfl
  | cons segment rest ih =>
    unfold child at h
    split at h
    · cases h
    · exact ih h

/-- The members of an object without repeated keys are found by their names. -/
theorem child_of_mem_members {keyword name : String} (hd : f.content.hasDistinctKeys = true)
    (h : (name, g) ∈ f.members keyword) : f.child [keyword, name] = .ok g := by
  unfold members at h
  split at h
  · rename_i ms hms
    obtain ⟨⟨k, x⟩, hx, he⟩ := List.mem_map.1 h
    cases he
    have hkeys := (Json.hasPart_of_get? hms).hasDistinctKeys hd
    have hmember : (f.part keyword (.obj ms)).content.step name = .ok x :=
      Json.step_of_get? (Entries.get?_of_mem (Json.hasDistinctKeys_obj.1 hkeys).1 hx)
    rw [child_cons (Json.step_of_get? hms), child_cons hmember]
    rfl
  · cases h

/-- The branches are found by their indices. -/
theorem child_of_branches {i : Nat} (h : f.branches[i]? = some g) :
    f.child ["oneOf", toString i] = .ok g := by
  unfold branches at h
  split at h
  · rename_i items hitems
    rw [List.getElem?_mapIdx] at h
    obtain ⟨x, hx, rfl⟩ := Option.map_eq_some_iff.1 h
    have hitem : (f.part "oneOf" (.arr items)).content.step (toString i) = .ok x :=
      Json.step_toString hx
    rw [child_cons (Json.step_of_get? hitems), child_cons hitem]
    rfl
  · cases h

end Fragment

/-! ## Walks -/

/-- A move from a fragment to a part of it. -/
inductive Move where
  /-- To a branch, by its index. -/
  | branch (i : Nat)
  /-- To a property. -/
  | property (name : String)
  /-- To the items. -/
  | items
  /-- To an entry of the definitions. -/
  | definition (name : String)
  /-- To an entry of the definitions under their shorter keyword. -/
  | shortDefinition (name : String)

/-- A move leads from one fragment to another, by the accessor that makes it. -/
def Move.Goes (f g : Fragment) : Move → Prop
  | .branch i => f.branches[i]? = some g
  | .property name => (name, g) ∈ f.properties
  | .items => f.child ["items"] = .ok g
  | .definition name => f.child ["definitions", name] = .ok g
  | .shortDefinition name => f.child ["$defs", name] = .ok g

/-- A fragment is reached from another one along some moves. -/
inductive Walk (root : Fragment) : List Move → Fragment → Prop
  /-- No move is made. -/
  | start : Walk root [] root
  /-- One more move is made. -/
  | move {path : List Move} {m : Move} {f g : Fragment} : Walk root path f → m.Goes f g →
      Walk root (path ++ [m]) g

/-- The segments that a move goes along. -/
def Move.segments : Move → List String
  | .branch i => ["oneOf", toString i]
  | .property name => ["properties", name]
  | .items => ["items"]
  | .definition name => ["definitions", name]
  | .shortDefinition name => ["$defs", name]

theorem Move.child_of_goes {m : Move} (hd : f.content.hasDistinctKeys = true)
    (h : m.Goes f g) : f.child m.segments = .ok g := by
  cases m with
  | branch i => exact Fragment.child_of_branches h
  | property name => exact Fragment.child_of_mem_members hd h
  | items => exact h
  | definition name => exact h
  | shortDefinition name => exact h

/-- The segments of all moves lead where the moves lead. -/
theorem Walk.child {path : List Move} (hd : f.content.hasDistinctKeys = true)
    (h : Walk f path g) : f.child (path.flatMap Move.segments) = .ok g := by
  induction h with
  | start => rfl
  | @move path m g h hwalk hgoes ih =>
    have hg := (Fragment.within_of_child ih).1.hasDistinctKeys hd
    rw [List.flatMap_append, Fragment.child_append ih, List.flatMap_singleton]
    exact Move.child_of_goes hg hgoes

/-- The first segment of a move tells its kind, so the segments of two moves and of what follows
them differ when the moves do. -/
theorem Move.eq_of_segments_append {m n : Move} {s t : List String}
    (h : m.segments ++ s = n.segments ++ t) : m = n ∧ s = t := by
  have hindex {i j : Nat} (h : toString i = toString j) : i = j := by
    have hi := Number.readInt?_toString i
    rw [h, Number.readInt?_toString j] at hi
    exact (Int.natCast_inj.1 (Option.some.inj hi)).symm
  cases m <;> cases n <;> simp only [Move.segments, List.cons_append, List.nil_append,
    List.cons.injEq, String.reduceEq, false_and, true_and] at h
  case branch.branch => exact ⟨congrArg Move.branch (hindex h.1), h.2⟩
  case property.property => exact ⟨congrArg Move.property h.1, h.2⟩
  case items.items => exact ⟨rfl, h⟩
  case definition.definition => exact ⟨congrArg Move.definition h.1, h.2⟩
  case shortDefinition.shortDefinition => exact ⟨congrArg Move.shortDefinition h.1, h.2⟩

theorem eq_of_flatMap_segments {p q : List Move}
    (h : p.flatMap Move.segments = q.flatMap Move.segments) : p = q := by
  induction p generalizing q with
  | nil =>
    cases q with
    | nil => rfl
    | cons n q => cases n <;> cases h
  | cons m p ih =>
    cases q with
    | nil => cases m <;> cases h
    | cons n q =>
      obtain ⟨rfl, hrest⟩ := Move.eq_of_segments_append h
      rw [ih hrest]

/-- A walk never goes along a single empty segment. -/
theorem flatMap_segments_ne (path : List Move) : path.flatMap Move.segments ≠ [""] := by
  intro h
  cases path with
  | nil => cases h
  | cons m path => cases m <;> simp [Move.segments] at h

/-- The pointer of a fragment that a walk through a document reaches writes the segments of the
walk. -/
theorem Walk.split_pointer {path : List Move} (hd : root.hasDistinctKeys = true)
    (h : Walk ⟨root, uri, ""⟩ path g) :
    Pointer.split g.pointer = path.flatMap Move.segments := by
  rw [Fragment.pointer_of_child (h.child hd)]
  exact Pointer.split_ofSegments (flatMap_segments_ne path)

/-- Within a document whose objects have no key twice, the pointer of every fragment that a walk
reaches leads to this very fragment, and walks to fragments with one pointer are the same. -/
theorem fragmentAt_pointer (uri : String) (hd : root.hasDistinctKeys = true) :
    (∀ path g, Walk ⟨root, uri, ""⟩ path g → fragmentAt uri root g.pointer = .ok g) ∧
    ∀ p q g h, Walk ⟨root, uri, ""⟩ p g → Walk ⟨root, uri, ""⟩ q h → g.pointer = h.pointer →
      p = q ∧ g = h := by
  have hlookup (path : List Move) (g : Fragment) (hw : Walk ⟨root, uri, ""⟩ path g) :
      fragmentAt uri root g.pointer = .ok g := by
    rw [fragmentAt, hw.split_pointer hd]
    exact hw.child hd
  refine ⟨hlookup, fun p q g h hp hq hpointer => ⟨?_, ?_⟩⟩
  · have hsegments := hp.split_pointer hd
    rw [hpointer, hq.split_pointer hd] at hsegments
    exact (eq_of_flatMap_segments hsegments).symm
  · have hg := hlookup p g hp
    rw [hpointer, hlookup q h hq] at hg
    exact (Except.ok.inj hg).symm

/-! ## Names that look like something else -/

/-- A document with a nameless property and with names that hold slashes, tildes and what looks
like their escapes. -/
def oddDocument : Json :=
  .obj [("properties", .obj [("", .obj [("definitions", .obj [("~1", .obj [("oneOf",
    .arr [.obj [("$defs", .obj [("0/%2F~0", .obj [("items", .bool true)])])]])])])])])]

theorem walk_oddDocument : ∃ g, Walk ⟨oddDocument, "memory:///odd.json", ""⟩
    [.property "", .definition "~1", .branch 0, .shortDefinition "0/%2F~0", .items] g ∧
    g.pointer = "/properties//definitions/~01/oneOf/0/$defs/0~1%2F~00/items" := by
  have hroot : Walk ⟨oddDocument, "memory:///odd.json", ""⟩ [] _ := .start
  have hproperty := hroot.move (m := .property "") (List.mem_singleton_self _)
  have hdefinition := hproperty.move (m := .definition "~1") rfl
  have hbranch := hdefinition.move (m := .branch 0) rfl
  have hshort := hbranch.move (m := .shortDefinition "0/%2F~0") rfl
  exact ⟨_, hshort.move (m := .items) rfl, by decide +kernel⟩

/-- The innermost fragment of the document is found by its pointer, and no other walk has it. -/
theorem fragmentAt_pointer_odd : oddDocument.hasDistinctKeys = true ∧
    ∃ g, g.pointer = "/properties//definitions/~01/oneOf/0/$defs/0~1%2F~00/items" ∧
      fragmentAt "memory:///odd.json" oddDocument g.pointer = .ok g ∧
      ∀ q h, Walk ⟨oddDocument, "memory:///odd.json", ""⟩ q h → g.pointer = h.pointer →
        [.property "", .definition "~1", .branch 0, .shortDefinition "0/%2F~0", .items] = q ∧
          g = h := by
  have hd : oddDocument.hasDistinctKeys = true := by decide +kernel
  obtain ⟨g, hg, hpointer⟩ := walk_oddDocument
  have hboth := fragmentAt_pointer "memory:///odd.json" hd
  exact ⟨hd, g, hpointer, hboth.1 _ g hg, fun q h hq => hboth.2 _ q g h hg hq⟩

end ShapeSum
