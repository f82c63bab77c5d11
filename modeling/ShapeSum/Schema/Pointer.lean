import ShapeSum.Text.Split

/-!
# JSON pointers

A pointer is a sequence of segments, each written after a slash.  Inside a
segment the tilde and the slash are escaped.  `unescape_escape` says that
escaping loses nothing.
-/

namespace ShapeSum.Pointer

open ShapeSum.Text (splitOn)

/-- A character inside a segment. -/
def escapeChar (c : Char) : List Char :=
  if c = '~' then ['~', '0'] else if c = '/' then ['~', '1'] else [c]

/-- A segment with its special characters escaped. -/
def escapeChars (s : List Char) : List Char := s.flatMap escapeChar

/-- A text with every pair of a tilde and a digit replaced. -/
def replacePair (digit replacement : Char) : List Char → List Char
  | '~' :: d :: rest =>
    if d = digit then replacement :: replacePair digit replacement rest
    else '~' :: replacePair digit replacement (d :: rest)
  | c :: rest => c :: replacePair digit replacement rest
  | [] => []

/-- A segment with its escapes resolved: slashes first, then tildes. -/
def unescapeChars (s : List Char) : List Char := replacePair '0' '~' (replacePair '1' '/' s)

/-- A segment with its special characters escaped. -/
def escape (segment : String) : String := String.ofList (escapeChars segment.toList)

/-- A segment with its escapes resolved. -/
def unescape (segment : String) : String := String.ofList (unescapeChars segment.toList)

/-- The segments of a pointer.  The empty pointer and a lone slash have none, and a missing slash
at the start is supplied. -/
def split (pointer : String) : List String :=
  match pointer.toList with
  | [] => []
  | ['/'] => []
  | '/' :: rest => (splitOn '/' rest).map fun s => String.ofList (unescapeChars s)
  | s => (splitOn '/' s).map fun s => String.ofList (unescapeChars s)

/-- A pointer one segment longer. -/
def append (pointer segment : String) : String := pointer ++ "/" ++ escape segment

/-! ## Escaping loses nothing -/

theorem replacePair_cons_of_ne {digit replacement c : Char} (h : c ≠ '~') (rest : List Char) :
    replacePair digit replacement (c :: rest) = c :: replacePair digit replacement rest := by
  cases rest <;> simp [replacePair, h]

/-- Resolving the slashes of an escaped segment leaves the tildes escaped. -/
theorem replacePair_escapeChars (s : List Char) :
    replacePair '1' '/' (escapeChars s) =
      s.flatMap fun c => if c = '~' then ['~', '0'] else [c] := by
  induction s with
  | nil => rfl
  | cons c rest ih =>
    simp only [escapeChars, List.flatMap_cons, escapeChar] at ih ⊢
    by_cases h : c = '~'
    · subst h
      simp only [if_true, List.cons_append, List.nil_append, replacePair]
      rw [if_neg (by decide), replacePair_cons_of_ne (by decide), ih]
    · by_cases h' : c = '/'
      · subst h'
        simp [replacePair, ih]
      · simp only [h, h', if_false, List.cons_append, List.nil_append]
        rw [replacePair_cons_of_ne h, ih]

theorem unescapeChars_escapeChars (s : List Char) : unescapeChars (escapeChars s) = s := by
  rw [unescapeChars, replacePair_escapeChars]
  induction s with
  | nil => rfl
  | cons c rest ih =>
    simp only [List.flatMap_cons]
    by_cases h : c = '~'
    · subst h; simp [replacePair, ih]
    · simp only [h, if_false, List.cons_append, List.nil_append]
      rw [replacePair_cons_of_ne h, ih]

/-- A segment is read back from its escaped form. -/
theorem unescape_escape (segment : String) : unescape (escape segment) = segment := by
  simp [unescape, escape, unescapeChars_escapeChars]

example : split "/a~1b/~01" = ["a/b", "~1"] := by decide +kernel

end ShapeSum.Pointer
