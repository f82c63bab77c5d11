/-!
# Splitting and joining

Texts are split at a separator into pieces that join back to the text.
-/

namespace ShapeSum.Text

/-- The pieces of a text between the occurrences of a separator. -/
def splitOn (sep : Char) : List Char → List (List Char)
  | [] => [[]]
  | c :: rest =>
    if c = sep then [] :: splitOn sep rest
    else match splitOn sep rest with
      | [] => [[c]]
      | p :: ps => (c :: p) :: ps

/-- Pieces with a separator between them. -/
def joinWith (sep : List Char) : List (List Char) → List Char
  | [] => []
  | [p] => p
  | p :: ps => p ++ sep ++ joinWith sep ps

/-- The text before the first occurrence of a character and the text after it, if it occurs. -/
def cut (c : Char) (s : List Char) : List Char × Option (List Char) :=
  match s.dropWhile (· != c) with
  | [] => (s, none)
  | _ :: rest => (s.takeWhile (· != c), some rest)

/-- The text after the last occurrence of a character; the whole text if it does not occur. -/
def afterLast (c : Char) (s : List Char) : List Char :=
  (s.reverse.takeWhile (· != c)).reverse

/-- The text up to and with the last occurrence of a character; empty if it does not occur. -/
def uptoLast (c : Char) (s : List Char) : List Char :=
  (s.reverse.dropWhile (· != c)).reverse

/-- A text without the given characters at its end. -/
def trimRight (p : Char → Bool) (s : List Char) : List Char := (s.reverse.dropWhile p).reverse

theorem splitOn_ne_nil (sep : Char) (s : List Char) : splitOn sep s ≠ [] := by
  cases s with
  | nil => simp [splitOn]
  | cons c rest => simp only [splitOn]; grind

/-- The pieces join back to the text. -/
theorem joinWith_splitOn (sep : Char) (s : List Char) : joinWith [sep] (splitOn sep s) = s := by
  induction s with
  | nil => rfl
  | cons c rest ih =>
    have hne := splitOn_ne_nil sep rest
    simp only [splitOn]
    by_cases hc : c = sep
    · rw [if_pos hc, hc]
      cases h : splitOn sep rest with
      | nil => exact absurd h hne
      | cons p ps => rw [h] at ih; simp [joinWith, ih]
    · rw [if_neg hc]
      cases h : splitOn sep rest with
      | nil => exact absurd h hne
      | cons p ps =>
        rw [h] at ih
        cases ps with
        | nil => simp_all [joinWith]
        | cons q qs => simp only [joinWith, List.cons_append] at ih ⊢; rw [ih]

/-- The two sides of the last occurrence make up the text. -/
theorem uptoLast_append_afterLast (c : Char) (s : List Char) :
    uptoLast c s ++ afterLast c s = s := by
  rw [uptoLast, afterLast, ← List.reverse_append, List.takeWhile_append_dropWhile,
    List.reverse_reverse]

example : splitOn '/' "a//b".toList = ["a".toList, [], "b".toList] := by decide

example : cut '#' "a#b#c".toList = ("a".toList, some "b#c".toList) := by decide

end ShapeSum.Text
