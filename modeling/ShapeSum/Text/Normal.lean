import ShapeSum.Text.Decomposition

/-!
# The composed normal form

Canonically equivalent texts have one composed form.  It is reached in three
steps: every character is decomposed, neighbouring marks are ordered by their
combining class, and each mark is joined to the starter before it where a
composite of the two exists and no mark in between blocks it.
-/

namespace ShapeSum.Text

/-- The combining class of a character, zero for a starter. -/
def combiningClass (c : Char) : Nat :=
  match combiningClasses.find? fun r => decide (r.1 ≤ c.toNat ∧ c.toNat ≤ r.2.1) with
  | some r => r.2.2
  | none => 0

/-- The letters of a Hangul syllable, by its index among the syllables. -/
def hangulLetters (index : Nat) : List Char :=
  let lead := Char.ofNat (0x1100 + index / 588)
  let vowel := Char.ofNat (0x1161 + index % 588 / 28)
  if index % 28 = 0 then [lead, vowel] else [lead, vowel, Char.ofNat (0x11A7 + index % 28)]

/-- The full canonical decomposition of a character. -/
def decompose (c : Char) : List Char :=
  let n := c.toNat
  if n < 0xC0 then [c]
  else if 0xAC00 ≤ n ∧ n ≤ 0xD7A3 then hangulLetters (n - 0xAC00)
  else match singletons.find? (·.1 == n) with
    | some e => [Char.ofNat e.2]
    | none => match expansions.find? (·.1 == n) with
      | some e => e.2.map Char.ofNat
      | none => [c]

/-- Puts a mark behind the marks of its class and of lower classes; the text is held with its
last character first. -/
def placeMark (c : Char) : List Char → List Char
  | [] => [c]
  | d :: rest =>
    if combiningClass c ≠ 0 ∧ combiningClass c < combiningClass d then d :: placeMark c rest
    else c :: d :: rest

/-- The composite of two neighbouring characters, if there is one. -/
def compose? (a b : Char) : Option Char :=
  let m := a.toNat
  let n := b.toNat
  if 0x1100 ≤ m ∧ m < 0x1113 ∧ 0x1161 ≤ n ∧ n < 0x1176 then
    some (Char.ofNat (0xAC00 + ((m - 0x1100) * 21 + (n - 0x1161)) * 28))
  else if 0xAC00 ≤ m ∧ m ≤ 0xD7A3 ∧ (m - 0xAC00) % 28 = 0 ∧ 0x11A7 < n ∧ n < 0x11C3 then
    some (Char.ofNat (m + (n - 0x11A7)))
  else (compositions.find? fun e => e.1 == m && e.2.1 == n).map fun e => Char.ofNat e.2.2

/-- Joins marks to the starter before them.  `marks` are those that stayed apart, the last
first. -/
def joinMarks (starter : Char) (marks : List Char) : List Char → List Char
  | [] => starter :: marks.reverse
  | c :: rest =>
    let free := match marks with
      | [] => true
      | m :: _ => decide (combiningClass m < combiningClass c)
    match if free then compose? starter c else none with
    | some d => joinMarks d marks rest
    | none =>
      if combiningClass c = 0 then starter :: marks.reverse ++ joinMarks c [] rest
      else joinMarks starter (c :: marks) rest

/-- The characters of the composed normal form. -/
def composedChars (s : List Char) : List Char :=
  match ((s.flatMap decompose).foldl (fun acc c => placeMark c acc) []).reverse with
  | [] => []
  | c :: rest => joinMarks c [] rest

/-- The composed normal form of a text.  ASCII text is its own normal form. -/
def composed (s : String) : String :=
  if s.toList.all (·.toNat < 0x80) then s else String.ofList (composedChars s.toList)

example : composedChars "e\u0301".toList = "é".toList ∧
    composedChars "a\u0323\u0302".toList = "ậ".toList ∧
    composedChars "\u1112\u1161\u11ab".toList = "한".toList := by decide +kernel

example : composedChars "\u2126".toList = "Ω".toList ∧
    composedChars "a\u0301\u0327".toList = "á\u0327".toList := by decide +kernel

end ShapeSum.Text
