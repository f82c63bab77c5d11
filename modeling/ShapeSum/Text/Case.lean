import ShapeSum.Text.CaseRun

/-!
# Capital and small letters

The capital form of a character may take several characters.  The small form of
a text is taken character by character, but for the capital sigma, whose small
form depends on whether it ends a word.  Names that differ only in case have one
small form.
-/

namespace ShapeSum.Text

/-- The capital form of a character. -/
def capital (c : Char) : List Char :=
  match longCapitals.find? (·.1 == c.toNat) with
  | some e => e.2.map Char.ofNat
  | none => [CaseRun.map capitalRuns c]

/-- A text with its first character in capital form. -/
def capitalize : List Char → List Char
  | [] => []
  | c :: rest => capital c ++ rest

/-- Whether the first character that counts, if any, has a case. -/
def meetsCased (s : List Char) : Bool :=
  match s.dropWhile caseIgnorableRanges.has with
  | [] => false
  | c :: _ => casedRanges.has c

/-- The small form of a character between the text before it, nearest character first, and the
text after it. -/
def small (before : List Char) (c : Char) (after : List Char) : List Char :=
  if c == 'Σ' then [if meetsCased before && !meetsCased after then 'ς' else 'σ']
  else if c == 'İ' then ['i', '\u0307']
  else [CaseRun.map smallRuns c]

/-- The small form of a text that follows other text. -/
def lowerAfter (before : List Char) : List Char → List Char
  | [] => []
  | c :: rest => small before c rest ++ lowerAfter (c :: before) rest

/-- The small form of a text. -/
def lower (s : String) : String := String.ofList (lowerAfter [] s.toList)

example : capital 'ß' = ['S', 'S'] ∧ capital 'é' = ['É'] ∧ capital '1' = ['1'] := by
  decide +kernel

example : lowerAfter [] "ΑΣ".toList = "ας".toList ∧ lowerAfter [] "ΑΣΑ".toList = "ασα".toList := by
  decide +kernel

end ShapeSum.Text
