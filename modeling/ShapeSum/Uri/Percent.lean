import ShapeSum.Uri.Address

/-!
# Percent escapes

An escape stands for one byte.  The bytes of a stretch of ASCII text are read as
UTF-8, and each largest part of a broken sequence becomes one replacement
character.  Characters outside ASCII are left as they are.
-/

namespace ShapeSum.Uri

/-- The value of a hexadecimal digit. -/
def hexDigitValue (c : Char) : Nat :=
  if c.isDigit then c.toNat - '0'.toNat
  else if 'a' ≤ c then c.toNat - 'a'.toNat + 10
  else c.toNat - 'A'.toNat + 10

/-- The bytes of an ASCII text, escapes resolved. -/
def unescapeBytes : List Char → List Nat
  | '%' :: a :: b :: rest =>
    if isHexDigit a && isHexDigit b then
      (hexDigitValue a * 16 + hexDigitValue b) :: unescapeBytes rest
    else '%'.toNat :: unescapeBytes (a :: b :: rest)
  | c :: rest => c.toNat :: unescapeBytes rest
  | [] => []

/-- The range of the second byte of a sequence, and the number of bytes that follow the first;
nothing for a byte that starts no sequence of several bytes. -/
def leadByte? (b : Nat) : Option (Nat × Nat × Nat) :=
  if 0xC2 ≤ b ∧ b ≤ 0xDF then some (0x80, 0xBF, 1)
  else if b = 0xE0 then some (0xA0, 0xBF, 2)
  else if b = 0xED then some (0x80, 0x9F, 2)
  else if 0xE1 ≤ b ∧ b ≤ 0xEF then some (0x80, 0xBF, 2)
  else if b = 0xF0 then some (0x90, 0xBF, 3)
  else if 0xF1 ≤ b ∧ b ≤ 0xF3 then some (0x80, 0xBF, 3)
  else if b = 0xF4 then some (0x80, 0x8F, 3)
  else none

/-- The continuation bytes at the start of a list, at most `count` of them, the first one in the
given range. -/
def continuation (low high : Nat) : Nat → List Nat → List Nat
  | 0, _ => []
  | _, [] => []
  | count + 1, b :: rest =>
    if low ≤ b ∧ b ≤ high then b :: continuation 0x80 0xBF count rest else []

theorem continuation_length_le (low high count : Nat) (bytes : List Nat) :
    (continuation low high count bytes).length ≤ bytes.length := by
  induction bytes generalizing low high count with
  | nil => cases count <;> simp [continuation]
  | cons b rest ih =>
    cases count with
    | zero => simp [continuation]
    | succ n =>
      simp only [continuation]
      split
      · simpa using ih 0x80 0xBF n
      · simp

/-- The bits that the first byte of a sequence contributes. -/
def leadBits (b count : Nat) : Nat := b % Nat.pow 2 (6 - count)

/-- Reads bytes as UTF-8. -/
def decodeBytes : List Nat → List Char
  | [] => []
  | b :: rest =>
    if b < 0x80 then Char.ofNat b :: decodeBytes rest
    else match leadByte? b with
      | none => '\uFFFD' :: decodeBytes rest
      | some (low, high, count) =>
        let tail := continuation low high count rest
        (if tail.length = count then
          Char.ofNat (tail.foldl (fun n c => n * 64 + c % 64) (leadBits b count))
        else '\uFFFD') :: decodeBytes (rest.drop tail.length)
termination_by bytes => bytes.length
decreasing_by all_goals simp only [List.length_cons, List.length_drop]; omega

/-- Resolves the escapes of a text; `run` is the ASCII stretch read so far, last character
first. -/
def unescapeFrom (run : List Char) : List Char → List Char
  | [] => decodeBytes (unescapeBytes run.reverse)
  | c :: rest =>
    if c.toNat < 0x80 then unescapeFrom (c :: run) rest
    else decodeBytes (unescapeBytes run.reverse) ++ c :: unescapeFrom [] rest

/-- A text with its escapes resolved. -/
def unescape (s : List Char) : List Char := unescapeFrom [] s

/-- The bytes of a character in UTF-8. -/
def encodeChar (c : Char) : List Nat :=
  let n := c.toNat
  if n < 0x80 then [n]
  else if n < 0x800 then [0xC0 + n / 64, 0x80 + n % 64]
  else if n < 0x10000 then [0xE0 + n / 4096, 0x80 + n / 64 % 64, 0x80 + n % 64]
  else [0xF0 + n / 262144, 0x80 + n / 4096 % 64, 0x80 + n / 64 % 64, 0x80 + n % 64]

/-- The escape of a byte. -/
def escapeByte (b : Nat) : List Char :=
  ['%', (Nat.digitChar (b / 16)).toUpper, (Nat.digitChar (b % 16)).toUpper]

/-- A path with every byte escaped that is neither unreserved nor a slash. -/
def escapePath (s : List Char) : List Char :=
  s.flatMap fun c =>
    if c.isAlphanum || c == '_' || c == '.' || c == '-' || c == '~' || c == '/' then [c]
    else (encodeChar c).flatMap escapeByte

example : unescape "a%20b%C3%A9%zz%ff".toList = "a bé%zz\uFFFD".toList := by decide +kernel

example : escapePath "a b/é".toList = "a%20b/%C3%A9".toList := by decide +kernel

end ShapeSum.Uri
