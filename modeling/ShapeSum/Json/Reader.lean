import ShapeSum.Json.Basic

/-!
# Reading JSON text

The reader consumes a list of characters.  Every step that succeeds returns what
is left together with a proof that it is shorter, and this is what the recursion
ends by.  A fault carries the rest of the text from the place it is reported at,
so that line and column follow from the whole text.

Beyond the standard grammar the names `NaN`, `Infinity` and `-Infinity` are read
as doubles.  A number without fraction and exponent is an integer of any size.
A key that is written twice keeps its first place and its last value.
-/

namespace ShapeSum.Json.Reader

/-- What is wrong with a text. -/
inductive Cause where
  /-- A value should stand here. -/
  | value
  /-- A member should start here. -/
  | key
  /-- A colon should stand here. -/
  | colon
  /-- A comma should stand here. -/
  | comma
  /-- Text follows the value. -/
  | extra
  /-- The string that starts here does not end. -/
  | unterminated
  /-- A control character stands in a string. -/
  | control
  /-- No escape is written so. -/
  | badEscape
  /-- The four digits of an escape are missing. -/
  | codeUnit
  /-- The text starts with a byte order mark. -/
  | byteOrderMark

/-- The wording of a cause. -/
def Cause.message : Cause → String
  | .value => "Expecting value"
  | .key => "Expecting property name enclosed in double quotes"
  | .colon => "Expecting ':' delimiter"
  | .comma => "Expecting ',' delimiter"
  | .extra => "Extra data"
  | .unterminated => "Unterminated string starting at"
  | .control => "Invalid control character at"
  | .badEscape => "Invalid \\escape"
  | .codeUnit => "Invalid \\uXXXX escape"
  | .byteOrderMark => "Unexpected UTF-8 BOM (decode using utf-8-sig)"

/-- A fault: its cause and the text from the place where it is reported. -/
structure Fault where
  /-- What is wrong. -/
  cause : Cause
  /-- The text from there on. -/
  rest : List Char

/-- Something read from the start of a text, and what is left. -/
structure Read (α : Type) (s : List Char) where
  /-- What was read. -/
  val : α
  /-- What is left. -/
  rest : List Char
  /-- Something was consumed. -/
  shorter : rest.length < s.length

/-! ## Blanks -/

/-- Whether a character may stand between tokens. -/
def isSpace (c : Char) : Bool := c == ' ' || c == '\t' || c == '\n' || c == '\r'

/-- The text without the blanks at its start. -/
def skip (s : List Char) : List Char := s.dropWhile isSpace

theorem skip_length_le (s : List Char) : (skip s).length ≤ s.length :=
  (List.dropWhile_sublist _).length_le

/-! ## Strings -/

/-- The value of a hexadecimal digit. -/
def hexValue? (c : Char) : Option Nat :=
  if c.isDigit then some (c.toNat - '0'.toNat)
  else if 'a' ≤ c ∧ c ≤ 'f' then some (c.toNat - 'a'.toNat + 10)
  else if 'A' ≤ c ∧ c ≤ 'F' then some (c.toNat - 'A'.toNat + 10)
  else none

/-- The value of four hexadecimal digits. -/
def codeUnit? (a b c d : Char) : Option Nat := do
  let a ← hexValue? a
  let b ← hexValue? b
  let c ← hexValue? c
  let d ← hexValue? d
  return ((a * 16 + b) * 16 + c) * 16 + d

/-- The character that a one-letter escape stands for. -/
def shortEscape? : Char → Option Char
  | '"' => some '"'
  | '\\' => some '\\'
  | '/' => some '/'
  | 'b' => some '\x08'
  | 'f' => some '\x0c'
  | 'n' => some '\n'
  | 'r' => some '\r'
  | 't' => some '\t'
  | _ => none

/-- The character of two code units that form a pair. -/
def joinUnits (high low : Nat) : Char :=
  Char.ofNat (0x10000 + (high - 0xD800) * 0x400 + (low - 0xDC00))

/-- The character of a lone code unit; half a pair is the replacement character. -/
def unitChar (n : Nat) : Char :=
  if 0xD800 ≤ n ∧ n < 0xE000 then '\uFFFD' else Char.ofNat n

/-- The value of four hexadecimal digits at the start of a text that goes on after them. -/
def readFour? : List Char → Option (Nat × List Char)
  | a :: b :: c :: d :: e :: rest => (codeUnit? a b c d).map (·, e :: rest)
  | _ => none

theorem readFour?_length {s r : List Char} {n : Nat} (h : readFour? s = some (n, r)) :
    r.length < s.length := by
  unfold readFour? at h
  split at h
  · obtain ⟨_, _, hr⟩ := Option.map_eq_some_iff.1 h
    simp only [Prod.mk.injEq] at hr
    rw [← hr.2]
    simp only [List.length_cons]
    omega
  · simp at h

/-- The character that the digits of an escape stand for, with the second half of a pair if one
follows, and what is left.  A failure gives the text from the letter of the bad escape on. -/
def readUnit (s : List Char) : Except (List Char) (Char × List Char) :=
  match readFour? s with
  | none => .error ('u' :: s)
  | some (high, rest) =>
    if 0xD800 ≤ high ∧ high < 0xDC00 then
      match rest with
      | '\\' :: 'u' :: more =>
        match readFour? more with
        | none => if more.length < 5 then .ok (unitChar high, rest) else .error ('u' :: more)
        | some (low, rest') =>
          if 0xDC00 ≤ low ∧ low < 0xE000 then .ok (joinUnits high low, rest')
          else .ok (unitChar high, rest)
      | _ => .ok (unitChar high, rest)
    else .ok (unitChar high, rest)

theorem readUnit_length {s r : List Char} {c : Char} (h : readUnit s = .ok (c, r)) :
    r.length < s.length := by
  unfold readUnit at h
  split at h
  · simp at h
  · rename_i high rest hf
    have hl := readFour?_length hf
    have hrest : ∀ d, (.ok (d, rest) : Except (List Char) (Char × List Char)) = .ok (c, r) →
        r.length < s.length := by
      intro d hd
      simp only [Except.ok.injEq, Prod.mk.injEq] at hd
      rw [← hd.2]
      exact hl
    split at h
    · split at h
      · split at h
        · split at h
          · exact hrest _ h
          · simp at h
        · rename_i hm
          have := readFour?_length hm
          simp only [List.length_cons] at hl
          split at h
          · simp only [Except.ok.injEq, Prod.mk.injEq] at h
            rw [← h.2]
            omega
          · exact hrest _ h
      · exact hrest _ h
    · exact hrest _ h

/-- Reads the characters of a string up to the closing quote.  `start` is the text from the
opening quote on. -/
def stringBody (start : List Char) (s : List Char) : Except Fault (Read (List Char) s) :=
  match s with
  | [] => .error ⟨.unterminated, start⟩
  | '"' :: rest => .ok ⟨[], rest, by simp⟩
  | '\\' :: [] => .error ⟨.unterminated, start⟩
  | '\\' :: 'u' :: rest =>
    match hu : readUnit rest with
    | .error place => .error ⟨.codeUnit, place⟩
    | .ok (c, rest') =>
      have h := readUnit_length hu
      match stringBody start rest' with
      | .error f => .error f
      | .ok ⟨cs, rest'', h'⟩ =>
        .ok ⟨c :: cs, rest'', by simp only [List.length_cons]; omega⟩
  | '\\' :: c :: rest =>
    match shortEscape? c with
    | none => .error ⟨.badEscape, '\\' :: c :: rest⟩
    | some d =>
      match stringBody start rest with
      | .error f => .error f
      | .ok ⟨cs, rest', h⟩ => .ok ⟨d :: cs, rest', by simp only [List.length_cons]; omega⟩
  | c :: rest =>
    if c.toNat < 0x20 then .error ⟨.control, c :: rest⟩
    else
      match stringBody start rest with
      | .error f => .error f
      | .ok ⟨cs, rest', h⟩ => .ok ⟨c :: cs, rest', by simp only [List.length_cons]; omega⟩
termination_by s.length

/-! ## Numbers -/

/-- The leading digits of a text and what follows. -/
def spanDigits (s : List Char) : List Char × List Char :=
  (s.takeWhile Char.isDigit, s.dropWhile Char.isDigit)

/-- The digits of a whole number: a zero alone, or digits that do not start with zero. -/
def wholeDigits : List Char → List Char × List Char
  | '0' :: rest => (['0'], rest)
  | s => spanDigits s

/-- A fraction: a point with at least one digit. -/
def fractionDigits : List Char → List Char × List Char
  | '.' :: s =>
    match spanDigits s with
    | ([], _) => ([], '.' :: s)
    | r => r
  | s => ([], s)

/-- An exponent: its letter, a sign if one is written, and at least one digit. -/
def exponentPart (s : List Char) : Option Int × List Char :=
  match s with
  | e :: rest =>
    if e = 'e' ∨ e = 'E' then
      let (negative, ds) := Binary64.readSign rest
      match spanDigits ds with
      | ([], _) => (none, s)
      | (d :: ds, rest) =>
        let n : Int := Binary64.digitsValue (d :: ds)
        (some (if negative then -n else n), rest)
    else (none, s)
  | [] => (none, s)

/-- An unsigned number at the start of a text. -/
def readUnsigned? (negative : Bool) (s : List Char) : Option (Json × List Char) :=
  match wholeDigits s with
  | ([], _) => none
  | (whole, rest) =>
    let (fraction, rest) := fractionDigits rest
    let (exponent, rest) := exponentPart rest
    if fraction.isEmpty && exponent.isNone then
      let n : Int := Binary64.digitsValue whole
      some (.int (if negative then -n else n), rest)
    else
      some (.float (Binary64.ofDecimal negative (Binary64.digitsValue (whole ++ fraction))
        (exponent.getD 0 - fraction.length)), rest)

/-- The names that stand for values. -/
def names : List (String × Json) :=
  [("null", .null), ("true", .bool true), ("false", .bool false), ("NaN", .float .nan),
   ("Infinity", .float (.infinite false)), ("-Infinity", .float (.infinite true))]

/-- A name that stands for a value, at the start of a text. -/
def readName? (s : List Char) : Option (Json × List Char) :=
  names.findSome? fun (name, j) =>
    if name.toList.isPrefixOf s then some (j, s.drop name.length) else none

/-- A number or a name at the start of a text. -/
def readScalar? (s : List Char) : Option (Json × List Char) :=
  match readName? s with
  | some r => some r
  | none => match s with
    | '-' :: rest => readUnsigned? true rest
    | s => readUnsigned? false s

/-! ## Values -/

mutual

/-- Reads a value at the start of a text. -/
def value (s : List Char) : Except Fault (Read Json s) :=
  match s with
  | [] => .error ⟨.value, []⟩
  | '"' :: rest =>
    match stringBody ('"' :: rest) rest with
    | .error f => .error f
    | .ok ⟨cs, r, h⟩ =>
      .ok ⟨.str (String.ofList cs), r, by simp only [List.length_cons]; omega⟩
  | '[' :: rest =>
    have hs := skip_length_le rest
    match hr : skip rest with
    | ']' :: r =>
      .ok ⟨.arr [], r, by simp only [hr, List.length_cons] at hs ⊢; omega⟩
    | r =>
      have : r.length ≤ rest.length := by rw [← hr]; exact hs
      match items r with
      | .error f => .error f
      | .ok ⟨xs, r', h⟩ => .ok ⟨.arr xs, r', by simp only [List.length_cons]; omega⟩
  | '\x7b' :: rest =>
    have hs := skip_length_le rest
    match hr : skip rest with
    | '\x7d' :: r =>
      .ok ⟨.obj [], r, by simp only [hr, List.length_cons] at hs ⊢; omega⟩
    | r =>
      have : r.length ≤ rest.length := by rw [← hr]; exact hs
      match members r with
      | .error f => .error f
      | .ok ⟨ms, r', h⟩ =>
        .ok ⟨.obj (Entries.ofPairs ms), r', by simp only [List.length_cons]; omega⟩
  | c :: rest =>
    match readScalar? (c :: rest) with
    | none => .error ⟨.value, c :: rest⟩
    | some (j, r) => if h : r.length < (c :: rest).length then .ok ⟨j, r, h⟩
      else .error ⟨.value, c :: rest⟩
termination_by (s.length, 0)

/-- Reads the items of an array up to the closing bracket. -/
def items (s : List Char) : Except Fault (Read (List Json) s) :=
  match value s with
  | .error f => .error f
  | .ok ⟨x, rest, h⟩ =>
    have hs := skip_length_le rest
    match hr : skip rest with
    | ']' :: r => .ok ⟨[x], r, by simp only [hr, List.length_cons] at hs; omega⟩
    | ',' :: r =>
      have hr' := skip_length_le r
      have : (skip r).length < s.length := by simp only [hr, List.length_cons] at hs; omega
      match items (skip r) with
      | .error f => .error f
      | .ok ⟨xs, r', h'⟩ => .ok ⟨x :: xs, r', by omega⟩
    | r => .error ⟨.comma, r⟩
termination_by (s.length, 1)

/-- Reads the members of an object up to the closing brace. -/
def members (s : List Char) : Except Fault (Read (List (String × Json)) s) :=
  match s with
  | '"' :: s' =>
    match stringBody ('"' :: s') s' with
    | .error f => .error f
    | .ok ⟨key, rest, h⟩ =>
      have hk := skip_length_le rest
      match hc : skip rest with
      | ':' :: r =>
        have hv := skip_length_le r
        have : (skip r).length < s'.length := by simp only [hc, List.length_cons] at hk; omega
        match value (skip r) with
        | .error f => .error f
        | .ok ⟨v, rest', h'⟩ =>
          have hs := skip_length_le rest'
          match hr : skip rest' with
          | '\x7d' :: r' =>
            .ok ⟨[(String.ofList key, v)], r', by
              simp only [hr, List.length_cons] at hs ⊢; omega⟩
          | ',' :: r' =>
            have hn := skip_length_le r'
            have : (skip r').length < s'.length := by
              simp only [hr, List.length_cons] at hs; omega
            match members (skip r') with
            | .error f => .error f
            | .ok ⟨ms, r'', h''⟩ =>
              .ok ⟨(String.ofList key, v) :: ms, r'', by simp only [List.length_cons]; omega⟩
          | r' => .error ⟨.comma, r'⟩
      | r => .error ⟨.colon, r⟩
  | s => .error ⟨.key, s⟩
termination_by (s.length, 1)

end

/-- Reads a text that holds one value and nothing else. -/
def document (s : List Char) : Except Fault Json :=
  match value (skip s) with
  | .error f => .error f
  | .ok ⟨j, rest, _⟩ => match skip rest with
    | [] => .ok j
    | r => .error ⟨.extra, r⟩

/-! ## Places -/

/-- Where a fault lies in a text, and its wording. -/
def Fault.message (whole : List Char) (f : Fault) : String :=
  let before := whole.take (whole.length - f.rest.length)
  let line := before.count '\n' + 1
  let column := (before.reverse.takeWhile (· != '\n')).length + 1
  s!"{f.cause.message}: line {line} column {column} (char {before.length})"

end ShapeSum.Json.Reader

namespace ShapeSum.Json

/-- Reads a text of characters; the fault is given by its message. -/
def parse (text : String) : Except String Json :=
  match text.toList with
  | '\uFEFF' :: s =>
    .error (Reader.Fault.message ('\uFEFF' :: s) ⟨.byteOrderMark, '\uFEFF' :: s⟩)
  | s => match Reader.document s with
    | .ok j => .ok j
    | .error f => .error (f.message s)

/-- Reads a text that was stored as bytes; a byte order mark at its start is passed over. -/
def parseStored (text : String) : Except String Json :=
  match text.toList with
  | '\uFEFF' :: s => match Reader.document s with
    | .ok j => .ok j
    | .error f => .error (f.message s)
  | s => match Reader.document s with
    | .ok j => .ok j
    | .error f => .error (f.message s)

end ShapeSum.Json
