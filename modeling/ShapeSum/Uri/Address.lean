import ShapeSum.Text.Split

/-!
# Bracketed hosts

A host between brackets is an address of version six, or of a future version
that its first letter announces.
-/

namespace ShapeSum.Uri

open ShapeSum.Text (splitOn cut)

/-- Whether a character is a hexadecimal digit. -/
def isHexDigit (c : Char) : Bool :=
  c.isDigit || decide ('a' ≤ c ∧ c ≤ 'f') || decide ('A' ≤ c ∧ c ≤ 'F')

/-- Whether a text is one number of a version-four address. -/
def isOctet (s : List Char) : Bool :=
  !s.isEmpty && s.all Char.isDigit && decide (s.length ≤ 3) && (s == ['0'] || s.head? != some '0') &&
    decide (s.foldl (fun n c => 10 * n + (c.toNat - 48)) 0 ≤ 255)

/-- Whether a text is an address of version four. -/
def isAddress4 (s : List Char) : Bool :=
  let parts := splitOn '.' s
  parts.length == 4 && parts.all isOctet

/-- Whether a text is one group of a version-six address. -/
def isGroup (s : List Char) : Bool := !s.isEmpty && s.all isHexDigit && decide (s.length ≤ 4)

/-- Whether groups between colons are an address of version six.  One empty group inside stands
for the groups left out; an empty group at an end is allowed only beside it. -/
def areGroups (parts : List (List Char)) : Bool :=
  let inner := (parts.drop 1).dropLast
  let gaps := (inner.filter List.isEmpty).length
  if gaps = 0 then parts.length == 8 && parts.all isGroup
  else if gaps = 1 then
    let high := parts.take ((inner.takeWhile (!·.isEmpty)).length + 1)
    let low := parts.drop (high.length + 1)
    let high := if high = [[]] then [] else high
    let low := if low = [[]] then [] else low
    high.all isGroup && low.all isGroup && decide (high.length + low.length ≤ 7)
  else false

/-- Whether a text is an address of version six, perhaps with a zone. -/
def isAddress6 (s : List Char) : Bool :=
  let (address, zone) := cut '%' s
  let zoneOk := match zone with
    | none => true
    | some z => !z.isEmpty && !z.contains '%'
  let parts := splitOn ':' address
  let final := parts.getLast?.getD []
  let parts' := if final.contains '.' then parts.dropLast ++ [['0'], ['0']] else parts
  zoneOk && !address.contains '/' && decide (3 ≤ parts.length) &&
    (!final.contains '.' || isAddress4 final) && decide (parts'.length ≤ 9) && areGroups parts'

/-- Whether a text announces an address of a future version. -/
def isFutureAddress (s : List Char) : Bool :=
  match s with
  | 'v' :: rest =>
    let (version, address) := cut '.' rest
    !version.isEmpty && version.all isHexDigit &&
      (match address with
        | some (c :: _) => c != '\n'
        | _ => false)
  | _ => false

example : ["::1", "1:2:3:4:5:6:7:8", "1:2:3:4:5:6:7::", "fe80::1%eth0", "::ffff:1.2.3.4"].all
    (isAddress6 ·.toList) = true := by decide +kernel

example : ["", "abc", "1::2::3", ":1", "1:", "::12345", "::1%", "1.2.3.4", "::1.2.3.999"].any
    (isAddress6 ·.toList) = false := by decide +kernel

end ShapeSum.Uri
