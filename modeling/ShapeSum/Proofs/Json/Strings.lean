import Mathlib.Tactic.IntervalCases
import ShapeSum.Json.Reader
import ShapeSum.Json.Writer

/-!
# Strings read back

A string is written character by character, so it is read back by one step for each way
in which a character is written (`escape_cases`): behind a backslash, by its code, or as
it is.  Each step needs the rest of the string to be read, and the four digits of a code
need some text behind them, which the closing quote is in the end.
-/

namespace ShapeSum.Json.Reader

variable {α : Type} {s t r : List Char}

/-- A reading succeeds with a value and leaves a rest. -/
def Yields (x : Except Fault (Read α s)) (a : α) (r : List Char) : Prop := ∃ h, x = .ok ⟨a, r, h⟩

theorem hexValue?_digitChar {n : Nat} (h : n < 16) : hexValue? n.digitChar = some n := by
  interval_cases n <;> rfl

/-- Four hexadecimal digits read back, provided that the text goes on after them. -/
theorem readFour?_hexDigits {n : Nat} (hn : n < 0x10000) (hr : r ≠ []) :
    readFour? (Text.hexDigits 4 n ++ r) = some (n, r) := by
  obtain ⟨c, r, rfl⟩ := List.exists_cons_of_ne_nil hr
  have hlt (m : Nat) : m % 16 < 16 := Nat.mod_lt m (by decide)
  have hunit : ((n / 16 / 16 / 16 % 16 * 16 + n / 16 / 16 % 16) * 16 + n / 16 % 16) * 16 +
      n % 16 = n := by
    omega
  simp only [Text.hexDigits, List.nil_append, List.cons_append, readFour?, codeUnit?,
    hexValue?_digitChar (hlt _), bind, Option.bind, pure, Option.map, hunit]

variable {start : List Char} {c : Char} {cs : List Char}

theorem stringBody_quote : Yields (stringBody start ('"' :: r)) [] r := by
  rw [stringBody]
  exact ⟨_, rfl⟩

theorem stringBody_shortEscape {d : Char} (h : shortEscape? c = some d)
    (ht : Yields (stringBody start t) cs r) :
    Yields (stringBody start ('\\' :: c :: t)) (d :: cs) r := by
  obtain ⟨hlt, ht⟩ := ht
  rw [stringBody, h]
  · simp only [ht]
    exact ⟨_, rfl⟩
  · rintro rfl
    cases h

/-- A control character is written by its code. -/
theorem stringBody_codeUnit (hc : c.toNat < 0x20) (hne : t ≠ [])
    (ht : Yields (stringBody start t) cs r) :
    Yields (stringBody start ('\\' :: 'u' :: (Text.hexDigits 4 c.toNat ++ t))) (c :: cs) r := by
  obtain ⟨hlt, ht⟩ := ht
  have hread : readUnit (Text.hexDigits 4 c.toNat ++ t) = .ok (c, t) := by
    rw [readUnit, readFour?_hexDigits (by omega) hne]
    dsimp only
    rw [if_neg (by omega), unitChar, if_neg (by omega), Char.ofNat_toNat]
  rw [stringBody]
  split
  · simp_all
  · rename_i h
    rw [hread] at h
    cases h
    simp only [ht]
    exact ⟨_, rfl⟩

theorem stringBody_plain (hquote : c ≠ '"') (hslash : c ≠ '\\') (hc : ¬c.toNat < 0x20)
    (ht : Yields (stringBody start t) cs r) : Yields (stringBody start (c :: t)) (c :: cs) r := by
  obtain ⟨hlt, ht⟩ := ht
  rw [stringBody, if_neg hc]
  · simp only [ht]
    exact ⟨_, rfl⟩
  · exact hquote
  · exact fun h _ => hslash h
  · exact fun _ h _ => hslash h
  · exact fun _ _ h _ => hslash h

/-- How a character is written inside a string. -/
theorem escape_cases (c : Char) :
    (∃ d, shortEscape? d = some c ∧ escape c = ['\\', d]) ∨
    (c.toNat < 0x20 ∧ escape c = '\\' :: 'u' :: Text.hexDigits 4 c.toNat) ∨
    (c ≠ '"' ∧ c ≠ '\\' ∧ ¬c.toNat < 0x20 ∧ escape c = [c]) := by
  fun_cases escape c with
  | case1 | case2 | case3 | case4 | case5 | case6 | case7 => exact .inl ⟨_, rfl, rfl⟩
  | case8 _ _ _ _ _ _ _ _ hcontrol => exact .inr (.inl ⟨hcontrol, rfl⟩)
  | case9 _ hquote hslash _ _ _ _ _ hcontrol => exact .inr (.inr ⟨hquote, hslash, hcontrol, rfl⟩)

/-- An escaped character reads back, provided that the text goes on after it. -/
theorem stringBody_escape (c : Char) (hne : t ≠ []) (ht : Yields (stringBody start t) cs r) :
    Yields (stringBody start (escape c ++ t)) (c :: cs) r := by
  obtain ⟨d, hd, h⟩ | ⟨hc, h⟩ | ⟨hquote, hslash, hc, h⟩ := escape_cases c
  · rw [h]
    exact stringBody_shortEscape hd ht
  · rw [h]
    exact stringBody_codeUnit hc hne ht
  · rw [h]
    exact stringBody_plain hquote hslash hc ht

/-- An escaped text reads back, up to the closing quote. -/
theorem stringBody_escaped (cs : List Char) :
    Yields (stringBody start (cs.flatMap escape ++ '"' :: r)) cs r := by
  induction cs with
  | nil => exact stringBody_quote
  | cons c cs ih =>
    rw [List.flatMap_cons, List.append_assoc]
    exact stringBody_escape c (by simp) ih

end ShapeSum.Json.Reader
