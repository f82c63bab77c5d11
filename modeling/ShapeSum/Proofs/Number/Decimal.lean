import Mathlib.Data.Nat.Log
import Mathlib.Tactic.NormNum
import Mathlib.Tactic.Ring
import Mathlib.Tactic.SplitIfs
import ShapeSum.Number.Decimal

/-!
# Doubles are known from their digits

Rounding depends on a quotient only and not on how it is written (`nearest_mul`), and it
leaves a magnitude as it is (`nearest_units`).  The whole expansion of a double therefore
reads back as the double, and so do the digits that it is written with, whichever were
found first (`ofDecimal_shortest`).
-/

namespace ShapeSum.Binary64

/-! ## Rounding -/

theorem roundHalfEven_mul {k : Nat} (hk : 0 < k) (num den : Nat) :
    roundHalfEven (k * num) (k * den) = roundHalfEven num den := by
  have hlt (a b : Nat) : 2 * (k * a) < k * b ↔ 2 * a < b := by
    rw [Nat.mul_left_comm]
    exact Nat.mul_lt_mul_left hk
  have hgt (a b : Nat) : k * b < 2 * (k * a) ↔ b < 2 * a := by
    rw [Nat.mul_left_comm]
    exact Nat.mul_lt_mul_left hk
  simp only [roundHalfEven, Nat.mul_div_mul_left _ _ hk, Nat.mul_mod_mul_left, hlt, hgt]

/-- A whole quotient is left as it is. -/
theorem roundHalfEven_exact {den : Nat} (hden : 0 < den) (q : Nat) :
    roundHalfEven (q * den) den = q := by
  simp [roundHalfEven, Nat.mul_div_cancel q hden, hden]

/-- The nearest magnitude depends on the quotient only. -/
theorem nearest_mul {k : Nat} (hk : 0 < k) (num den : Nat) :
    nearest (k * num) (k * den) = nearest num den := by
  simp only [nearest, Nat.mul_assoc k, Nat.mul_div_mul_left _ _ hk, roundHalfEven_mul hk]

/-- The place of the first binary digit of a magnitude, from that of its significand. -/
theorem log2_units (code : Nat) : Nat.log2 (units code) - 52 = scale code := by
  by_cases hsmall : code < Nat.pow 2 52
  · have hscale : scale code = 0 := by rw [scale, Nat.div_eq_of_lt hsmall]
    have hunits : units code = code := by
      rw [units, hscale, significand, if_pos hsmall]
      exact Nat.mul_one code
    rw [hunits, hscale, Nat.log2_eq_log_two, Nat.sub_eq_zero_iff_le]
    exact (Nat.log_mono_right hsmall.le).trans_eq (Nat.log_pow (by decide) 52)
  · have hsig : units code = (2 ^ 52 + code % 2 ^ 52) * 2 ^ scale code := by
      rw [units, significand, if_neg hsmall]
      rfl
    have hmod : code % 2 ^ 52 < 2 ^ 52 := Nat.mod_lt _ (by decide)
    have hlog : Nat.log 2 (units code) = 52 + scale code := by
      refine Nat.log_eq_of_pow_le_of_lt_pow ?_ ?_ <;> rw [hsig]
      · rw [pow_add]
        exact Nat.mul_le_mul_right _ (by omega)
      · rw [show 52 + scale code + 1 = 53 + scale code by omega, pow_add]
        exact Nat.mul_lt_mul_of_pos_right (by omega) (by positivity)
    rw [Nat.log2_eq_log_two, hlog, Nat.add_sub_cancel_left]

theorem two_pow_pos (n : Nat) : 0 < Nat.pow 2 n := Nat.pow_pos Nat.two_pos

/-- The code of a magnitude is made of its scale and its significand. -/
theorem scale_add_significand (code : Nat) :
    scale code * Nat.pow 2 52 + significand code = code := by
  have hdiv : code / Nat.pow 2 52 * Nat.pow 2 52 + code % Nat.pow 2 52 = code :=
    Nat.div_add_mod' code _
  rw [scale, significand]
  split
  · rename_i hsmall
    rw [Nat.div_eq_of_lt hsmall, Nat.zero_sub, Nat.zero_mul, Nat.zero_add]
  · rename_i hlarge
    have hpos : 1 ≤ code / Nat.pow 2 52 :=
      (Nat.one_le_div_iff (two_pow_pos 52)).2 (Nat.not_lt.1 hlarge)
    rw [← Nat.add_assoc, ← Nat.succ_mul, Nat.succ_eq_add_one, Nat.sub_add_cancel hpos, hdiv]

/-- A magnitude is its own nearest one. -/
theorem nearest_units (code : Nat) : nearest (units code) (Nat.pow 2 1074) = code := by
  -- The unit is taken as any number, which keeps it from being computed.
  have hany (unit : Nat) (hunit : 0 < unit) :
      let floor := units code * unit / unit
      let s := Nat.log2 floor - 52
      s * Nat.pow 2 52 + roundHalfEven (units code * unit) (unit * Nat.pow 2 s) = code := by
    simp only [Nat.mul_div_cancel _ hunit, log2_units]
    rw [Nat.mul_comm (units code), roundHalfEven_mul hunit, units,
      roundHalfEven_exact (two_pow_pos _), scale_add_significand]
  exact hany (Nat.pow 2 1074) (by decide +kernel)

/-! ## Decimals -/

theorem magnitudeCount_pos : 0 < magnitudeCount := by decide +kernel

theorem ofDecimal_zero (negative : Bool) (e : Int) :
    ofDecimal negative 0 e = .finite negative ⟨0, magnitudeCount_pos⟩ := by
  rw [ofDecimal, if_pos rfl, ofCode, dif_pos]

theorem toDigits_mul_ten {d : Nat} (hd : 0 < d) :
    Nat.toDigits 10 (10 * d) = Nat.toDigits 10 d ++ ['0'] :=
  (Nat.toDigits_append_toDigits (b := 10) (by decide) hd (by decide : 0 < 10)).symm

/-- Zeros behind the digits of a number are those of a power of ten. -/
theorem toDigits_mul_pow {d : Nat} (hd : 0 < d) (k : Nat) :
    Nat.toDigits 10 (d * 10 ^ k) = Nat.toDigits 10 d ++ List.replicate k '0' := by
  induction k with
  | zero => simp
  | succ k ih =>
    have hpos : 0 < d * 10 ^ k := Nat.mul_pos hd (by positivity)
    rw [show d * 10 ^ (k + 1) = 10 * (d * 10 ^ k) by ring, toDigits_mul_ten hpos, ih,
      List.append_assoc, List.replicate_succ']

/-- A digit behind the point that is zero changes nothing. -/
theorem ofDecimal_append_zero (negative : Bool) {d : Nat} (hd : 0 < d) (k : Nat) :
    ofDecimal negative (d * 10 ^ (k + 1)) (-1) = ofDecimal negative d k := by
  have hwidth : (-1 : Int) + (Nat.toDigits 10 (d * 10 ^ (k + 1))).length =
      k + (Nat.toDigits 10 d).length := by
    rw [toDigits_mul_pow hd, List.length_append, List.length_replicate]
    omega
  have hne : d * 10 ^ (k + 1) ≠ 0 := (Nat.mul_pos hd (by positivity)).ne'
  have hround : nearest (d * 10 ^ (k + 1)) (Nat.pow 10 1) = nearest (d * Nat.pow 10 k) 1 := by
    have h := nearest_mul (k := 10) (by decide) (d * 10 ^ k) 1
    rwa [show 10 * (d * 10 ^ k) = d * 10 ^ (k + 1) by ring] at h
  simp only [ofDecimal, hwidth, if_neg hne, if_neg hd.ne', ofQuotient]
  rw [if_neg (by decide : ¬(0 : Int) ≤ -1), if_pos (Int.natCast_nonneg k), Int.toNat_natCast]
  simp only [show (-(-1 : Int)).toNat = 1 from rfl, hround]

/-- The sign passes through the reading of a decimal. -/
theorem ofDecimal_sign {d : Nat} {e : Int} {sign : Bool} {code : Fin magnitudeCount}
    (h : ofDecimal false d e = .finite sign code) (negative : Bool) :
    ofDecimal negative d e = .finite negative code := by
  have hcode {n : Nat} (hn : ofCode false n = .finite sign code) :
      ofCode negative n = .finite negative code := by
    unfold ofCode at hn ⊢
    split at hn
    · rename_i hlt
      cases hn
      rw [dif_pos hlt]
    · cases hn
  unfold ofDecimal at h ⊢
  dsimp only at h ⊢
  split_ifs at h ⊢
  · exact hcode h
  · exact hcode h
  · exact hcode h
  · exact hcode h

/-! ## Shortest digits -/

theorem length_toDigits_le {n k : Nat} (hk : 0 < k) (h : n < Nat.pow 10 k) :
    (Nat.toDigits 10 n).length ≤ k := (Nat.length_toDigits_le_iff (by decide) hk).2 h

theorem lt_length_toDigits {n k : Nat} (hk : 0 < k) (h : Nat.pow 10 k ≤ n) :
    k < (Nat.toDigits 10 n).length :=
  Nat.not_le.1 fun hle => Nat.not_lt.2 h ((Nat.length_toDigits_le_iff (by decide) hk).1 hle)

/-- The expansion of a finite double is less than this power of ten. -/
theorem expansion_lt {code : Nat} (h : code < magnitudeCount) :
    expansion code < Nat.pow 10 (400 + unitPlaces) := by
  have hsig : significand code < 2 ^ 53 := by
    have hmod : code % Nat.pow 2 52 < 2 ^ 52 := Nat.mod_lt _ (two_pow_pos 52)
    have hpow : Nat.pow 2 52 = 2 ^ 52 := rfl
    rw [significand]
    split <;> omega
  have hscale : scale code ≤ 2045 := by
    have hdiv : code / Nat.pow 2 52 < 2047 := Nat.div_lt_of_lt_mul (Nat.mul_comm _ _ ▸ h)
    rw [scale]
    omega
  have hunits (n : Nat) (hn : scale code ≤ n) : units code ≤ Nat.pow 2 53 * Nat.pow 2 n :=
    Nat.mul_le_mul hsig.le (Nat.pow_le_pow_right Nat.two_pos hn)
  refine Nat.lt_of_le_of_lt (Nat.mul_le_mul_right (Nat.pow 5 unitPlaces) (hunits 2045 hscale)) ?_
  decide +kernel

/-- The expansion of a double other than zero is at least this power of ten. -/
theorem le_expansion {code k : Nat} (h : 0 < code) (hk : k ≤ 673) :
    Nat.pow 10 k ≤ expansion code := by
  have hsig : 0 < significand code := by
    rw [significand]
    split
    · exact h
    · exact Nat.add_pos_left (two_pow_pos 52) _
  have hunits : 1 ≤ units code := Nat.mul_pos hsig (two_pow_pos _)
  have hpow (n : Nat) (hn : k ≤ n) : Nat.pow 10 k ≤ Nat.pow 10 n :=
    Nat.pow_le_pow_right (by decide) hn
  refine Nat.le_trans (hpow 673 hk) ?_
  refine Nat.le_trans ?_ (Nat.mul_le_mul_right (Nat.pow 5 unitPlaces) hunits)
  decide +kernel

theorem lt_length_expansion {code k : Nat} (h : 0 < code) (hpos : 0 < k) (hk : k ≤ 673) :
    k < (Nat.toDigits 10 (expansion code)).length :=
  lt_length_toDigits hpos (le_expansion h hk)

theorem nearest_expansion (code : Nat) :
    nearest (expansion code) (Nat.pow 10 unitPlaces) = code := by
  have hten : Nat.pow 10 unitPlaces = Nat.pow 5 unitPlaces * Nat.pow 2 1074 := by decide +kernel
  have hfive : 0 < Nat.pow 5 unitPlaces := by decide +kernel
  rw [hten, expansion, Nat.mul_comm (units code), nearest_mul hfive, nearest_units]

/-- The whole expansion of a double reads back as the double. -/
theorem ofDecimal_expansion (code : Fin magnitudeCount) (h : 0 < code.val) :
    ofDecimal false (expansion code) (-unitPlaces) = .finite false code := by
  have hleast : 673 < (Nat.toDigits 10 (expansion code)).length :=
    lt_length_expansion h (by decide) (Nat.le_refl _)
  have hmost : (Nat.toDigits 10 (expansion code)).length ≤ 400 + unitPlaces :=
    length_toDigits_le (by decide) (expansion_lt code.isLt)
  have hne : expansion code ≠ 0 := by
    intro hzero
    rw [hzero, Nat.toDigits_zero] at hleast
    exact absurd hleast (by decide)
  have hplaces : unitPlaces = 1074 := rfl
  unfold ofDecimal
  dsimp only
  rw [if_neg hne, if_neg (by omega), if_neg (by omega), if_neg (by decide)]
  rw [ofQuotient, Int.neg_neg, Int.toNat_natCast, nearest_expansion, ofCode, dif_pos code.isLt]

/-- The magnitude that digits read back as. -/
theorem exists_of_digitsAt? {code n width p : Nat} {r : Nat × Int}
    (h : digitsAt? code n width p = some r) :
    ∃ sign c, ofDecimal false r.1 r.2 = .finite sign c ∧ c.val = code := by
  unfold digitsAt? at h
  extract_lets step exponent below reads lowNear at h
  have hreads {d : Nat} (hd : reads d = true) :
      ∃ sign c, ofDecimal false d exponent = .finite sign c ∧ c.val = code := by
    dsimp only [reads] at hd
    split at hd
    · rename_i sign c hc
      exact ⟨sign, c, hc, eq_of_beq hd⟩
    · cases hd
  split at h
  · rename_i hlow
    cases h
    exact hreads (Bool.and_eq_true_iff.1 hlow).1
  · split at h
    · rename_i hhigh
      cases h
      exact hreads hhigh
    · cases h

/-- The digits that a double is written with read back as the double, under any sign. -/
theorem ofDecimal_shortest (code : Fin magnitudeCount) (h : 0 < code.val) :
    0 < (shortest code).1 ∧
      ∀ negative, ofDecimal negative (shortest code).1 (shortest code).2 =
        .finite negative code := by
  have hfound : ∃ sign, ofDecimal false (shortest code).1 (shortest code).2 =
      .finite sign code := by
    rw [shortest]
    cases hd : (List.range 18).findSome? fun p => digitsAt? code (expansion code)
        (Nat.toDigits 10 (expansion code)).length p with
    | none =>
      rw [Option.getD_none]
      exact ⟨false, ofDecimal_expansion code h⟩
    | some r =>
      rw [Option.getD_some]
      obtain ⟨p, -, hp⟩ := List.exists_of_findSome?_eq_some hd
      obtain ⟨sign, c, hc, hcode⟩ := exists_of_digitsAt? hp
      exact ⟨sign, Fin.ext hcode ▸ hc⟩
  obtain ⟨sign, hsign⟩ := hfound
  refine ⟨Nat.pos_of_ne_zero fun hzero => ?_, ofDecimal_sign hsign⟩
  rw [hzero, ofDecimal_zero] at hsign
  injection hsign with _ hcode
  exact Nat.ne_of_lt h (congrArg Fin.val hcode)

end ShapeSum.Binary64
