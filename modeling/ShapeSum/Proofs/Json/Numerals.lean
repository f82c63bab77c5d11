import ShapeSum.Json.Reader
import ShapeSum.Json.Writer
import ShapeSum.Proofs.Number.Decimal

/-!
# Numbers read back

A number is written by its digits, with a point, an exponent, both or neither.  Whatever the layout,
the digits and the exponent that are read are those that were written, or differ by zeros at
the end (`readUnsigned?_layout`), so that every integer and every double reads back
(`readScalar?_int`, `readScalar?_float`).
-/

namespace ShapeSum

/-! ## Digits -/

namespace Binary64

theorem digitsValue_toDigits (n : Nat) : digitsValue (Nat.toDigits 10 n) = n :=
  Nat.ofDigitChars_ten_toDigits

theorem isDigit_toDigits (n : Nat) : ∀ c ∈ Nat.toDigits 10 n, c.isDigit = true := fun _ hc =>
  Nat.isDigit_of_mem_toDigits (by decide) (by decide) hc

/-- Zeros in front of digits count for nothing. -/
theorem digitsValue_zeros (k : Nat) (s : List Char) :
    digitsValue (List.replicate k '0' ++ s) = digitsValue s := by
  have h := Nat.ofDigitChars_append (b := 10) (l := List.replicate k '0') (m := s) 0
  rw [Nat.ofDigitChars_replicate_zero, Nat.mul_zero] at h
  exact h

/-- Zeros behind digits count as a power of ten. -/
theorem digitsValue_append_zeros (s : List Char) (k : Nat) :
    digitsValue (s ++ List.replicate k '0') = digitsValue s * 10 ^ k := by
  have h := Nat.ofDigitChars_append (b := 10) (l := s) (m := List.replicate k '0') 0
  rw [Nat.ofDigitChars_replicate_zero, Nat.mul_comm] at h
  exact h

/-- The digits of a positive number do not start with zero. -/
theorem head?_toDigits {n : Nat} (hn : 0 < n) : (Nat.toDigits 10 n).head? ≠ some '0' := by
  induction n using Nat.strongRecOn with
  | ind n ih =>
    rcases Nat.lt_or_ge n 10 with hlt | hge
    · rw [Nat.toDigits_of_lt_base hlt, List.head?_cons, ne_eq, Option.some.injEq,
        Nat.digitChar_eq_zero]
      exact Nat.pos_iff_ne_zero.1 hn
    · rw [Nat.toDigits_of_base_le (by decide) hge, List.head?_append,
        Option.or_of_isSome (List.isSome_head?.2 Nat.toDigits_ne_nil)]
      exact ih (n / 10) (by omega) (by omega)

end Binary64

namespace Json.Reader

open Binary64

/-! ## Where a number ends -/

/-- What stands behind a value in a text: nothing, or a mark between or behind values. -/
def Ends (r : List Char) : Prop := ∀ c ∈ r.head?, c = ',' ∨ c = ']' ∨ c = '\x7d'

/-- No digit stands at the start of a text. -/
def NoDigit (r : List Char) : Prop := ∀ c ∈ r.head?, c.isDigit = false

variable {s t r : List Char} {e : Int} {d : Nat} {negative : Bool}

theorem Ends.noDigit (h : Ends r) : NoDigit r := fun c hc => by
  obtain rfl | rfl | rfl := h c hc <;> rfl

theorem noDigit_cons {c : Char} (h : c.isDigit = false) : NoDigit (c :: t) := fun _ hc =>
  Option.some.inj hc ▸ h

theorem spanDigits_append (hs : ∀ c ∈ s, c.isDigit = true) (hr : NoDigit r) :
    spanDigits (s ++ r) = (s, r) := by
  rw [spanDigits, List.takeWhile_append_of_pos hs, List.dropWhile_append_of_pos hs]
  cases r with
  | nil => rw [List.takeWhile_nil, List.dropWhile_nil, List.append_nil]
  | cons c r =>
    have hc : c.isDigit = false := hr c rfl
    rw [List.takeWhile_cons_of_neg (by simp [hc]), List.dropWhile_cons_of_neg (by simp [hc]),
      List.append_nil]

/-- Digits of a whole number as they are written. -/
structure Whole (s : List Char) : Prop where
  /-- There are digits. -/
  nonempty : s ≠ []
  /-- There is nothing but digits. -/
  digits : ∀ c ∈ s, c.isDigit = true
  /-- A zero in front stands alone. -/
  lead : s = ['0'] ∨ s.head? ≠ some '0'

theorem whole_toDigits (n : Nat) : Whole (Nat.toDigits 10 n) := by
  refine ⟨Nat.toDigits_ne_nil, isDigit_toDigits n, ?_⟩
  rcases Nat.eq_zero_or_pos n with rfl | hn
  · exact .inl rfl
  · exact .inr (head?_toDigits hn)

theorem isDigit_zeros (k : Nat) : ∀ c ∈ List.replicate k '0', c.isDigit = true := fun _ hc =>
  (List.mem_replicate.1 hc).2 ▸ rfl

/-- Digits behind those of a positive number make a whole number with them. -/
theorem Whole.append (hs : s.head? ≠ some '0') (h : Whole s) (ht : ∀ c ∈ t, c.isDigit = true) :
    Whole (s ++ t) := by
  refine ⟨List.append_ne_nil_of_left_ne_nil h.nonempty t, ?_, .inr ?_⟩
  · exact List.forall_mem_append.2 ⟨h.digits, ht⟩
  · rwa [List.head?_append, Option.or_of_isSome (List.isSome_head?.2 h.nonempty)]

/-- The first digits of a positive number are those of a whole number. -/
theorem Whole.take (hs : s.head? ≠ some '0') (h : Whole s) {k : Nat} (hk : 0 < k) :
    Whole (s.take k) := by
  obtain ⟨c, s, rfl⟩ := List.exists_cons_of_ne_nil h.nonempty
  obtain ⟨k, rfl⟩ := Nat.exists_eq_add_one_of_ne_zero hk.ne'
  exact ⟨by simp, fun c hc => h.digits c (List.mem_of_mem_take hc), .inr hs⟩

theorem wholeDigits_append (hs : Whole s) (hr : NoDigit r) : wholeDigits (s ++ r) = (s, r) := by
  rcases hs.lead with rfl | hlead
  · rfl
  · obtain ⟨c, s, rfl⟩ := List.exists_cons_of_ne_nil hs.nonempty
    rw [List.cons_append, wholeDigits, ← List.cons_append, spanDigits_append hs.digits hr]
    rintro r' h
    cases h
    exact hlead rfl

theorem fractionDigits_append (hs : ∀ c ∈ s, c.isDigit = true) (hne : s ≠ []) (hr : NoDigit r) :
    fractionDigits ('.' :: (s ++ r)) = (s, r) := by
  rw [fractionDigits, spanDigits_append hs hr]
  split
  · rename_i h
    exact absurd (congrArg Prod.fst h) hne
  · rfl

/-- An exponent that is written reads back. -/
theorem exponentPart_exponentText (e : Int) (hr : NoDigit r) :
    exponentPart ('e' :: (exponentText e ++ r)) = (some e, r) := by
  -- The digits, with a zero in front of a single one.
  obtain ⟨ds, hds, hne, hdigits, hvalue⟩ :
      ∃ ds, exponentText e = (if e < 0 then '-' else '+') :: ds ∧
      ds ≠ [] ∧ (∀ c ∈ ds, c.isDigit = true) ∧ digitsValue ds = e.natAbs := by
    have hdigits := isDigit_toDigits e.natAbs
    refine ⟨_, rfl, ?_, ?_, ?_⟩
    · split <;> simp
    · split
      · exact List.forall_mem_cons.2 ⟨rfl, hdigits⟩
      · exact hdigits
    · split
      · exact (digitsValue_zeros 1 _).trans (digitsValue_toDigits _)
      · exact digitsValue_toDigits _
  have hsign : readSign (exponentText e ++ r) = (decide (e < 0), ds ++ r) := by
    rw [hds]
    by_cases he : e < 0
    · rw [if_pos he, decide_eq_true he]
      rfl
    · rw [if_neg he, decide_eq_false he]
      rfl
  obtain ⟨c, ds, rfl⟩ := List.exists_cons_of_ne_nil hne
  rw [exponentPart, if_pos (.inl rfl), hsign]
  dsimp only
  rw [spanDigits_append hdigits hr]
  dsimp only
  rw [hvalue]
  congr 2
  by_cases he : e < 0
  · rw [if_pos (decide_eq_true he)]
    omega
  · rw [if_neg (by simp [he])]
    omega

theorem Ends.exponentPart (h : Ends r) : exponentPart r = (none, r) := by
  cases r with
  | nil => rfl
  | cons c r =>
    obtain rfl | rfl | rfl := h c rfl <;> rfl

theorem Ends.fractionDigits (h : Ends r) : fractionDigits r = ([], r) := by
  cases r with
  | nil => rfl
  | cons c r =>
    obtain rfl | rfl | rfl := h c rfl <;> rfl

/-! ## Layouts -/

section
variable (negative)

/-- Digits on both sides of a point, with or without an exponent. -/
theorem readUnsigned?_point {f : List Char} {o : Option Int} (hs : Whole s)
    (hf : ∀ c ∈ f, c.isDigit = true) (hne : f ≠ []) (ht : NoDigit t)
    (ho : exponentPart t = (o, r)) :
    readUnsigned? negative (s ++ '.' :: (f ++ t)) =
      some (.float (ofDecimal negative (digitsValue (s ++ f)) (o.getD 0 - f.length)), r) := by
  obtain ⟨c, s, rfl⟩ := List.exists_cons_of_ne_nil hs.nonempty
  obtain ⟨c', f, rfl⟩ := List.exists_cons_of_ne_nil hne
  rw [readUnsigned?, wholeDigits_append hs (noDigit_cons rfl)]
  dsimp only
  rw [fractionDigits_append hf hne ht]
  dsimp only
  rw [ho]
  rfl

/-- Digits without a point, but with an exponent. -/
theorem readUnsigned?_power (hs : Whole s) (hr : NoDigit r) :
    readUnsigned? negative (s ++ 'e' :: (exponentText e ++ r)) =
      some (.float (ofDecimal negative (digitsValue s) e), r) := by
  obtain ⟨c, s, rfl⟩ := List.exists_cons_of_ne_nil hs.nonempty
  rw [readUnsigned?, wholeDigits_append hs (noDigit_cons rfl)]
  dsimp only
  rw [Reader.fractionDigits]
  · dsimp only
    rw [exponentPart_exponentText e hr, List.append_nil]
    simp
  · simp

/-- Digits without a point and without an exponent are an integer. -/
theorem readUnsigned?_whole (hs : Whole s) (hr : Ends r) :
    readUnsigned? negative (s ++ r) =
      some (.int (if negative then -(digitsValue s : Int) else digitsValue s), r) := by
  obtain ⟨c, s, rfl⟩ := List.exists_cons_of_ne_nil hs.nonempty
  rw [readUnsigned?, wholeDigits_append hs hr.noDigit]
  dsimp only
  rw [hr.fractionDigits]
  dsimp only
  rw [hr.exponentPart]
  rfl

variable (hd : 0 < d) (hr : Ends r)
include hd hr

/-- Zeros are written up to the point, and one behind it. -/
theorem readUnsigned?_zerosBehind (k : Nat) :
    readUnsigned? negative (Nat.toDigits 10 d ++ List.replicate k '0' ++ ['.', '0'] ++ r) =
      some (.float (ofDecimal negative d k), r) := by
  have h := readUnsigned?_point negative (f := ['0'])
    ((whole_toDigits d).append (head?_toDigits hd) (isDigit_zeros k))
    (List.forall_mem_singleton.2 rfl) (List.cons_ne_nil _ _) hr.noDigit hr.exponentPart
  have hvalue : digitsValue (Nat.toDigits 10 d ++ List.replicate k '0' ++ ['0']) =
      d * 10 ^ (k + 1) := by
    rw [List.append_assoc, ← List.replicate_succ', digitsValue_append_zeros, digitsValue_toDigits]
  rw [hvalue] at h
  rw [List.append_assoc, ← ofDecimal_append_zero negative hd k]
  exact h

/-- The point stands among the digits. -/
theorem readUnsigned?_pointWithin {k : Nat} (hk : 0 < k) (hlt : k < (Nat.toDigits 10 d).length) :
    readUnsigned? negative ((Nat.toDigits 10 d).take k ++ '.' :: (Nat.toDigits 10 d).drop k ++ r) =
      some (.float (ofDecimal negative d (k - (Nat.toDigits 10 d).length)), r) := by
  have hdigits := isDigit_toDigits d
  have h := readUnsigned?_point negative (f := (Nat.toDigits 10 d).drop k)
    ((whole_toDigits d).take (head?_toDigits hd) hk)
    (fun c hc => hdigits c (List.mem_of_mem_drop hc))
    (List.ne_nil_of_length_pos (by rw [List.length_drop]; omega)) hr.noDigit hr.exponentPart
  rw [List.take_append_drop, digitsValue_toDigits, List.length_drop, Option.getD_none,
    show (0 : Int) - ((Nat.toDigits 10 d).length - k : Nat) = k - (Nat.toDigits 10 d).length by
      omega] at h
  rw [List.append_assoc]
  exact h

omit hd in
/-- Zeros are written before and behind the point. -/
theorem readUnsigned?_zerosBefore (k : Nat) :
    readUnsigned? negative ('0' :: '.' :: (List.replicate k '0' ++ Nat.toDigits 10 d) ++ r) =
      some (.float (ofDecimal negative d (-(k + (Nat.toDigits 10 d).length))), r) := by
  have h := readUnsigned?_point negative
    (f := List.replicate k '0' ++ Nat.toDigits 10 d) (whole_toDigits 0)
    (List.forall_mem_append.2 ⟨isDigit_zeros k, isDigit_toDigits d⟩)
    (List.append_ne_nil_of_right_ne_nil _ Nat.toDigits_ne_nil) hr.noDigit hr.exponentPart
  have hvalue :
      digitsValue (Nat.toDigits 10 0 ++ (List.replicate k '0' ++ Nat.toDigits 10 d)) = d :=
    (digitsValue_zeros (k + 1) _).trans (digitsValue_toDigits d)
  rw [hvalue, List.length_append, List.length_replicate, Option.getD_none,
    show (0 : Int) - (k + (Nat.toDigits 10 d).length : Nat) = -(k + (Nat.toDigits 10 d).length) by
      omega] at h
  exact h

/-- One digit stands before the point, if there is one, and an exponent follows. -/
theorem readUnsigned?_scientific {c : Char} {cs : List Char} (hc : Nat.toDigits 10 d = c :: cs)
    (e : Int) :
    readUnsigned? negative ((match c :: cs with
      | [] => []
      | [c] => c :: 'e' :: exponentText e
      | c :: cs => c :: '.' :: (cs ++ 'e' :: exponentText e)) ++ r) =
      some (.float (ofDecimal negative d (e - cs.length)), r) := by
  have hwhole := whole_toDigits d
  have hvalue := digitsValue_toDigits d
  have hdigits := isDigit_toDigits d
  have hlead := head?_toDigits hd
  rw [hc] at hwhole hvalue hdigits hlead
  cases cs with
  | nil =>
    have h := readUnsigned?_power negative (e := e) hwhole hr.noDigit
    rw [hvalue] at h
    rw [List.length_nil, Int.natCast_zero, Int.sub_zero]
    exact h
  | cons c' cs =>
    have h := readUnsigned?_point negative (f := c' :: cs)
      (hwhole.take hlead (k := 1) Nat.one_pos)
      (fun x hx => hdigits x (List.mem_cons_of_mem _ hx)) (List.cons_ne_nil _ _)
      (noDigit_cons rfl) (exponentPart_exponentText e hr.noDigit)
    rw [List.take_succ_cons, List.take_zero,
      show digitsValue ([c] ++ c' :: cs) = d from hvalue] at h
    simp only [List.cons_append, List.append_assoc]
    exact h

/-- The digits of a decimal read back from each of its layouts. -/
theorem readUnsigned?_layout :
    readUnsigned? negative (layout (Nat.toDigits 10 d) e ++ r) =
      some (.float (ofDecimal negative d e), r) := by
  have hlength : 0 < (Nat.toDigits 10 d).length := Nat.length_toDigits_pos
  unfold layout
  dsimp only
  split
  · split
    · rename_i he
      obtain ⟨k, rfl⟩ := Int.eq_ofNat_of_zero_le he
      exact readUnsigned?_zerosBehind negative hd hr k
    · split
      · generalize hk : (e + (Nat.toDigits 10 d).length - 1 + 1).toNat = k
        have h := readUnsigned?_pointWithin negative hd hr (k := k) (by omega) (by omega)
        rwa [show (k : Int) - (Nat.toDigits 10 d).length = e by omega] at h
      · generalize hk : (-(e + (Nat.toDigits 10 d).length - 1) - 1).toNat = k
        have h := readUnsigned?_zerosBefore (d := d) negative hr k
        rwa [show -((k : Int) + (Nat.toDigits 10 d).length) = e by omega] at h
  · obtain ⟨c, cs, hc⟩ := List.exists_cons_of_ne_nil (Nat.toDigits_ne_nil (n := d) (b := 10))
    have h := readUnsigned?_scientific negative hd hr hc (e + (Nat.toDigits 10 d).length - 1)
    rw [hc] at h ⊢
    rwa [List.length_cons, show e + ((cs.length + 1 : Nat) : Int) - 1 - cs.length = e by omega] at h

end

/-! ## Scalars -/

/-- No name starts with a digit. -/
theorem readName?_digit {c : Char} (hc : c.isDigit = true) : readName? (c :: s) = none := by
  have hne (x : Char) (hx : x.isDigit = false) : ¬x = c := by
    rintro rfl
    rw [hx] at hc
    cases hc
  simp [readName?, names, hne]

/-- No name starts with a sign and a digit. -/
theorem readName?_sign {c : Char} (hc : c.isDigit = true) : readName? ('-' :: c :: s) = none := by
  have hne (x : Char) (hx : x.isDigit = false) : ¬x = c := by
    rintro rfl
    rw [hx] at hc
    cases hc
  simp [readName?, names, hne]

/-- A number that is read starts with a digit. -/
theorem exists_of_readUnsigned? {x : Json × List Char} (h : readUnsigned? negative s = some x) :
    ∃ c t, s = c :: t ∧ c.isDigit = true := by
  cases s with
  | nil => cases h
  | cons c t =>
    refine ⟨c, t, rfl, Bool.of_not_eq_false fun hc => ?_⟩
    have hne : c ≠ '0' := by
      rintro rfl
      cases hc
    have hwhole : wholeDigits (c :: t) = ([], c :: t) := by
      rw [wholeDigits, spanDigits, List.takeWhile_cons_of_neg (by simp [hc]),
        List.dropWhile_cons_of_neg (by simp [hc])]
      simpa using hne
    rw [readUnsigned?, hwhole] at h
    cases h

/-- A number is read behind its sign. -/
theorem readScalar?_of_readUnsigned? {x : Json × List Char}
    (h : readUnsigned? negative s = some x) :
    readScalar? (if negative then '-' :: s else s) = some x := by
  obtain ⟨c, t, rfl, hc⟩ := exists_of_readUnsigned? h
  cases negative with
  | true =>
    rw [if_pos rfl, readScalar?, readName?_sign hc]
    exact h
  | false =>
    rw [if_neg Bool.false_ne_true, readScalar?, readName?_digit hc]
    · exact h
    · rintro _ heq
      rw [(List.cons.inj heq).1] at hc
      cases hc

/-- An integer reads back. -/
theorem readScalar?_int (n : Int) (hr : Ends r) :
    readScalar? ((toString n).toList ++ r) = some (.int n, r) := by
  cases n with
  | ofNat m =>
    have htext : (toString (Int.ofNat m)).toList = Nat.toDigits 10 m := Nat.toList_repr
    have h := readUnsigned?_whole false (whole_toDigits m) hr
    rw [digitsValue_toDigits] at h
    rw [htext]
    exact readScalar?_of_readUnsigned? h
  | negSucc m =>
    have htext : (toString (Int.negSucc m)).toList = '-' :: Nat.toDigits 10 (m + 1) := by
      rw [← Nat.toList_repr]
      exact String.toList_append
    have h := readUnsigned?_whole true (whole_toDigits (m + 1)) hr
    rw [digitsValue_toDigits] at h
    rw [htext]
    exact readScalar?_of_readUnsigned? h

/-- A magnitude reads back. -/
theorem readUnsigned?_magnitudeText (negative : Bool) (code : Fin magnitudeCount) (hr : Ends r) :
    readUnsigned? negative (magnitudeText code ++ r) =
      some (.float (.finite negative code), r) := by
  rw [magnitudeText]
  split
  · rename_i hzero
    have h := readUnsigned?_point negative (f := ['0']) (whole_toDigits 0)
      (List.forall_mem_singleton.2 rfl) (List.cons_ne_nil _ _) hr.noDigit hr.exponentPart
    have hcode : code = ⟨0, magnitudeCount_pos⟩ := Fin.ext hzero
    rw [show digitsValue (Nat.toDigits 10 0 ++ ['0']) = 0 from rfl, ofDecimal_zero] at h
    rw [hcode]
    exact h
  · rename_i hzero
    obtain ⟨hpos, hreads⟩ := ofDecimal_shortest code (Nat.pos_of_ne_zero hzero)
    -- The digits are taken as any others, which keeps them from being computed.
    generalize shortest code = decimal at hpos hreads ⊢
    obtain ⟨digits, exponent⟩ := decimal
    rw [← hreads negative]
    exact readUnsigned?_layout negative hpos hr

/-- A double reads back. -/
theorem readScalar?_float (x : Binary64) (hr : Ends r) :
    readScalar? ((floatText x).toList ++ r) = some (.float x, r) := by
  rw [floatText, String.toList_ofList]
  cases x with
  | nan => rfl
  | infinite negative => cases negative <;> rfl
  | finite negative code =>
    have h := readScalar?_of_readUnsigned? (readUnsigned?_magnitudeText negative code hr)
    rw [text]
    cases negative with
    | true => rwa [if_pos rfl] at h ⊢
    | false => rwa [if_neg Bool.false_ne_true] at h ⊢

/-- A name reads back. -/
theorem readScalar?_name {name : String} {j : Json} (h : (name, j) ∈ names) :
    readScalar? (name.toList ++ r) = some (j, r) := by
  simp only [names, List.mem_cons, Prod.mk.injEq, List.not_mem_nil, or_false] at h
  obtain ⟨rfl, rfl⟩ | ⟨rfl, rfl⟩ | ⟨rfl, rfl⟩ | ⟨rfl, rfl⟩ | ⟨rfl, rfl⟩ | ⟨rfl, rfl⟩ := h <;> rfl

end Json.Reader

end ShapeSum
