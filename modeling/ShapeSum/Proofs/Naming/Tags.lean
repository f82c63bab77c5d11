import ShapeSum.Naming.Tag
import ShapeSum.Text.Identifier
import ShapeSum.Union.Enumeration

/-!
# The shape of tags

Each token of a name is made of separators or has none, so the tokens that a tag is
joined from are all capitals and digits in the end.  A tag therefore starts with a
capital, or with an underscore before a digit, and ends with a capital or a digit.

Such a constant is an identifier, and the enumeration of tags has no use of its own
for it.  So only a tag that is set for the names that give none can be hidden or
reserved.
-/

namespace ShapeSum

/-- A tag that names a member of the enumeration of tags. -/
structure IsMemberTag (tag : String) : Prop where
  /-- It is not hidden. -/
  shown : isHiddenTag tag = false
  /-- It is not reserved. -/
  free : isReservedTag tag = false

instance (tag : String) : Decidable (IsMemberTag tag) :=
  decidable_of_iff (isHiddenTag tag = false ∧ isReservedTag tag = false)
    ⟨fun h => ⟨h.1, h.2⟩, fun h => ⟨h.shown, h.free⟩⟩

/-! ## Tokens -/

/-- A token that is not empty and is made of separators only, or of no separators. -/
structure IsToken (token : List Char) : Prop where
  /-- It is not empty. -/
  ne_nil : token ≠ []
  /-- A separator in it means that all are. -/
  uniform : isSeparatorToken token = true ∨ ∀ c ∈ token, tokenKind c ≠ .separator

theorem IsToken.singleton (c : Char) : IsToken [c] := by
  refine ⟨by simp, ?_⟩
  by_cases h : tokenKind c = .separator
  · exact .inl (by simp [isSeparatorToken, h])
  · exact .inr (by simpa using h)

/-- A character that joins a token is a separator exactly when the token is one of separators. -/
theorem IsToken.cons {c : Char} {token : List Char} (ht : IsToken token)
    (hj : joinsToken c token = true) : IsToken (c :: token) := by
  refine ⟨by simp, ?_⟩
  simp only [joinsToken, Bool.or_eq_true, Bool.and_eq_true, List.all_eq_true, beq_iff_eq] at hj
  obtain hsame | ⟨hcapital, hsmall⟩ := hj
  · obtain hseparators | hplain := ht.uniform
    · obtain ⟨d, rest, rfl⟩ := List.exists_cons_of_ne_nil ht.ne_nil
      have hd : tokenKind d = .separator := by
        simp only [isSeparatorToken, List.all_cons, Bool.and_eq_true, beq_iff_eq] at hseparators
        exact hseparators.1
      have hc : tokenKind c = .separator := (hsame d (by simp)).symm.trans hd
      exact .inl (by simp_all [isSeparatorToken])
    · refine .inr fun d hd => ?_
      obtain ⟨e, rest, rfl⟩ := List.exists_cons_of_ne_nil ht.ne_nil
      have hc : tokenKind c ≠ .separator := by
        rw [← hsame e (by simp)]
        exact hplain e (by simp)
      obtain rfl | hd := List.mem_cons.1 hd
      · exact hc
      · exact hplain d hd
  · refine .inr fun d hd => ?_
    obtain rfl | hd := List.mem_cons.1 hd
    · simp [hcapital]
    · simp [hsmall d hd]

theorem isToken_of_mem_tokens (name : List Char) : ∀ t ∈ tokens name, IsToken t := by
  induction name with
  | nil => simp [tokens]
  | cons c rest ih =>
    simp only [tokens, List.foldr_cons] at ih ⊢
    generalize List.foldr pushToken [] rest = ts at ih ⊢
    cases ts with
    | nil => simpa [pushToken] using IsToken.singleton c
    | cons t ts =>
      obtain ⟨ht, hts⟩ := List.forall_mem_cons.1 ih
      simp only [pushToken]
      split
      · rename_i hj
        exact List.forall_mem_cons.2 ⟨ht.cons hj, hts⟩
      · exact List.forall_mem_cons.2 ⟨.singleton c, ih⟩

/-! ## Constants -/

/-- A capital or a digit. -/
def isTagLetter (c : Char) : Bool := c.isUpper || c.isDigit

theorem isUpper_iff {c : Char} : c.isUpper = true ↔ 65 ≤ c.toNat ∧ c.toNat ≤ 90 :=
  decide_eq_true_iff.trans (and_congr UInt32.le_iff_toNat_le UInt32.le_iff_toNat_le)

theorem isLower_iff {c : Char} : c.isLower = true ↔ 97 ≤ c.toNat ∧ c.toNat ≤ 122 :=
  Bool.and_eq_true_iff.trans <| and_congr (decide_eq_true_iff.trans UInt32.le_iff_toNat_le)
    (decide_eq_true_iff.trans UInt32.le_iff_toNat_le)

/-- The capital of a small letter is 32 characters before it. -/
theorem toNat_toUpper {c : Char} (h : c.isLower = true) : c.toUpper.toNat + 32 = c.toNat := by
  have hc := isLower_iff.1 h
  have hval : c.toUpper.val = c.val + ('A'.val - 'a'.val) := by
    delta Char.toUpper
    rw [dif_pos ⟨UInt32.le_iff_toNat_le.2 hc.1, UInt32.le_iff_toNat_le.2 hc.2⟩]
  have hbound : c.val.toNat < 2 ^ 32 := c.val.toNat_lt
  have hshift : ('A'.val - 'a'.val).toNat = 2 ^ 32 - 32 := by decide
  rw [Char.toNat, hval, UInt32.toNat_add, hshift]
  change 97 ≤ c.val.toNat ∧ _ at hc
  change _ = c.val.toNat
  omega

theorem isUpper_toUpper {c : Char} (h : c.isLower = true) : c.toUpper.isUpper = true := by
  have hc := isLower_iff.1 h
  have hshift := toNat_toUpper h
  rw [isUpper_iff]
  omega

theorem toUpper_of_not_isLower {c : Char} (h : c.isLower = false) : c.toUpper = c := by
  refine dif_neg fun hc => Bool.eq_false_iff.1 h (isLower_iff.2 ?_)
  exact ⟨UInt32.le_iff_toNat_le.1 hc.1, UInt32.le_iff_toNat_le.1 hc.2⟩

/-- In capitals, a character that is no separator is a capital or a digit. -/
theorem isTagLetter_toUpper {c : Char} (h : tokenKind c ≠ .separator) :
    isTagLetter c.toUpper = true := by
  cases hl : c.isLower with
  | true => simp [isTagLetter, isUpper_toUpper hl]
  | false =>
    rw [toUpper_of_not_isLower hl]
    simp only [tokenKind, hl] at h
    grind [isTagLetter]

theorem isLower_of_isTagLetter {c : Char} (h : isTagLetter c = true) : c.isLower = false := by
  have hzero : '0'.toNat = 48 := rfl
  have hnine : '9'.toNat = 57 := rfl
  simp only [isTagLetter, isUpper_iff, Char.isDigit_iff_toNat, Bool.or_eq_true] at h
  rw [Bool.eq_false_iff, ne_eq, isLower_iff]
  omega

/-- Words of capitals and digits with underscores between them. -/
structure IsJoined (cs : List Char) : Prop where
  /-- There are no other characters. -/
  chars : ∀ c ∈ cs, isTagLetter c = true ∨ c = '_'
  /-- It starts with a capital or a digit. -/
  first : ∃ c, cs.head? = some c ∧ isTagLetter c = true
  /-- It ends with a capital or a digit. -/
  last : ∃ c, cs.getLast? = some c ∧ isTagLetter c = true

theorem IsJoined.word {token : List Char} (ht : token ≠ [])
    (hchars : ∀ c ∈ token, tokenKind c ≠ .separator) : IsJoined (token.map Char.toUpper) := by
  have hall (c : Char) (hc : c ∈ token) : isTagLetter c.toUpper = true :=
    isTagLetter_toUpper (hchars c hc)
  refine ⟨by simpa using fun c hc => .inl (hall c hc), ?_, ?_⟩
  · exact ⟨_, by simp [List.head?_eq_some_head ht], hall _ (List.head_mem ht)⟩
  · exact ⟨_, by simp [List.getLast?_eq_some_getLast ht], hall _ (List.getLast_mem ht)⟩

theorem IsJoined.append {a b : List Char} (ha : IsJoined a) (hb : IsJoined b) :
    IsJoined (a ++ '_' :: b) := by
  obtain ⟨c, hc, hfirst⟩ := ha.first
  obtain ⟨d, hd, hlast⟩ := hb.last
  refine ⟨fun e he => ?_, ⟨c, by simp [hc], hfirst⟩, ⟨d, by simp [List.getLast?_cons, hd], hlast⟩⟩
  simp only [List.mem_append, List.mem_cons] at he
  obtain he | rfl | he := he
  · exact ha.chars e he
  · exact .inr rfl
  · exact hb.chars e he

theorem isJoined_joinTokens {ts : List (List Char)} (hne : ts ≠ [])
    (h : ∀ t ∈ ts, t ≠ [] ∧ ∀ c ∈ t, tokenKind c ≠ .separator) : IsJoined (joinTokens ts) := by
  induction ts with
  | nil => contradiction
  | cons t ts ih =>
    obtain ⟨ht, hts⟩ := List.forall_mem_cons.1 h
    cases ts with
    | nil => exact .word ht.1 ht.2
    | cons u us => exact .append (.word ht.1 ht.2) (ih (by simp) hts)

/-- A constant: joined words, with an underscore in front of a digit. -/
inductive IsConstant : List Char → Prop
  /-- One that starts with a capital. -/
  | capital {c : Char} {rest : List Char} :
    c.isUpper = true → IsJoined (c :: rest) → IsConstant (c :: rest)
  /-- One that starts with an underscore. -/
  | digit {c : Char} {rest : List Char} :
    c.isDigit = true → IsJoined (c :: rest) → IsConstant ('_' :: c :: rest)

/-- The characters of a tag make a constant, if there are any. -/
theorem isConstant_tagChars (name : List Char) :
    tagChars name = [] ∨ IsConstant (tagChars name) := by
  simp only [tagChars]
  generalize hts : (tokens name).filter (!isSeparatorToken ·) = ts
  have hwords : ∀ t ∈ ts, t ≠ [] ∧ ∀ c ∈ t, tokenKind c ≠ .separator := by
    intro t ht
    simp only [← hts, List.mem_filter, Bool.not_eq_true'] at ht
    have htoken := isToken_of_mem_tokens name t ht.1
    exact ⟨htoken.ne_nil, htoken.uniform.resolve_left (by simp [ht.2])⟩
  cases ts with
  | nil => exact .inl rfl
  | cons t ts =>
    have hjoined := isJoined_joinTokens (by simp) hwords
    generalize joinTokens (t :: ts) = cs at hjoined
    cases cs with
    | nil => exact .inl rfl
    | cons c rest =>
      obtain ⟨c', hc, hletter⟩ := hjoined.first
      obtain rfl : c = c' := by simpa using hc
      cases hd : c.isDigit with
      | true => exact .inr (by simpa [hd] using .digit hd hjoined)
      | false =>
        have hu : c.isUpper = true := by simpa [isTagLetter, hd] using hletter
        exact .inr (by simpa [hd] using .capital hu hjoined)

theorem IsConstant.chars {cs : List Char} (h : IsConstant cs) :
    ∀ c ∈ cs, isTagLetter c = true ∨ c = '_' := by
  cases h with
  | capital _ hj => exact hj.chars
  | digit _ hj => exact List.forall_mem_cons.2 ⟨.inr rfl, hj.chars⟩

theorem IsConstant.getLast? {cs : List Char} (h : IsConstant cs) : cs.getLast? ≠ some '_' := by
  have hlast : ∃ c, cs.getLast? = some c ∧ isTagLetter c = true := by
    cases h with
    | capital _ hj => exact hj.last
    | digit _ hj =>
      obtain ⟨c, hc, hl⟩ := hj.last
      exact ⟨c, by simp [List.getLast?_cons, hc], hl⟩
  obtain ⟨c, hc, hl⟩ := hlast
  rintro h'
  obtain rfl : c = '_' := by simpa [hc] using h'
  exact absurd hl (by decide)

/-! ## Tags as identifiers -/

namespace Text

theorem isIdentifierStart_of_isAlpha {c : Char} (h : c.isAlpha = true) :
    isIdentifierStart c = true := by
  have hbound : c.toNat ≤ 122 := by
    obtain hupper | hlower := Bool.or_eq_true_iff.1 h
    · exact Nat.le_trans (isUpper_iff.1 hupper).2 (by decide)
    · exact (isLower_iff.1 hlower).2
  have hbarred : barredStarts.has c = false := by
    simp only [barredStarts, Ranges.has_cons, Ranges.has_nil, Bool.or_false, Bool.or_eq_false_iff,
      decide_eq_false_iff_not]
    omega
  simp [isIdentifierStart, isLetter_of_isAlpha c h, hbarred]

theorem isIdentifierStart_of_isUpper {c : Char} (h : c.isUpper = true) :
    isIdentifierStart c = true :=
  isIdentifierStart_of_isAlpha (Bool.or_eq_true_iff.2 (.inl h))

theorem isDecimal_of_isDigit {c : Char} (h : c.isDigit = true) : isDecimal c = true := by
  have hbound : 48 ≤ c.toNat ∧ c.toNat ≤ 57 := by
    simpa [Char.isDigit, UInt32.le_iff_toNat_le] using h
  simp only [isDecimal, decimalValue?, zeros, Option.isSome_map, List.find?_isSome]
  exact ⟨0x30, by simp, by simp; omega⟩

theorem isIdentifierContinuation_of_isTagLetter {c : Char} (h : isTagLetter c = true ∨ c = '_') :
    isIdentifierContinuation c = true := by
  obtain h | rfl := h
  · simp only [isTagLetter, Bool.or_eq_true] at h
    obtain h | h := h
    · simp [isIdentifierContinuation, isIdentifierStart_of_isUpper h]
    · simp [isIdentifierContinuation, isDecimal_of_isDigit h]
  · decide

end Text

theorem IsConstant.isIdentifier {cs : List Char} (h : IsConstant cs) :
    Text.isIdentifier cs = true := by
  have hall {rest : List Char} (hrest : ∀ c ∈ rest, isTagLetter c = true ∨ c = '_') :
      rest.all Text.isIdentifierContinuation = true :=
    List.all_eq_true.2 fun c hc => Text.isIdentifierContinuation_of_isTagLetter (hrest c hc)
  cases h with
  | capital hc hj =>
    simp [Text.isIdentifier, Text.isIdentifierStart_of_isUpper hc,
      hall (List.forall_mem_cons.1 hj.chars).2]
  | digit hc hj =>
    simp only [Text.isIdentifier, Bool.and_eq_true]
    exact ⟨by decide, hall hj.chars⟩

/-- A tag is an identifier when the one that is set for names that give none is. -/
theorem isIdentifier_tagFor (typeName : String) {empty : String}
    (h : Text.isIdentifier empty.toList = true) :
    Text.isIdentifier (tagFor typeName empty).toList = true := by
  obtain hnil | hconstant := isConstant_tagChars typeName.toList
  · simpa [tagFor, hnil] using h
  · cases hcs : tagChars typeName.toList with
    | nil => simpa [tagFor, hcs] using h
    | cons c rest => simpa [tagFor, hcs] using hcs ▸ hconstant.isIdentifier

/-! ## Tags as members of the enumeration -/

theorem getLast?_of_isSuffixOf {s : List Char} (h : ['_', '_'].isSuffixOf s = true) :
    s.getLast? = some '_' := by
  obtain ⟨t, rfl⟩ := List.isSuffixOf_iff_suffix.1 h
  simp [List.getLast?_append]

/-- A tag with no small letter in it and no underscore at its end names a member. -/
theorem isMemberTag_of_getLast? {tag : String} (hchars : ∀ c ∈ tag.toList, c.isLower = false)
    (hlast : tag.toList.getLast? ≠ some '_') : IsMemberTag tag := by
  have hsuffix : ['_', '_'].isSuffixOf tag.toList = false := by
    rw [Bool.eq_false_iff]
    exact fun h => hlast (getLast?_of_isSuffixOf h)
  have hmark : ['_', 'T', 'a', 'g', '_', '_'].isPrefixOf tag.toList = false := by
    rw [Bool.eq_false_iff]
    intro h
    obtain ⟨rest, hrest⟩ := List.isPrefixOf_iff_prefix.1 h
    exact absurd (hchars 'a' (by rw [← hrest]; simp)) (by decide)
  have hsetting : tag ∉ enumerationSettings := by
    intro h
    have hall : ∀ s ∈ enumerationSettings, s.toList.getLast? = some '_' := by decide
    exact hlast (hall tag h)
  have hmro : tag ≠ "mro" := by
    rintro rfl
    exact absurd (hchars 'm' (by simp)) (by decide)
  constructor
  · simp [isHiddenTag, hsuffix, hmark, hsetting]
  · simp [isReservedTag, hmro, hlast]

theorem IsConstant.isMemberTag {tag : String} (h : IsConstant tag.toList) : IsMemberTag tag := by
  refine isMemberTag_of_getLast? (fun c hc => ?_) h.getLast?
  obtain hletter | rfl := h.chars c hc
  · exact isLower_of_isTagLetter hletter
  · decide

/-- Only a tag that is set for the names that give none can fail to name a member. -/
theorem isMemberTag_tagFor_iff (typeName empty : String) : IsMemberTag (tagFor typeName empty) ↔
    tagChars typeName.toList ≠ [] ∨ IsMemberTag empty := by
  have hshape := isConstant_tagChars typeName.toList
  unfold tagFor
  cases hcs : tagChars typeName.toList with
  | nil => simp
  | cons c rest =>
    have hconstant : IsConstant (String.ofList (c :: rest)).toList := by
      simpa [hcs] using hshape
    simpa using hconstant.isMemberTag

end ShapeSum
