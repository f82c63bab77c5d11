import ShapeSum.Proofs.Naming.Tags
import ShapeSum.Proofs.Naming.Unique
import ShapeSum.Proofs.Run

/-!
# The names of types

The candidate for a type name is made of ASCII word characters and does not start with
a digit, so it is an identifier (`isPlainName_typeName`).  It does not start with a small
letter either, unless affixes without a word stand around it.  So the reserved words that
it can be are `False`, `None` and `True` (`OpensLarge.isReserved_iff`).

A candidate that is taken gets as few separators behind as make it free
(`exists_uniqueName_eq`).  Any word character will do for a separator, and some of them do
not go on an identifier, such as superscripts.  Nothing keeps a name from being reserved,
neither as a candidate nor with separators behind it.  `Namer.Settles` says which names can
name a class all the same.
-/

namespace ShapeSum

/-! ## Capitals -/

namespace Text

theorem toNat_ofNat (n : Nat) : (Char.ofNat n).toNat = n ∨ (Char.ofNat n).toNat = 0 := by
  by_cases h : n.isValidChar
  · left
    rw [Char.ofNat, dif_pos h]
    rfl
  · right
    rw [Char.ofNat, dif_neg h]
    rfl

/-- A run takes every small letter to a capital, and no run leads to a small letter. -/
theorem isLower_map_capitalRuns (c : Char) : (CaseRun.map capitalRuns c).isLower = false := by
  have haway : ∀ r ∈ capitalRuns,
      (r.last : Int) + r.distance < 97 ∨ 122 < (r.first : Int) + r.distance := by decide +kernel
  have hletters : (⟨0x61, 0x7A, 1, -32⟩ : CaseRun) ∈ capitalRuns := List.mem_cons_self
  rw [Bool.eq_false_iff, ne_eq, isLower_iff]
  unfold CaseRun.map
  cases hfind : capitalRuns.find? (·.has c.toNat) with
  | none =>
    have hnot := List.find?_eq_none.1 hfind _ hletters
    simp only [CaseRun.has, decide_eq_true_eq] at hnot
    dsimp only
    omega
  | some r =>
    have hhas := List.find?_some hfind
    have hr := haway r (List.mem_of_find?_eq_some hfind)
    have hto := toNat_ofNat ((c.toNat : Int) + r.distance).toNat
    simp only [CaseRun.has, decide_eq_true_eq] at hhas
    dsimp only
    omega

/-- A text does not start with a small ASCII letter. -/
def OpensLarge (s : List Char) : Prop := ∀ c, s.head? = some c → c.isLower = false

theorem capital_ne_nil (c : Char) : capital c ≠ [] := by
  have hlong : ∀ e ∈ longCapitals, e.2.map Char.ofNat ≠ [] := by decide +kernel
  unfold capital
  split
  · rename_i e hfind
    exact hlong e (List.mem_of_find?_eq_some hfind)
  · exact List.cons_ne_nil _ _

theorem opensLarge_capital (c : Char) : OpensLarge (capital c) := by
  have hlong : ∀ e ∈ longCapitals, ((e.2.map Char.ofNat).head?.any Char.isLower) = false := by
    decide +kernel
  intro d hd
  unfold capital at hd
  split at hd
  · rename_i e hfind
    have he := hlong e (List.mem_of_find?_eq_some hfind)
    rw [hd] at he
    exact he
  · obtain rfl : _ = d := Option.some.inj hd
    exact isLower_map_capitalRuns c

theorem OpensLarge.append {s : List Char} (hs : OpensLarge s) (hne : s ≠ []) (t : List Char) :
    OpensLarge (s ++ t) := by
  obtain ⟨c, rest, rfl⟩ := List.exists_cons_of_ne_nil hne
  exact hs

theorem opensLarge_capitalize (s : List Char) : OpensLarge (capitalize s) := by
  cases s with
  | nil => exact fun c hc => nomatch hc
  | cons c rest => exact (opensLarge_capital c).append (capital_ne_nil c) rest

theorem capitalize_ne_nil {s : List Char} (h : s ≠ []) : capitalize s ≠ [] := by
  cases s with
  | nil => contradiction
  | cons c rest => exact List.append_ne_nil_of_left_ne_nil (capital_ne_nil c) _

/-! ## Class names -/

/-- Whether a text may name a class: an identifier that is not reserved. -/
def isClassName (s : List Char) : Bool := isIdentifier s && !isReserved s

/-- The reserved words that do not start with a small letter. -/
def reservedConstants : List String := ["False", "None", "True"]

/-- Of the reserved words only three do not start with a small letter. -/
theorem OpensLarge.isReserved_iff {s : List Char} (h : OpensLarge s) :
    isReserved s = true ↔ String.ofList s ∈ reservedConstants := by
  have hopen : ∀ w ∈ reservedWords,
      w ∈ reservedConstants ∨ w.toList.head?.any Char.isLower = true := by decide +kernel
  have hreserved : ∀ w ∈ reservedConstants, w ∈ reservedWords := by decide +kernel
  simp only [isReserved, List.any_eq_true, beq_iff_eq]
  constructor
  · rintro ⟨w, hw, rfl⟩
    rw [String.ofList_toList]
    refine (hopen w hw).resolve_right fun hsmall => ?_
    obtain ⟨c, hc, hlower⟩ := (Option.any_eq_true _ _).1 hsmall
    rw [h c hc] at hlower
    cases hlower
  · exact fun hs => ⟨_, hreserved _ hs, String.toList_ofList⟩

theorem isIdentifierStart_of_isPlainWord {c : Char} (h : isPlainWord c = true)
    (hd : isDigit c = false) : isIdentifierStart c = true := by
  simp only [isPlainWord, Char.isAlphanum, Bool.or_eq_true, beq_iff_eq] at h
  obtain (halpha | hdigit) | rfl := h
  · exact isIdentifierStart_of_isAlpha halpha
  · simp [isDigit, isDecimal_of_isDigit hdigit] at hd
  · decide

theorem isIdentifierContinuation_of_isPlainWord {c : Char} (h : isPlainWord c = true) :
    isIdentifierContinuation c = true := by
  cases hd : isDigit c with
  | false => simp [isIdentifierContinuation, isIdentifierStart_of_isPlainWord h hd]
  | true =>
    simp only [isPlainWord, Char.isAlphanum, Bool.or_eq_true, beq_iff_eq] at h
    obtain (halpha | hdigit) | rfl := h
    · simp [isIdentifierContinuation, isIdentifierStart_of_isAlpha halpha]
    · simp [isIdentifierContinuation, isDecimal_of_isDigit hdigit]
    · decide

/-- Text behind an identifier goes on it when all its characters may. -/
theorem isIdentifier_append {s : List Char} (h : isIdentifier s = true) (t : List Char) :
    isIdentifier (s ++ t) = true ↔ ∀ c ∈ t, isIdentifierContinuation c = true := by
  cases s with
  | nil => cases h
  | cons c rest =>
    simp only [isIdentifier, Bool.and_eq_true] at h
    rw [List.cons_append, isIdentifier, List.all_append, h.1, h.2, Bool.true_and, Bool.true_and,
      List.all_eq_true]

end Text

open Text

/-! ## Candidates -/

/-- A text of ASCII word characters that does not start with a digit and is not empty. -/
structure IsPlainName (s : List Char) : Prop where
  /-- There are no other characters. -/
  chars : ∀ c ∈ s, isPlainWord c = true
  /-- It has a first character, and this is no digit. -/
  first : ∃ c, s.head? = some c ∧ isDigit c = false

theorem IsPlainName.isIdentifier {s : List Char} (h : IsPlainName s) :
    Text.isIdentifier s = true := by
  obtain ⟨c, hc, hd⟩ := h.first
  cases s with
  | nil => cases hc
  | cons c' rest =>
    obtain rfl : c' = c := Option.some.inj hc
    obtain ⟨hplain, hrest⟩ := List.forall_mem_cons.1 h.chars
    simp only [Text.isIdentifier, Bool.and_eq_true, List.all_eq_true]
    exact ⟨isIdentifierStart_of_isPlainWord hplain hd,
      fun d hd => isIdentifierContinuation_of_isPlainWord (hrest d hd)⟩

namespace NamingPolicy

/-- A text has words unless it is made of delimiters. -/
theorem words_eq_nil_iff (isDelimiter : Char → Bool) (s : List Char) :
    words isDelimiter s = [] ↔ ∀ c ∈ s, isDelimiter c = true := by
  unfold words
  induction s with
  | nil => simp
  | cons c rest ih =>
    rw [List.foldr_cons, List.forall_mem_cons, ← ih]
    generalize List.foldr _ [[]] rest = ws
    cases hc : isDelimiter c with
    | true => simp
    | false => cases ws <;> simp

theorem ne_nil_of_mem_words {isDelimiter : Char → Bool} {s w : List Char}
    (h : w ∈ words isDelimiter s) : w ≠ [] := by
  simpa using (List.mem_filter.1 h).2

/-- The policy finds a word in a text: it has delimiters, and the text is not made of them. -/
def FindsWord (p : NamingPolicy) (s : List Char) : Prop :=
  p.delimiters ≠ "" ∧ ∃ c ∈ s, c ∉ p.delimiters.toList

/-- A text with its words joined starts with a capital where it did, and where there is a word. -/
theorem opensLarge_joinWords {p : NamingPolicy} {s : List Char}
    (h : OpensLarge s ∨ p.FindsWord s) : OpensLarge (p.joinWords s) := by
  unfold joinWords
  split
  · rename_i hnone
    exact h.resolve_right fun hword => hword.1 (by simpa using hnone)
  · cases hwords : words p.delimiters.toList.contains s with
    | nil =>
      refine h.resolve_right fun ⟨_, c, hc, hnot⟩ => hnot ?_
      simpa using (words_eq_nil_iff _ s).1 hwords c hc
    | cons w ws =>
      have hw : w ≠ [] := ne_nil_of_mem_words (hwords ▸ List.mem_cons_self)
      exact (opensLarge_capitalize w).append (capitalize_ne_nil hw) _

theorem opensLarge_plainWord {s : List Char} (h : OpensLarge s) : OpensLarge (plainWord s) := by
  cases s with
  | nil => exact h
  | cons c rest =>
    intro d hd
    obtain rfl : (if isPlainWord c then c else '_') = d := Option.some.inj hd
    split
    · exact h c rfl
    · decide

theorem guardStart_cons (c : Char) (rest : List Char) :
    guardStart (c :: rest) = if isDigit c then '_' :: c :: rest else c :: rest := rfl

theorem opensLarge_guardStart {s : List Char} (h : OpensLarge s) : OpensLarge (guardStart s) := by
  have hunderscore (t : List Char) : OpensLarge ('_' :: t) := by
    rintro _ ⟨⟩
    decide
  cases s with
  | nil => exact hunderscore []
  | cons c rest =>
    rw [guardStart_cons]
    split
    · exact hunderscore _
    · exact h

theorem isPlainWord_of_mem_plainWord {s : List Char} {c : Char} (h : c ∈ plainWord s) :
    isPlainWord c = true := by
  obtain ⟨d, -, rfl⟩ := List.mem_map.1 h
  split
  · assumption
  · decide

theorem isPlainName_guardStart {s : List Char} (h : ∀ c ∈ s, isPlainWord c = true) :
    IsPlainName (guardStart s) := by
  have hunderscore {t : List Char} (ht : ∀ c ∈ t, isPlainWord c = true) :
      IsPlainName ('_' :: t) :=
    ⟨List.forall_mem_cons.2 ⟨by decide, ht⟩, '_', rfl, by decide +kernel⟩
  cases s with
  | nil => exact hunderscore h
  | cons c rest =>
    rw [guardStart_cons]
    split
    · exact hunderscore h
    · rename_i hd
      exact ⟨h, c, rfl, Bool.eq_false_iff.2 hd⟩

/-- The text that the words of a type name are found in. -/
def unjoined (p : NamingPolicy) (affixed : Bool) (raw : String) : List Char :=
  if affixed then p.affix (capitalize raw.toList) else capitalize raw.toList

theorem typeName_eq (p : NamingPolicy) (raw : String) (affixed : Bool) :
    p.typeName raw affixed =
      String.ofList (guardStart (plainWord (p.joinWords (p.unjoined affixed raw)))) := rfl

/-- Every candidate is an identifier of ASCII word characters. -/
theorem isPlainName_typeName (p : NamingPolicy) (raw : String) (affixed : Bool) :
    IsPlainName (p.typeName raw affixed).toList := by
  rw [typeName_eq, String.toList_ofList]
  exact isPlainName_guardStart fun _ hc => isPlainWord_of_mem_plainWord hc

/-- A candidate starts with no small letter where the text without its words joined does not, and
where that has a word. -/
theorem opensLarge_typeName {p : NamingPolicy} {raw : String} {affixed : Bool}
    (h : OpensLarge (p.unjoined affixed raw) ∨ p.FindsWord (p.unjoined affixed raw)) :
    OpensLarge (p.typeName raw affixed).toList := by
  rw [typeName_eq, String.toList_ofList]
  exact opensLarge_guardStart (opensLarge_plainWord (opensLarge_joinWords h))

end NamingPolicy

/-! ## Separators -/

/-- A candidate with a number of separators behind. -/
def lengthened (candidate separator : String) (k : Nat) : String :=
  String.ofList (candidate.toList ++ (List.replicate k separator.toList).flatten)

theorem lengthened_zero (candidate separator : String) :
    lengthened candidate separator 0 = candidate := by
  simp [lengthened]

theorem lengthened_append (candidate separator : String) (k : Nat) :
    lengthened (candidate ++ separator) separator k = lengthened candidate separator (k + 1) := by
  simp [lengthened, List.replicate_succ]

/-- A number of separators is the least that makes a candidate differ from every declared name,
whatever the case of letters. -/
structure FewestSeparators (candidate separator : String) (declared : List String) (k : Nat) :
    Prop where
  /-- With so many separators it is free. -/
  free : ∀ d ∈ declared, lower (lengthened candidate separator k) ≠ lower d
  /-- With fewer it is taken. -/
  taken : ∀ j < k, ∃ d ∈ declared, lower (lengthened candidate separator j) = lower d

/-- A search puts a separator behind a name as often as it meets a key that is taken. -/
theorem IsSearch.exists_eq_lengthened {key : String → String} {taken : List String}
    {separator : String} {search : Nat → String → String}
    (h : IsSearch key taken separator search) (tries : Nat) (name : String) :
    ∃ k ≤ tries, search tries name = lengthened name separator k ∧
      ∀ j < k, key (lengthened name separator j) ∈ taken := by
  induction tries generalizing name with
  | zero =>
    exact ⟨0, Nat.le_refl _, (h.zero name).trans (lengthened_zero ..).symm, fun _ hj => nomatch hj⟩
  | succ tries ih =>
    rw [h.succ]
    split
    · rename_i htaken
      obtain ⟨k, hk, heq, hbelow⟩ := ih (name ++ separator)
      refine ⟨k + 1, Nat.succ_le_succ hk, heq.trans (lengthened_append ..), fun j hj => ?_⟩
      cases j with
      | zero => simpa [lengthened_zero] using htaken
      | succ j =>
        rw [← lengthened_append]
        exact hbelow j (Nat.lt_of_succ_lt_succ hj)
    · exact ⟨0, Nat.zero_le _, (lengthened_zero ..).symm, fun _ hj => nomatch hj⟩

/-- A unique name is the candidate with the fewest separators that make it free, at most one for
each declared name. -/
theorem exists_uniqueName_eq {separator : String} (hsep : Config.isSeparator separator = true)
    (candidate : String) (declared : List String) :
    ∃ k ≤ declared.length, FewestSeparators candidate separator declared k ∧
      uniqueName candidate declared separator = lengthened candidate separator k := by
  obtain ⟨k, hk, heq, hbelow⟩ := (isSearch_firstFree (declared.map lower)
    separator).exists_eq_lengthened declared.length candidate
  have hfree := uniqueName_free hsep candidate declared
  rw [uniqueName, heq] at hfree
  refine ⟨k, hk, ⟨fun d hd he => hfree ?_, fun j hj => ?_⟩, heq⟩
  · rw [he]
    exact List.mem_map_of_mem hd
  · obtain ⟨d, hd, he⟩ := List.mem_map.1 (hbelow j hj)
    exact ⟨d, hd, he.symm⟩

/-! ## Names -/

/-- A separator goes on an identifier. -/
def Namer.Continues (n : Namer) : Prop :=
  ∀ c ∈ n.separator.toList, isIdentifierContinuation c = true

/-- A name that the namer gives for a candidate among declared names, where `barred` are the
reserved words that it could be. -/
structure Namer.Settles (n : Namer) (candidate : String) (declared barred : List String)
    (name : String) : Prop where
  /-- The candidate is made of ASCII word characters and does not start with a digit. -/
  plain : IsPlainName candidate.toList
  /-- The name is the candidate with the fewest separators that make it free, at most one for each
  declared name. -/
  fewest : ∃ k ≤ declared.length, FewestSeparators candidate n.separator declared k ∧
    name = lengthened candidate n.separator k
  /-- It may name a class unless a separator does not go on an identifier or the name is one of the
  barred ones. -/
  legal : isClassName name.toList = true ↔ (name = candidate ∨ n.Continues) ∧ name ∉ barred

theorem isReserved_iff_mem (name : String) :
    isReserved name.toList = true ↔ name ∈ reservedWords := by
  simp [isReserved, List.any_eq_true, beq_iff_eq, String.toList_inj]

/-- A name lengthened by separators that are not empty is an identifier when it has none, and
when they go on identifiers. -/
theorem isIdentifier_lengthened_iff {candidate separator : String}
    (h : isIdentifier candidate.toList = true) (hsep : separator ≠ "") (k : Nat) :
    isIdentifier (lengthened candidate separator k).toList = true ↔
      lengthened candidate separator k = candidate ∨
        ∀ c ∈ separator.toList, isIdentifierContinuation c = true := by
  rw [lengthened, String.toList_ofList, isIdentifier_append h]
  cases k with
  | zero => simp
  | succ k =>
    simp [hsep, List.mem_flatten, List.mem_replicate]

namespace Namer

variable {n : Namer}

theorem settles_uniqueName (hsep : Config.isSeparator n.separator = true) {candidate : String}
    (hplain : IsPlainName candidate.toList) {barred : List String}
    (hbarred : ∀ k, isReserved (lengthened candidate n.separator k).toList = true ↔
      lengthened candidate n.separator k ∈ barred) (declared : List String) :
    n.Settles candidate declared barred (uniqueName candidate declared n.separator) := by
  obtain ⟨k, hk, hfewest, heq⟩ := exists_uniqueName_eq hsep candidate declared
  have hne : n.separator ≠ "" := by
    rintro he
    rw [he] at hsep
    cases hsep
  refine ⟨hplain, ⟨k, hk, hfewest, heq⟩, ?_⟩
  rw [heq, isClassName, Bool.and_eq_true, Bool.not_eq_true', ← Bool.not_eq_true, hbarred,
    isIdentifier_lengthened_iff hplain.isIdentifier hne]
  rfl

/-- A name for a candidate may be any reserved word. -/
theorem settles_typeName (hsep : Config.isSeparator n.separator = true) (p : NamingPolicy)
    (raw : String) (affixed : Bool) (declared : List String) :
    n.Settles (p.typeName raw affixed) declared reservedWords
      (uniqueName (p.typeName raw affixed) declared n.separator) :=
  settles_uniqueName hsep (p.isPlainName_typeName raw affixed)
    (fun _ => isReserved_iff_mem _) declared

/-- A name for a candidate that does not start with a small letter may be one of three reserved
words. -/
theorem settles_typeName_of_opensLarge (hsep : Config.isSeparator n.separator = true)
    (p : NamingPolicy) (raw : String) (affixed : Bool)
    (h : OpensLarge (p.unjoined affixed raw) ∨ p.FindsWord (p.unjoined affixed raw))
    (declared : List String) :
    n.Settles (p.typeName raw affixed) declared reservedConstants
      (uniqueName (p.typeName raw affixed) declared n.separator) := by
  have hplain := p.isPlainName_typeName raw affixed
  have hne : (p.typeName raw affixed).toList ≠ [] := by
    obtain ⟨c, hc, -⟩ := hplain.first
    rintro he
    rw [he] at hc
    cases hc
  refine settles_uniqueName hsep hplain (fun k => ?_) declared
  rw [lengthened, String.toList_ofList]
  exact ((NamingPolicy.opensLarge_typeName h).append hne _).isReserved_iff

/-- The names for references, for branches that are written in place and for unions. -/
theorem settles_names (n : Namer) (hsep : Config.isSeparator n.separator = true)
    (declared : List String) :
    (∀ ref fault, referenceName ref = .error fault →
      n.forReference ref declared = .error fault) ∧
    (∀ ref raw, referenceName ref = .ok raw → ∃ name, n.forReference ref declared = .ok name ∧
      n.Settles (n.policy.typeName (if raw.isEmpty then "Root" else raw)) declared
        reservedConstants name) ∧
    (∀ base index, n.Settles (n.policy.typeName (base ++ toString index)) declared
      reservedConstants (n.forInline base index declared)) ∧
    (∀ base, n.Settles (n.policy.typeName base true) declared reservedWords
      (n.forUnion base declared)) ∧
    ∀ base, OpensLarge (n.policy.affix (capitalize base.toList)) ∨
        n.policy.FindsWord (n.policy.affix (capitalize base.toList)) →
      n.Settles (n.policy.typeName base true) declared reservedConstants
        (n.forUnion base declared) := by
  have hplain (raw : String) := settles_typeName_of_opensLarge hsep n.policy raw false
    (.inl (opensLarge_capitalize raw.toList)) declared
  refine ⟨fun ref fault h => ?_, fun ref raw h => ?_, fun base index => hplain _,
    fun base => settles_typeName hsep n.policy base true declared,
    fun base h => settles_typeName_of_opensLarge hsep n.policy base true h declared⟩
  · rw [forReference, h]
    rfl
  · exact ⟨_, by rw [forReference, h]; rfl, hplain _⟩

/-- A namer that puts affixes around the names of unions. -/
def affixing : Namer := ⟨{ before := some "Gen", after := some "Union" }, "_"⟩

/-- A union and a reference are named among names that differ in the case of letters only. -/
theorem settles_names_affixing : Config.isSeparator affixing.separator = true ∧
    referenceName "#/definitions/dog" = .ok "dog" ∧
    affixing.policy.FindsWord (affixing.policy.affix (capitalize "pet".toList)) ∧
    (∃ name, affixing.forReference "#/definitions/dog" ["DOG", "genPETunion"] = .ok name ∧
      affixing.Settles (affixing.policy.typeName "dog") ["DOG", "genPETunion"] reservedConstants
        name) ∧
    affixing.Settles (affixing.policy.typeName "pet" true) ["DOG", "genPETunion"]
      reservedConstants "GenPetUnion_" := by
  have hsep : Config.isSeparator affixing.separator = true := by decide +kernel
  have href : referenceName "#/definitions/dog" = .ok "dog" :=
    eq_ok_of_toOption (by decide +kernel)
  have hunion : affixing.forUnion "pet" ["DOG", "genPETunion"] = "GenPetUnion_" := by
    decide +kernel
  have hword : affixing.policy.FindsWord (affixing.policy.affix (capitalize "pet".toList)) :=
    ⟨by decide, 'G', by decide +kernel, by decide⟩
  obtain ⟨-, hnames, -, -, hunions⟩ := settles_names affixing hsep ["DOG", "genPETunion"]
  have hpet := hunions "pet" (.inr hword)
  rw [hunion] at hpet
  have hdog := hnames _ _ href
  rw [if_neg (by decide)] at hdog
  exact ⟨hsep, href, hword, hdog, hpet⟩

/-- A reference to `none` gives the name of a constant, separators can make one up, and with a
superscript behind, a name that is taken is no identifier. -/
theorem exists_not_isClassName :
    (forReference ⟨{}, "_"⟩ "#/definitions/none" []).toOption = some "None" ∧
    Config.isSeparator "e" = true ∧
      (forReference ⟨{}, "e"⟩ "#/definitions/non" ["Non"]).toOption = some "None" ∧
    Config.isSeparator "²" = true ∧
      (forReference ⟨{}, "²"⟩ "#/definitions/dog" ["Dog"]).toOption = some "Dog²" ∧
    isClassName "None".toList = false ∧ isClassName "Dog²".toList = false := by
  decide +kernel

end Namer

end ShapeSum
