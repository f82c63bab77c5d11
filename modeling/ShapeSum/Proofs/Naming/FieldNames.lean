import ShapeSum.Generation.Compile
import ShapeSum.Proofs.Naming.Attributes
import ShapeSum.Proofs.Naming.TypeNames

/-!
# The names of fields

The name of a field is found in four steps.  Of the property all word characters are kept,
with underscores for the others, and underscores at the start are dropped (`bareChars`).  What
is empty then or starts with a digit is put behind `field_` (`behindField`).  A reserved word,
and a name in the range of the model's own attributes, gets an underscore behind
(`keptApart`), and more go behind as long as the name is taken.

After the second step a name starts with what it will start with.  The other steps put
underscores behind it, and no reserved word ends in one, nor does an attribute of the model's
own.  So no step undoes what another one is for (`attributeName_eq`).

Not every word character may stand in an identifier: superscripts and fractions are kept as
well.  A name is an identifier exactly when the property has no such characters
(`FitsIdentifier`).
-/

namespace ShapeSum

open Text

/-! ## The steps -/

/-- A character of a name: word characters are kept, the others become underscores. -/
def keptChar (c : Char) : Char := if isWord c then c else '_'

/-- The characters of a property that are kept, without underscores at the start. -/
def bareChars (property : List Char) : List Char := (property.map keptChar).dropWhile (· == '_')

/-- A text behind `field_` where it is empty or starts with a digit. -/
def behindField (s : List Char) : List Char :=
  match s with
  | [] => "field_".toList
  | c :: _ => if isDigit c then "field_".toList ++ s else s

/-- A text with an underscore behind where it is reserved or in the range of the model's own
attributes. -/
def keptApart (s : List Char) : List Char :=
  if isReserved s || modelRange.isPrefixOf s then s ++ ['_'] else s

theorem behindField_cons (c : Char) (rest : List Char) : behindField (c :: rest) =
    if isDigit c then "field_".toList ++ c :: rest else c :: rest := rfl

theorem attributeChars_eq (property : List Char) :
    attributeChars property = keptApart (behindField (bareChars property)) := rfl

/-- Whether a character may open a name: a word character that is no underscore. -/
def opensName (c : Char) : Bool := isWord c && c != '_'

theorem keptChar_of_opensName {c : Char} (h : opensName c = true) :
    keptChar c = c ∧ c ≠ '_' := by
  simp only [opensName, Bool.and_eq_true, bne_iff_ne, ne_eq] at h
  exact ⟨if_pos h.1, h.2⟩

theorem keptChar_of_not_opensName {c : Char} (h : opensName c = false) : keptChar c = '_' := by
  simp only [opensName, Bool.and_eq_false_imp, bne_eq_false_iff_eq] at h
  cases hword : isWord c with
  | true => simp [keptChar, h hword]
  | false => simp [keptChar, hword]

/-- The first character that may open a name does, and the rest is kept behind it. -/
theorem bareChars_cons (c : Char) (rest : List Char) : bareChars (c :: rest) =
    if opensName c then c :: rest.map keptChar else bareChars rest := by
  cases h : opensName c with
  | true =>
    obtain ⟨hkept, hne⟩ := keptChar_of_opensName h
    simp [bareChars, hkept, hne]
  | false => simp [bareChars, keptChar_of_not_opensName h]

theorem head?_bareChars_ne {property : List Char} {c : Char}
    (h : (bareChars property).head? = some c) : c ≠ '_' := by
  induction property with
  | nil => cases h
  | cons d rest ih =>
    rw [bareChars_cons] at h
    split at h
    · rename_i hopens
      obtain rfl : d = c := Option.some.inj h
      exact (keptChar_of_opensName hopens).2
    · exact ih h

/-- A name starts with a character other than the underscore. -/
theorem exists_head?_behindField (property : List Char) :
    ∃ c, (behindField (bareChars property)).head? = some c ∧ c ≠ '_' := by
  have hfield (t : List Char) : ∃ c, ("field_".toList ++ t).head? = some c ∧ c ≠ '_' :=
    ⟨'f', rfl, by decide⟩
  cases hbare : bareChars property with
  | nil => exact hfield []
  | cons c rest =>
    rw [behindField_cons]
    split
    · exact hfield (c :: rest)
    · exact ⟨c, rfl, head?_bareChars_ne (by rw [hbare]; rfl)⟩

/-! ## The underscores behind -/

/-- The candidate for the attribute name of a property. -/
def attributeCandidate (property : String) : String :=
  String.ofList (attributeChars property.toList)

/-- A number of underscores is the least that makes a name differ from those that are taken. -/
structure FewestUnderscores (name : String) (taken : List String) (k : Nat) : Prop where
  /-- With so many underscores the name is not taken. -/
  free : lengthened name "_" k ∉ taken
  /-- With fewer it is. -/
  taken : ∀ j < k, lengthened name "_" j ∈ taken

theorem toList_lengthened_underscore (name : String) (k : Nat) :
    (lengthened name "_" k).toList = name.toList ++ List.replicate k '_' := by
  simp [lengthened]

/-- The search for an attribute name ends, after at most one round for each name that is taken. -/
theorem exists_attributeName_eq_lengthened (property : String) (taken : List String) :
    ∃ k ≤ taken.length, FewestUnderscores (attributeCandidate property) taken k ∧
      attributeName property taken = lengthened (attributeCandidate property) "_" k := by
  obtain ⟨k, hk, heq, hbelow⟩ := (isSearch_firstUntaken taken).exists_eq_lengthened taken.length
    (attributeCandidate property)
  have hname : attributeName property taken = lengthened (attributeCandidate property) "_" k := heq
  exact ⟨k, hk, ⟨hname ▸ attributeName_not_mem property taken, hbelow⟩, hname⟩

/-- A text that is neither reserved nor in the range of the model's own attributes. -/
def IsOrdinary (s : List Char) : Prop := isReserved s = false ∧ ¬modelRange <+: s

theorem exists_keptApart_eq (s : List Char) :
    ∃ k, keptApart s = s ++ List.replicate k '_' ∧ (k = 0 → IsOrdinary s) := by
  rw [keptApart]
  split
  · exact ⟨1, rfl, fun h => nomatch h⟩
  · rename_i hnot
    rw [Bool.or_eq_true, not_or, Bool.not_eq_true, List.isPrefixOf_iff_prefix] at hnot
    exact ⟨0, (List.append_nil s).symm, fun _ => hnot⟩

/-- All steps but the first two put underscores behind, and they do unless the text is neither
reserved nor in the range of the model's own attributes. -/
theorem attributeName_eq (property : String) (taken : List String) :
    ∃ k, (attributeName property taken).toList =
        behindField (bareChars property.toList) ++ List.replicate k '_' ∧
      (k = 0 → IsOrdinary (attributeName property taken).toList) := by
  obtain ⟨j, -, -, hname⟩ := exists_attributeName_eq_lengthened property taken
  obtain ⟨i, hkept, hordinary⟩ := exists_keptApart_eq (behindField (bareChars property.toList))
  have heq : (attributeName property taken).toList =
      behindField (bareChars property.toList) ++ List.replicate (i + j) '_' := by
    rw [hname, toList_lengthened_underscore, attributeCandidate, String.toList_ofList,
      attributeChars_eq, hkept, List.append_assoc, List.replicate_append_replicate]
  refine ⟨i + j, heq, fun hzero => ?_⟩
  -- Without any underscore the search has kept what the step before has found ordinary.
  obtain ⟨rfl, rfl⟩ := Nat.add_eq_zero_iff.1 hzero
  rw [heq, List.replicate_zero, List.append_nil]
  exact hordinary rfl

theorem getLast?_ne_of_isReserved {s : List Char} (h : isReserved s = true) :
    s.getLast? ≠ some '_' := by
  have hwords : ∀ w ∈ reservedWords, w.toList.getLast? ≠ some '_' := by decide +kernel
  simp only [isReserved, List.any_eq_true, beq_iff_eq] at h
  obtain ⟨w, hw, rfl⟩ := h
  exact hwords w hw

/-- An attribute name ends in an underscore, or it is neither reserved nor in the range of the
model's own attributes. -/
theorem getLast?_or_isOrdinary (property : String) (taken : List String) :
    (attributeName property taken).toList.getLast? = some '_' ∨
      IsOrdinary (attributeName property taken).toList := by
  obtain ⟨k, heq, hordinary⟩ := attributeName_eq property taken
  cases k with
  | zero => exact .inr (hordinary rfl)
  | succ k =>
    left
    rw [heq, List.replicate_succ', ← List.append_assoc, List.getLast?_concat]

/-! ## Identifiers -/

/-- What of a property is kept may stand in an identifier, and may start one where it does. -/
structure FitsIdentifier (property : List Char) : Prop where
  /-- Its word characters may continue an identifier. -/
  chars : ∀ c ∈ property, isWord c = true → isIdentifierContinuation c = true
  /-- The first one that is no underscore is a digit or may start an identifier. -/
  first : ∀ c ∈ property.find? opensName, isDigit c = true ∨ isIdentifierStart c = true

/-- A character that is dropped at the start does not matter. -/
theorem fitsIdentifier_cons_of_not_opensName {c : Char} (h : opensName c = false)
    (rest : List Char) : FitsIdentifier (c :: rest) ↔ FitsIdentifier rest := by
  have hfind : (c :: rest).find? opensName = rest.find? opensName :=
    List.find?_cons_of_neg (by simp [h])
  constructor
  · rintro ⟨hchars, hfirst⟩
    exact ⟨(List.forall_mem_cons.1 hchars).2, hfind ▸ hfirst⟩
  · rintro ⟨hchars, hfirst⟩
    refine ⟨List.forall_mem_cons.2 ⟨fun hword => ?_, hchars⟩, hfind ▸ hfirst⟩
    have hkept := keptChar_of_not_opensName h
    rw [keptChar, if_pos hword] at hkept
    rw [hkept]
    decide

theorem fitsIdentifier_cons_of_opensName {c : Char} (h : opensName c = true) (rest : List Char) :
    FitsIdentifier (c :: rest) ↔ (isDigit c = true ∨ isIdentifierStart c = true) ∧
      isIdentifierContinuation c = true ∧
      ∀ d ∈ rest, isWord d = true → isIdentifierContinuation d = true := by
  have hfind : (c :: rest).find? opensName = some c := List.find?_cons_of_pos h
  have hword : isWord c = true := (Bool.and_eq_true _ _ ▸ h).1
  constructor
  · rintro ⟨hchars, hfirst⟩
    obtain ⟨hc, hrest⟩ := List.forall_mem_cons.1 hchars
    exact ⟨hfirst c hfind, hc hword, hrest⟩
  · rintro ⟨hfirst, hc, hrest⟩
    refine ⟨List.forall_mem_cons.2 ⟨fun _ => hc, hrest⟩, fun d hd => ?_⟩
    obtain rfl : c = d := Option.some.inj (hfind.symm.trans hd)
    exact hfirst

theorem forall_mem_map_keptChar {s : List Char} :
    (∀ c ∈ s.map keptChar, isIdentifierContinuation c = true) ↔
      ∀ c ∈ s, isWord c = true → isIdentifierContinuation c = true := by
  have hunderscore : isIdentifierContinuation '_' = true := by decide
  rw [List.forall_mem_map]
  refine forall₂_congr fun c _ => ?_
  cases hword : isWord c with
  | true => simp [keptChar, hword]
  | false => simp [keptChar, hword, hunderscore]

/-- After the first two steps there is an identifier exactly when the property fits one. -/
theorem isIdentifier_behindField_iff (property : List Char) :
    isIdentifier (behindField (bareChars property)) = true ↔ FitsIdentifier property := by
  have hfield : isIdentifier "field_".toList = true := by decide +kernel
  -- Nothing is kept up to the first character that may open a name, and everything from there on.
  induction property with
  | nil => exact ⟨fun _ => ⟨by simp, by simp⟩, fun _ => hfield⟩
  | cons c rest ih =>
    rw [bareChars_cons]
    cases hopens : opensName c with
    | false =>
      rw [fitsIdentifier_cons_of_not_opensName hopens]
      exact ih
    | true =>
      rw [fitsIdentifier_cons_of_opensName hopens, ← forall_mem_map_keptChar, if_pos rfl,
        behindField_cons]
      cases hdigit : isDigit c with
      | true =>
        simp only [if_true, isIdentifier_append hfield, List.forall_mem_cons, true_or, true_and]
      | false =>
        have hgoes : isIdentifierStart c = true → isIdentifierContinuation c = true :=
          fun hstart => by simp [isIdentifierContinuation, hstart]
        simp only [Bool.false_eq_true, if_false, false_or, isIdentifier, Bool.and_eq_true,
          List.all_eq_true]
        constructor
        · rintro ⟨hstart, hrest⟩
          exact ⟨hstart, hgoes hstart, hrest⟩
        · rintro ⟨hstart, -, hrest⟩
          exact ⟨hstart, hrest⟩

/-- Underscores behind a text do not matter for whether it is an identifier. -/
theorem isIdentifier_append_underscores {s : List Char} (hs : s ≠ []) (k : Nat) :
    isIdentifier (s ++ List.replicate k '_') = isIdentifier s := by
  obtain ⟨c, rest, rfl⟩ := List.exists_cons_of_ne_nil hs
  have hunderscores : (List.replicate k '_').all isIdentifierContinuation = true := by
    rw [List.all_eq_true]
    intro d hd
    rw [List.eq_of_mem_replicate hd]
    decide
  rw [List.cons_append, isIdentifier, isIdentifier, List.all_append, hunderscores, Bool.and_true]

/-! ## ASCII properties -/

/-- What a class has among the ASCII characters is in those of its ranges that start there. -/
theorem has_of_has_of_ascii {ranges ascii : Ranges} (hranges : ∀ r ∈ ranges, r ∈ ascii ∨ 128 ≤ r.1)
    {c : Char} (hc : c.toNat < 128) (h : ranges.has c = true) : ascii.has c = true := by
  obtain ⟨r, hr, hbounds⟩ := (Ranges.has_iff _ _).1 h
  obtain hr | hr := hranges r hr
  · exact (Ranges.has_iff _ _).2 ⟨r, hr, hbounds⟩
  · omega

theorem isAlpha_of_isLetter {c : Char} (hc : c.toNat < 128) (h : isLetter c = true) :
    c.isAlpha = true := by
  have hletters : ∀ r ∈ letters, r ∈ [(0x41, 0x5A), (0x61, 0x7A)] ∨ 128 ≤ r.1 := by
    decide +kernel
  have hascii := has_of_has_of_ascii hletters hc h
  simp only [Ranges.has_cons, Ranges.has_nil, Bool.or_false, Bool.or_eq_true,
    decide_eq_true_eq] at hascii
  exact Bool.or_eq_true_iff.2 (hascii.imp isUpper_iff.2 isLower_iff.2)

theorem isDigit_of_isNumeral {c : Char} (hc : c.toNat < 128) (h : isNumeral c = true) :
    c.isDigit = true := by
  have hzeros : ∀ z ∈ zeros, z = 0x30 ∨ 128 ≤ z := by decide +kernel
  have hletters : ∀ r ∈ numberLetters, r ∈ [] ∨ 128 ≤ r.1 := by decide +kernel
  have hothers : ∀ r ∈ otherNumerals, r ∈ [] ∨ 128 ≤ r.1 := by decide +kernel
  simp only [isNumeral, Bool.or_eq_true] at h
  obtain (hdecimal | hletter) | hother := h
  · simp only [isDecimal, decimalValue?, Option.isSome_map, List.find?_isSome,
      decide_eq_true_eq] at hdecimal
    obtain ⟨z, hz, hbounds⟩ := hdecimal
    obtain rfl := (hzeros z hz).resolve_right (by omega)
    exact Char.isDigit_iff_toNat.2 ⟨hbounds.1, Nat.le_of_lt_succ hbounds.2⟩
  · cases has_of_has_of_ascii hletters hc hletter
  · cases has_of_has_of_ascii hothers hc hother

theorem isPlainWord_of_isWord {c : Char} (hc : c.toNat < 128) (h : isWord c = true) :
    isPlainWord c = true := by
  simp only [isWord, isAlphanumeric, Bool.or_eq_true] at h
  obtain hunderscore | hletter | hnumeral := h
  · simp [isPlainWord, hunderscore]
  · simp [isPlainWord, Char.isAlphanum, isAlpha_of_isLetter hc hletter]
  · simp [isPlainWord, Char.isAlphanum, isDigit_of_isNumeral hc hnumeral]

/-- All properties of ASCII characters fit an identifier. -/
theorem fitsIdentifier_of_ascii {property : List Char} (h : ∀ c ∈ property, c.toNat < 128) :
    FitsIdentifier property := by
  refine ⟨fun c hc hword => ?_, fun c hc => ?_⟩
  · exact isIdentifierContinuation_of_isPlainWord (isPlainWord_of_isWord (h c hc) hword)
  · have hopens := List.find?_some hc
    rw [opensName, Bool.and_eq_true] at hopens
    have hplain := isPlainWord_of_isWord (h c (List.mem_of_find?_eq_some hc)) hopens.1
    cases hdigit : isDigit c with
    | true => exact .inl rfl
    | false => exact .inr (isIdentifierStart_of_isPlainWord hplain hdigit)

/-! ## The names in turn -/

/-- The attribute name for a property among names that are taken, where `own` are the names of the
model's own attributes. -/
structure IsAttributeFor (own taken : List String) (property name : String) : Prop where
  /-- It is the candidate with the fewest underscores behind that make it free, at most one for
  each name that is taken. -/
  fewest : ∃ k ≤ taken.length, FewestUnderscores (attributeCandidate property) taken k ∧
    name = lengthened (attributeCandidate property) "_" k
  /-- It starts with a character other than the underscore. -/
  opens : ∃ c, name.toList.head? = some c ∧ c ≠ '_'
  /-- It is no reserved word. -/
  free : isReserved name.toList = false
  /-- It is none of the model's own attributes that have names in their range. -/
  apart : modelRange <+: name.toList → name ∉ own
  /-- It is an identifier exactly when the property fits one. -/
  legal : isIdentifier name.toList = true ↔ FitsIdentifier property.toList

theorem isAttributeFor_attributeName {own : List String}
    (hown : ∀ a ∈ own, modelRange <+: a.toList → a.toList.getLast? ≠ some '_')
    (taken : List String) (property : String) :
    IsAttributeFor own taken property (attributeName property taken) := by
  obtain ⟨k, heq, -⟩ := attributeName_eq property taken
  obtain ⟨c, hhead, hne⟩ := exists_head?_behindField property.toList
  have hnil : behindField (bareChars property.toList) ≠ [] := by
    intro hnil
    rw [hnil] at hhead
    cases hhead
  have hends := getLast?_or_isOrdinary property taken
  refine ⟨exists_attributeName_eq_lengthened property taken, ⟨c, ?_, hne⟩, ?_, ?_, ?_⟩
  · rw [heq, List.head?_append, hhead]
    rfl
  · cases hreserved : isReserved (attributeName property taken).toList with
    | false => rfl
    | true =>
      obtain hlast | hordinary := hends
      · exact absurd hlast (getLast?_ne_of_isReserved hreserved)
      · exact hreserved.symm.trans hordinary.1
  · intro hrange hmem
    obtain hlast | hordinary := hends
    · exact hown _ hmem hrange hlast
    · exact hordinary.2 hrange
  · rw [heq, isIdentifier_append_underscores hnil, isIdentifier_behindField_iff]

/-- Each of the names is that of its property, with the names before it taken. -/
theorem eq_attributeName_of_getElem? {taken properties : List String} {i : Nat} {name : String}
    (h : (attributeNames taken properties)[i]? = some name) :
    ∃ property, properties[i]? = some property ∧
      name = attributeName property (taken ++ (attributeNames taken properties).take i) := by
  induction properties generalizing taken i with
  | nil => cases h
  | cons p ps ih =>
    cases i with
    | zero =>
      cases h
      exact ⟨p, rfl, by simp⟩
    | succ i =>
      obtain ⟨property, hproperty, rfl⟩ := ih h
      refine ⟨property, hproperty, ?_⟩
      simp [attributeNames]

/-- The fields for properties have their attribute names, with those of the fields before taken. -/
theorem map_name_of_compileFields {annotate : Annotate} {required : List String}
    {done fields : List Field} {properties : List (String × Fragment)} {s s' : Generation}
    (h : (compileFields annotate required done properties).run s = (.ok fields, s')) :
    fields.map Field.name =
      done.map Field.name ++ attributeNames (done.map Field.name) (properties.map Prod.fst) := by
  induction properties generalizing done s with
  | nil =>
    cases h
    exact (List.append_nil _).symm
  | cons p rest ih =>
    obtain ⟨property, f⟩ := p
    obtain ⟨⟨type, isBack⟩, s₁, -, h⟩ := exists_of_run_bind h
    -- A back reference is noted in the state before the compilation goes on, and changes no name.
    have hrest : ∃ field s₂, field.name = attributeName property (done.map Field.name) ∧
        (compileFields annotate required (done ++ [field]) rest).run s₂ = (.ok fields, s') := by
      cases isBack with
      | false => exact ⟨_, _, rfl, h⟩
      | true => exact ⟨_, _, rfl, h⟩
    obtain ⟨field, s₂, hname, hrest⟩ := hrest
    rw [ih hrest]
    simp [attributeNames, hname]

/-- The names of fields are distinct, whatever the properties, and none is reserved, starts with an
underscore or is one of the model's own attributes in their range.  The search for each ends.  It is
an identifier exactly when its property fits one. -/
theorem nodup_and_isAttributeFor {own : List String}
    (hown : ∀ a ∈ own, modelRange <+: a.toList → a.toList.getLast? ≠ some '_') :
    (∀ properties : List String, (attributeNames [] properties).Nodup ∧
      (attributeNames [] properties).length = properties.length ∧
      ∀ i name, (attributeNames [] properties)[i]? = some name →
        ∃ property, properties[i]? = some property ∧
          IsAttributeFor own ((attributeNames [] properties).take i) property name) ∧
    ∀ (annotate : Annotate) (required : List String) (properties : List (String × Fragment))
      (s s' : Generation) (fields : List Field),
      (compileFields annotate required [] properties).run s = (.ok fields, s') →
        fields.map Field.name = attributeNames [] (properties.map Prod.fst) := by
  refine ⟨fun properties => ⟨(nodup_attributeNames [] properties).1,
    length_attributeNames [] properties, fun i name hname => ?_⟩, fun _ _ _ _ _ _ hrun => ?_⟩
  · obtain ⟨property, hproperty, rfl⟩ := eq_attributeName_of_getElem? hname
    exact ⟨property, hproperty, isAttributeFor_attributeName hown _ property⟩
  · exact map_name_of_compileFields hrun

/-- The attributes of a model's own that have names in their range. -/
def ownNames : List String :=
  ["model_computed_fields", "model_config", "model_construct", "model_copy", "model_dump",
   "model_dump_json", "model_extra", "model_fields", "model_fields_set", "model_json_schema",
   "model_parametrized_name", "model_post_init", "model_rebuild", "model_validate",
   "model_validate_json", "model_validate_strings"]

/-- Properties with an underscore at the start, a reserved word, a digit and own attributes. -/
def crowdedProperties : List (String × Fragment) :=
  ["_id", "id", "class", "2nd", "model_fields", "model-fields"].map (·, ⟨.null, "", ""⟩)

/-- Each step does something for one of the properties.  The search goes on for two of them. -/
theorem nodup_and_isAttributeFor_crowded :
    (∀ a ∈ ownNames, modelRange <+: a.toList → a.toList.getLast? ≠ some '_') ∧
    (attributeNames [] (crowdedProperties.map Prod.fst)).Nodup ∧
    IsAttributeFor ownNames ["id", "id_", "class_", "field_2nd", "model_fields_"] "model-fields"
      "model_fields__" ∧
    isIdentifier "model_fields__".toList = true ∧
    ∃ fields s', (compileFields (fun _ _ => pure (.text, true)) [] [] crowdedProperties).run
        { store := Store.empty fun _ => .unavailable "" } = (.ok fields, s') ∧
      fields.map Field.name =
        ["id", "id_", "class_", "field_2nd", "model_fields_", "model_fields__"] := by
  have hown : ∀ a ∈ ownNames, modelRange <+: a.toList → a.toList.getLast? ≠ some '_' := by
    decide +kernel
  have hnames : attributeNames [] (crowdedProperties.map Prod.fst) =
      ["id", "id_", "class_", "field_2nd", "model_fields_", "model_fields__"] := by
    decide +kernel
  obtain ⟨fields, s', hrun⟩ : ∃ fields s',
      (compileFields (fun _ _ => pure (.text, true)) [] [] crowdedProperties).run
        { store := Store.empty fun _ => .unavailable "" } = (.ok fields, s') := ⟨_, _, rfl⟩
  obtain ⟨hsequence, hruns⟩ := nodup_and_isAttributeFor hown
  obtain ⟨hnodup, -, heach⟩ := hsequence (crowdedProperties.map Prod.fst)
  obtain ⟨property, hproperty, hlast⟩ := heach 5 "model_fields__" (by rw [hnames]; rfl)
  cases hproperty
  rw [hnames] at hlast
  have hlegal := hlast.legal.2 (fitsIdentifier_of_ascii (by simp))
  exact ⟨hown, hnodup, hlast, hlegal, fields, s', hrun,
    (hruns _ _ _ _ _ _ hrun).trans hnames⟩

/-- Superscripts and fractions are kept, and so is a vowel sign at the start, although no identifier
holds them there. -/
theorem exists_not_isIdentifier :
    ["m²", "½", "²", "\u0E33"].Nodup ∧
    attributeNames [] ["m²", "½", "²", "\u0E33"] = ["m²", "½", "field_²", "\u0E33"] ∧
    ∀ a ∈ ["m²", "½", "field_²", "\u0E33"], isIdentifier a.toList = false := by
  decide +kernel

end ShapeSum
