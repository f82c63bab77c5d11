import ShapeSum.Proofs.Naming.Tags
import ShapeSum.Proofs.Naming.Tokens

/-!
# The words of a tag

A tag is made of *words*, which are the tokens of the type name that are no separators,
in capitals.  Each word is all capitals or all digits.

Between two words of a tag stands one underscore, so the tokens of a tag are its words
and these underscores, and the words of the tag are the words that it was made of
(`tagWords_leading_joinTokens`).  The tag of a tag is hence the tag itself.  An underscore
behind a type name is a separator, or makes the last one longer, and changes no word.
-/

namespace ShapeSum

/-- The words of a type name: its tokens but the separators, in capitals. -/
def tagWords (name : List Char) : List (List Char) :=
  ((tokens name).filter (!isSeparatorToken ·)).map (·.map Char.toUpper)

/-- Sets an underscore in front of a digit. -/
def leading : List Char → List Char
  | [] => []
  | c :: rest => if c.isDigit then '_' :: c :: rest else c :: rest

/-- A word is a run of capitals or of digits. -/
inductive IsWord : List Char → Prop
  /-- Capitals. -/
  | capitals {w : List Char} : IsRun .capital w → IsWord w
  /-- Digits. -/
  | digits {w : List Char} : IsRun .digit w → IsWord w

/-! ## Characters -/

theorem tokenKind_eq_capital {c : Char} : tokenKind c = .capital ↔ c.isUpper = true := by
  grind [tokenKind]

theorem tokenKind_eq_digit {c : Char} (h : tokenKind c = .digit) : c.isDigit = true := by
  grind [tokenKind]

theorem tokenKind_eq_separator {c : Char} : tokenKind c = .separator ↔ c.isAlphanum = false := by
  have halphanum : c.isAlphanum = (c.isUpper || c.isLower || c.isDigit) := rfl
  rw [halphanum]
  grind [tokenKind]

theorem isLower_of_tokenKind {c : Char} (h : tokenKind c ≠ .small) : c.isLower = false := by
  cases hu : c.isUpper with
  | true => exact isLower_of_isTagLetter (by simp [isTagLetter, hu])
  | false => grind [tokenKind]

/-- In capitals, a letter is a capital. -/
theorem tokenKind_toUpper {c : Char} (h : tokenKind c = .capital ∨ tokenKind c = .small) :
    tokenKind c.toUpper = .capital := by
  rw [tokenKind_eq_capital]
  obtain hcapital | hsmall := h
  · rw [toUpper_of_not_isLower (isLower_of_tokenKind (by simp [hcapital]))]
    exact tokenKind_eq_capital.1 hcapital
  · exact isUpper_toUpper (by grind [tokenKind])

theorem toUpper_toUpper (c : Char) : c.toUpper.toUpper = c.toUpper := by
  cases hl : c.isLower with
  | true =>
    refine toUpper_of_not_isLower (isLower_of_isTagLetter ?_)
    simp [isTagLetter, isUpper_toUpper hl]
  | false => simp [toUpper_of_not_isLower hl]

/-! ## Words -/

theorem IsRun.chars {kind : TokenKind} {w : List Char} (h : IsRun kind w) (hne : kind ≠ .small) :
    ∀ c ∈ w, tokenKind c = kind := by
  cases h with
  | plain _ hall => exact hall
  | capitalized => exact absurd rfl hne

theorem IsWord.ne_nil {w : List Char} (h : IsWord w) : w ≠ [] := by
  cases h with
  | capitals hrun => exact hrun.ne_nil
  | digits hrun => exact hrun.ne_nil

theorem IsWord.chars {w : List Char} (h : IsWord w) : ∀ c ∈ w, isTagLetter c = true := by
  intro c hc
  cases h with
  | capitals hrun => simp [isTagLetter, tokenKind_eq_capital.1 (hrun.chars (by simp) c hc)]
  | digits hrun => simp [isTagLetter, tokenKind_eq_digit (hrun.chars (by simp) c hc)]

theorem map_toUpper_eq {t : List Char} (h : ∀ c ∈ t, c.isLower = false) :
    t.map Char.toUpper = t :=
  (List.map_congr_left fun c hc => toUpper_of_not_isLower (h c hc)).trans (List.map_id t)

theorem IsWord.map_toUpper {w : List Char} (h : IsWord w) : w.map Char.toUpper = w :=
  map_toUpper_eq fun c hc => isLower_of_isTagLetter (h.chars c hc)

theorem IsWord.isSeparatorToken {w : List Char} (h : IsWord w) : isSeparatorToken w = false := by
  obtain ⟨c, rest, rfl⟩ := List.exists_cons_of_ne_nil h.ne_nil
  cases h with
  | capitals hrun => simp [ShapeSum.isSeparatorToken, hrun.chars (by simp) c (by simp)]
  | digits hrun => simp [ShapeSum.isSeparatorToken, hrun.chars (by simp) c (by simp)]

/-- A token that is no separator makes a word. -/
theorem IsRun.isWord {kind : TokenKind} {t : List Char} (h : IsRun kind t)
    (hsep : isSeparatorToken t = false) : IsWord (t.map Char.toUpper) := by
  have hkeep (hne : kind ≠ .small) : t.map Char.toUpper = t :=
    map_toUpper_eq fun c hc => isLower_of_tokenKind (by simpa [h.chars hne c hc] using hne)
  cases kind with
  | capital => exact .capitals (by rwa [hkeep (by simp)])
  | digit => exact .digits (by rwa [hkeep (by simp)])
  | separator =>
    have hall : isSeparatorToken t = true := by simpa [isSeparatorToken] using h.chars (by simp)
    simp [hall] at hsep
  | small =>
    refine .capitals (.plain (by simpa using h.ne_nil) (List.forall_mem_map.2 fun c hc => ?_))
    refine tokenKind_toUpper ?_
    cases h with
    | plain _ hall => exact .inr (hall c hc)
    | capitalized hcapital _ hsmall =>
      obtain rfl | hc := List.mem_cons.1 hc
      · exact .inl hcapital
      · exact .inr (hsmall c hc)

theorem isWord_of_mem_tagWords {name : List Char} : ∀ w ∈ tagWords name, IsWord w := by
  intro w hw
  obtain ⟨t, ht, rfl⟩ := List.mem_map.1 hw
  rw [List.mem_filter, Bool.not_eq_true'] at ht
  obtain ⟨kind, hrun⟩ := (isCut_tokens name).isRun t ht.1
  exact hrun.isWord ht.2

/-- A name has no word exactly when it has no ASCII letter and no digit. -/
theorem tagWords_eq_nil_iff {name : List Char} :
    tagWords name = [] ↔ ∀ c ∈ name, c.isAlphanum = false := by
  calc tagWords name = []
      ↔ ∀ t ∈ tokens name, ∀ c ∈ t, tokenKind c = .separator := by
        simp [tagWords, List.filter_eq_nil_iff, isSeparatorToken]
    _ ↔ ∀ c ∈ (tokens name).flatten, c.isAlphanum = false := by
        simp only [List.mem_flatten, tokenKind_eq_separator]
        constructor
        · rintro h c ⟨t, ht, hc⟩
          exact h t ht c hc
        · exact fun h t ht c hc => h c ⟨t, ht, hc⟩
    _ ↔ ∀ c ∈ name, c.isAlphanum = false := by rw [flatten_tokens]

theorem joinTokens_map_toUpper (ts : List (List Char)) :
    joinTokens (ts.map (·.map Char.toUpper)) = joinTokens ts := by
  induction ts with
  | nil => rfl
  | cons t ts ih =>
    have htwice : (t.map Char.toUpper).map Char.toUpper = t.map Char.toUpper := by
      rw [List.map_map]
      exact List.map_congr_left fun c _ => toUpper_toUpper c
    cases ts with
    | nil => exact htwice
    | cons u us =>
      simp only [List.map_cons, joinTokens] at ih ⊢
      rw [htwice, ih]

theorem tagChars_eq (name : List Char) : tagChars name = leading (joinTokens (tagWords name)) := by
  rw [tagWords, joinTokens_map_toUpper]
  simp only [tagChars]
  cases joinTokens ((tokens name).filter (!isSeparatorToken ·)) <;> rfl

/-! ## The words of a tag -/

/-- An underscore does not join a word behind it. -/
theorem IsWord.joinsToken {w : List Char} (h : IsWord w) : joinsToken '_' w = false := by
  have hunderscore : tokenKind '_' = .separator := rfl
  obtain ⟨c, rest, rfl⟩ := List.exists_cons_of_ne_nil h.ne_nil
  cases h with
  | capitals hrun => simp [ShapeSum.joinsToken, hunderscore, hrun.chars (by simp) c (by simp)]
  | digits hrun => simp [ShapeSum.joinsToken, hunderscore, hrun.chars (by simp) c (by simp)]

/-- A word is a token in front of a text that ends or goes on with an underscore alone. -/
theorem IsWord.tokens_append {w rest : List Char} (h : IsWord w)
    (hnext : ∀ u ∈ (tokens rest).head?, u = ['_']) : tokens (w ++ rest) = w :: tokens rest := by
  have happart {kind : TokenKind} (hrun : IsRun kind w) (hsep : kind ≠ .separator) :
      StandsApart w (tokens rest) := by
    intro c hc u hu
    obtain rfl := hnext u hu
    have hunderscore : tokenKind '_' = .separator := rfl
    have hkind : tokenKind c = kind := hrun.kind_getLast c hc
    simp [ShapeSum.joinsToken, hunderscore, hkind, hsep.symm]
  cases h with
  | capitals hrun => exact hrun.tokens_append (happart hrun (by simp))
  | digits hrun => exact hrun.tokens_append (happart hrun (by simp))

/-- The tokens of joined words: the words, with separators between them. -/
theorem tokens_joinTokens {w : List Char} {ws : List (List Char)} (h : ∀ v ∈ w :: ws, IsWord v) :
    ∃ us, tokens (joinTokens (w :: ws)) = w :: us ∧ us.filter (!isSeparatorToken ·) = ws := by
  induction ws generalizing w with
  | nil =>
    have hw : IsWord w := h w (by simp)
    refine ⟨[], ?_, rfl⟩
    have htokens : tokens (w ++ []) = w :: tokens [] := hw.tokens_append (by simp)
    simpa [joinTokens, hw.map_toUpper] using htokens
  | cons v vs ih =>
    obtain ⟨hw, hvs⟩ := List.forall_mem_cons.1 h
    obtain ⟨us, hus, hfilter⟩ := ih hvs
    have hv : IsWord v := hvs v (by simp)
    have hrest : tokens ('_' :: joinTokens (v :: vs)) = ['_'] :: v :: us := by
      simp [hus, pushToken, hv.joinsToken]
    refine ⟨['_'] :: v :: us, ?_, ?_⟩
    · rw [joinTokens, hw.map_toUpper, hw.tokens_append (by simp [hrest]), hrest]
      simp
    · have hunderscore : isSeparatorToken ['_'] = true := rfl
      simp [hunderscore, hv.isSeparatorToken, hfilter]

/-- The words of a tag are those that it was made of. -/
theorem tagWords_leading_joinTokens {ws : List (List Char)} (h : ∀ w ∈ ws, IsWord w) :
    tagWords (leading (joinTokens ws)) = ws := by
  have hupper : ws.map (·.map Char.toUpper) = ws :=
    (List.map_congr_left fun w hw => (h w hw).map_toUpper).trans (List.map_id ws)
  cases ws with
  | nil => rfl
  | cons w ws =>
    obtain ⟨us, hus, hfilter⟩ := tokens_joinTokens h
    have hw : IsWord w := h w (by simp)
    have hwords : tagWords (joinTokens (w :: ws)) = w :: ws := by
      rw [tagWords, hus]
      simpa [hw.isSeparatorToken, hfilter] using hupper
    -- An underscore in front is one more separator.
    have hmore : tagWords ('_' :: joinTokens (w :: ws)) = tagWords (joinTokens (w :: ws)) := by
      have hunderscore : isSeparatorToken ['_'] = true := rfl
      simp [tagWords, hus, pushToken, hw.joinsToken, hunderscore]
    cases hcs : joinTokens (w :: ws) with
    | nil => simpa [leading, hcs] using hwords
    | cons c cs =>
      rw [hcs] at hwords hmore
      simp only [leading]
      split
      · exact hmore.trans hwords
      · exact hwords

/-- The tag of a tag is the tag itself. -/
theorem tagChars_tagChars (name : List Char) : tagChars (tagChars name) = tagChars name := by
  rw [tagChars_eq, tagChars_eq name, tagWords_leading_joinTokens isWord_of_mem_tagWords]

theorem tagChars_eq_nil_iff {name : List Char} :
    tagChars name = [] ↔ ∀ c ∈ name, c.isAlphanum = false := by
  rw [← tagWords_eq_nil_iff]
  constructor
  · intro h
    have hwords : ∀ w ∈ tagWords name, IsWord w := isWord_of_mem_tagWords
    rw [← tagWords_leading_joinTokens hwords, ← tagChars_eq, h]
    rfl
  · intro h
    simp [tagChars_eq, h, joinTokens, leading]

theorem tagFor_of_ne_nil {name empty : String} (h : tagChars name.toList ≠ []) :
    tagFor name empty = String.ofList (tagChars name.toList) := by
  simp only [tagFor]

theorem tagFor_tagFor {name : String} (h : tagChars name.toList ≠ []) (empty empty' : String) :
    tagFor (tagFor name empty) empty' = tagFor name empty := by
  rw [tagFor_of_ne_nil h, tagFor_of_ne_nil (by simpa [tagChars_tagChars] using h)]
  simp [tagChars_tagChars]

/-- With `EMPTY_TAG` for the names that give none, the tag of a tag is always the tag itself. -/
theorem tagFor_tagFor_default (name empty : String) :
    tagFor (tagFor name "EMPTY_TAG") empty = tagFor name "EMPTY_TAG" := by
  by_cases h : tagChars name.toList = []
  · have hdefault : tagChars "EMPTY_TAG".toList = "EMPTY_TAG".toList := by decide +kernel
    simp only [tagFor, h, hdefault]
    rfl
  · exact tagFor_tagFor h _ _

/-! ## The pattern of a tag -/

/-- Capitals and digits, in words with one underscore between two of them. -/
inductive IsWords : List Char → Prop
  /-- One word. -/
  | word {w : List Char} : w ≠ [] → (∀ c ∈ w, isTagLetter c = true) → IsWords w
  /-- A word, an underscore and other words. -/
  | more {w rest : List Char} :
    w ≠ [] → (∀ c ∈ w, isTagLetter c = true) → IsWords rest → IsWords (w ++ '_' :: rest)

theorem isWords_joinTokens {ws : List (List Char)} (hne : ws ≠ []) (h : ∀ w ∈ ws, IsWord w) :
    IsWords (joinTokens ws) := by
  induction ws with
  | nil => contradiction
  | cons w ws ih =>
    obtain ⟨hw, hws⟩ := List.forall_mem_cons.1 h
    cases ws with
    | nil => simpa [joinTokens, hw.map_toUpper] using IsWords.word hw.ne_nil hw.chars
    | cons v vs =>
      simpa [joinTokens, hw.map_toUpper] using IsWords.more hw.ne_nil hw.chars (ih (by simp) hws)

/-! ## An underscore behind a name -/

/-- How tokens change when an underscore comes behind them. -/
inductive Trails : List (List Char) → List (List Char) → Prop
  /-- It is a separator of its own. -/
  | own : Trails [] [['_']]
  /-- It makes the last separator longer. -/
  | longer {t : List Char} : t ≠ [] → isSeparatorToken t = true → Trails [t] [t ++ ['_']]
  /-- The tokens before it stay. -/
  | cons {t : List Char} {ts us : List (List Char)} : Trails ts us → Trails (t :: ts) (t :: us)

theorem isSeparatorToken_append (t u : List Char) :
    isSeparatorToken (t ++ u) = (isSeparatorToken t && isSeparatorToken u) :=
  List.all_append

/-- A separator is joined by separators only. -/
theorem joinsToken_separators {c : Char} {t : List Char} (hne : t ≠ [])
    (hsep : isSeparatorToken t = true) : joinsToken c t = isSeparatorToken [c] := by
  have hall : ∀ d ∈ t, tokenKind d = .separator := by simpa [isSeparatorToken] using hsep
  obtain ⟨d, rest, rfl⟩ := List.exists_cons_of_ne_nil hne
  rw [Bool.eq_iff_iff, joinsToken_iff]
  constructor
  · rintro (hsame | ⟨-, hsmall⟩)
    · simp [isSeparatorToken, ← hsame d (by simp), hall d (by simp)]
    · exact absurd (hsmall d (by simp)) (by simp [hall d (by simp)])
  · intro hc
    have hc : tokenKind c = .separator := by simpa [isSeparatorToken] using hc
    exact .inl (by simpa only [hc] using hall)

theorem Trails.push {ts us : List (List Char)} (h : Trails ts us) (c : Char) :
    Trails (pushToken c ts) (pushToken c us) := by
  have hunderscore : isSeparatorToken ['_'] = true := rfl
  cases h with
  | own =>
    have hj : joinsToken c ['_'] = isSeparatorToken [c] := joinsToken_separators (by simp) rfl
    cases hc : isSeparatorToken [c] with
    | true => simpa [pushToken, hj, hc] using Trails.longer (List.cons_ne_nil c []) hc
    | false => simpa [pushToken, hj, hc] using Trails.cons (t := [c]) .own
  | @longer t hne hsep =>
    have hj : joinsToken c t = isSeparatorToken [c] := joinsToken_separators hne hsep
    have hj' : joinsToken c (t ++ ['_']) = isSeparatorToken [c] :=
      joinsToken_separators (by simp) (by simp [isSeparatorToken_append, hsep, hunderscore])
    cases hc : isSeparatorToken [c] with
    | true =>
      have hct : isSeparatorToken (c :: t) = true := by
        rw [← List.singleton_append, isSeparatorToken_append, hc, hsep, Bool.and_true]
      simpa [pushToken, hj, hj', hc] using Trails.longer (List.cons_ne_nil c t) hct
    | false => simpa [pushToken, hj, hj', hc] using Trails.cons (t := [c]) (.longer hne hsep)
  | @cons t ts us h =>
    cases hj : joinsToken c t with
    | true => simpa [pushToken, hj] using .cons h
    | false => simpa [pushToken, hj] using .cons (.cons h)

theorem trails_tokens (name : List Char) : Trails (tokens name) (tokens (name ++ ['_'])) := by
  induction name with
  | nil => exact .own
  | cons c rest ih => exact ih.push c

theorem Trails.filter {ts us : List (List Char)} (h : Trails ts us) :
    us.filter (!isSeparatorToken ·) = ts.filter (!isSeparatorToken ·) := by
  induction h with
  | own => rfl
  | longer _ hsep =>
    have hunderscore : isSeparatorToken ['_'] = true := rfl
    simp [hsep, isSeparatorToken_append, hunderscore]
  | cons _ ih => simp [List.filter_cons, ih]

/-- An underscore behind a name changes no word. -/
theorem tagWords_append_underscore (name : List Char) :
    tagWords (name ++ ['_']) = tagWords name := by
  rw [tagWords, (trails_tokens name).filter, tagWords]

/-- The tokens of a name make it up again, each is a run, and they are what the search finds.  The
tag of a name with an ASCII letter or a digit is one of words, with an underscore in front of a
digit, and is its own tag; every other name gets the tag that is set for it.  An underscore behind
the name changes nothing. -/
theorem tokens_and_tag (name empty : String) :
    FindsAll name.toList (tokens name.toList) ∧
      (tokens name.toList).flatten = name.toList ∧
      (∀ t ∈ tokens name.toList, ∃ kind, IsRun kind t) ∧
      (if name.toList.any Char.isAlphanum then
        (∃ cs, IsWords cs ∧ tagFor name empty = String.ofList (leading cs)) ∧
          ∀ empty', tagFor (tagFor name empty) empty' = tagFor name empty
      else tagFor name empty = empty) ∧
      tagFor (name ++ "_") empty = tagFor name empty ∧
      tagFor (tagFor name "EMPTY_TAG") empty = tagFor name "EMPTY_TAG" := by
  refine ⟨findsAll_iff.2 rfl, flatten_tokens _, (isCut_tokens _).isRun, ?_, ?_,
    tagFor_tagFor_default name empty⟩
  · split
    · rename_i hany
      have hne : tagChars name.toList ≠ [] := by
        simpa [tagChars_eq_nil_iff] using hany
      have hwords : tagWords name.toList ≠ [] := by
        simpa [tagWords_eq_nil_iff] using hany
      refine ⟨⟨_, isWords_joinTokens hwords isWord_of_mem_tagWords, ?_⟩,
        tagFor_tagFor hne empty⟩
      rw [tagFor_of_ne_nil hne, tagChars_eq]
    · rename_i hany
      have hnil : tagChars name.toList = [] := by
        simpa [tagChars_eq_nil_iff] using hany
      simp [tagFor, hnil]
  · simp [tagFor, tagChars_eq, tagWords_append_underscore]

end ShapeSum
