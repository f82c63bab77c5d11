import ShapeSum.Naming.Tag

/-!
# The tokens of a name

A token is a *run*: capitals, small letters with or without a capital in front, digits,
or separators.  The tokens of a name are the runs that it is made of, cut so that the
last character of none joins the one behind it.  There is one way only to cut a name
like that (`eq_tokens_iff`).

The same tokens come out when the name is searched from its start, for a run of capitals
with no small letter behind it, else for small letters with or without a capital in
front, else for digits, else for separators, and each time as much is taken as can be
(`findsAll_iff`).  The search never passes over a character.
-/

namespace ShapeSum

/-! ## Runs -/

/-- Characters that make up one token.  The kind is that of the last one. -/
inductive IsRun : TokenKind → List Char → Prop
  /-- Characters of one kind. -/
  | plain {kind : TokenKind} {t : List Char} :
    t ≠ [] → (∀ c ∈ t, tokenKind c = kind) → IsRun kind t
  /-- Small letters with a capital in front. -/
  | capitalized {c : Char} {t : List Char} :
    tokenKind c = .capital → t ≠ [] → (∀ d ∈ t, tokenKind d = .small) → IsRun .small (c :: t)

theorem IsRun.singleton (c : Char) : IsRun (tokenKind c) [c] := .plain (by simp) (by simp)

theorem IsRun.ne_nil {kind : TokenKind} {t : List Char} (h : IsRun kind t) : t ≠ [] := by
  cases h with
  | plain hne _ => exact hne
  | capitalized => simp

theorem IsRun.kind_of_mem_tail {kind : TokenKind} {c : Char} {t : List Char}
    (h : IsRun kind (c :: t)) : ∀ d ∈ t, tokenKind d = kind := by
  intro d hd
  cases h with
  | plain _ hall => exact hall d (by simp [hd])
  | capitalized _ _ hsmall => exact hsmall d hd

theorem IsRun.kind_getLast {kind : TokenKind} {t : List Char} (h : IsRun kind t) :
    ∀ c ∈ t.getLast?, tokenKind c = kind := by
  intro c hc
  cases h with
  | plain _ hall => exact hall c (List.mem_of_getLast? hc)
  | capitalized _ hne hsmall =>
    rw [List.getLast?_cons_of_ne_nil hne] at hc
    exact hsmall c (List.mem_of_getLast? hc)

/-- The first character of a run is of its kind, or a capital before a small letter. -/
theorem IsRun.kind_head {kind : TokenKind} {c : Char} {t : List Char} (h : IsRun kind (c :: t)) :
    tokenKind c = kind ∨
      kind = .small ∧ tokenKind c = .capital ∧ ∃ d rest, t = d :: rest ∧ tokenKind d = .small := by
  cases h with
  | plain _ hall => exact .inl (hall c (by simp))
  | capitalized hc hne hsmall =>
    obtain ⟨d, rest, rfl⟩ := List.exists_cons_of_ne_nil hne
    exact .inr ⟨rfl, hc, d, rest, rfl, hsmall d (by simp)⟩

/-- A run of characters of one kind is a run of that kind. -/
theorem IsRun.kind_eq {kind k : TokenKind} {t : List Char} (h : IsRun kind t)
    (hall : ∀ c ∈ t, tokenKind c = k) : kind = k := by
  obtain ⟨c, hc⟩ := List.getLast?_isSome.2 h.ne_nil |> Option.isSome_iff_exists.1
  exact (h.kind_getLast c hc).symm.trans (hall c (List.mem_of_getLast? hc))

theorem joinsToken_iff {c : Char} {t : List Char} : joinsToken c t = true ↔
    (∀ d ∈ t, tokenKind d = tokenKind c) ∨
      tokenKind c = .capital ∧ ∀ d ∈ t, tokenKind d = .small := by
  simp [joinsToken]

theorem IsRun.cons {kind : TokenKind} {c : Char} {t : List Char} (h : IsRun kind t)
    (hj : joinsToken c t = true) : IsRun kind (c :: t) := by
  obtain hsame | ⟨hcapital, hsmall⟩ := joinsToken_iff.1 hj
  · obtain rfl := h.kind_eq hsame
    exact .plain (by simp) (by simpa using hsame)
  · obtain rfl := h.kind_eq hsmall
    exact .capitalized hcapital h.ne_nil hsmall

/-- The first character of a run joins the others, which are a run as well. -/
theorem IsRun.uncons {kind : TokenKind} {c : Char} {t : List Char} (h : IsRun kind (c :: t))
    (hne : t ≠ []) : joinsToken c t = true ∧ IsRun kind t := by
  refine ⟨joinsToken_iff.2 ?_, .plain hne h.kind_of_mem_tail⟩
  cases h with
  | plain _ hall =>
    obtain ⟨rfl, htail⟩ := List.forall_mem_cons.1 hall
    exact .inl htail
  | capitalized hcapital _ hsmall => exact .inr ⟨hcapital, hsmall⟩

/-! ## Cuts -/

/-- A token is not joined by the characters before it: it stands apart from what comes next. -/
def StandsApart (t : List Char) (next : List (List Char)) : Prop :=
  ∀ c ∈ t.getLast?, ∀ u ∈ next.head?, joinsToken c u = false

/-- Runs of which none goes on with the one behind it. -/
inductive IsCut : List (List Char) → Prop
  /-- No runs. -/
  | nil : IsCut []
  /-- A run in front of others. -/
  | cons {kind : TokenKind} {t : List Char} {ts : List (List Char)} :
    IsRun kind t → StandsApart t ts → IsCut ts → IsCut (t :: ts)

theorem IsCut.push {c : Char} {ts : List (List Char)} (h : IsCut ts) :
    IsCut (pushToken c ts) := by
  cases h with
  | nil => exact .cons (.singleton c) (by simp [StandsApart]) .nil
  | @cons kind t ts hrun hapart hts =>
    cases hj : joinsToken c t with
    | true =>
      have hlast : (c :: t).getLast? = t.getLast? := List.getLast?_cons_of_ne_nil hrun.ne_nil
      simpa [pushToken, hj] using
        IsCut.cons (hrun.cons hj) (by simpa [StandsApart, hlast] using hapart) hts
    | false =>
      simpa [pushToken, hj] using
        IsCut.cons (.singleton c) (by simpa [StandsApart] using hj) (.cons hrun hapart hts)

/-- No token of a name goes on with the one behind it. -/
theorem isCut_tokens (name : List Char) : IsCut (tokens name) := by
  induction name with
  | nil => exact .nil
  | cons c rest ih => exact ih.push

theorem IsCut.isRun {ts : List (List Char)} (h : IsCut ts) : ∀ t ∈ ts, ∃ kind, IsRun kind t := by
  induction h with
  | nil => simp
  | cons hrun _ _ ih => exact List.forall_mem_cons.2 ⟨⟨_, hrun⟩, ih⟩

@[simp] theorem tokens_nil : tokens [] = [] := rfl

@[simp] theorem tokens_cons (c : Char) (rest : List Char) :
    tokens (c :: rest) = pushToken c (tokens rest) := rfl

/-- A run that does not go on with the first token of a text is a token in front of it. -/
theorem IsRun.tokens_append {kind : TokenKind} {t rest : List Char} (h : IsRun kind t)
    (hapart : StandsApart t (tokens rest)) : tokens (t ++ rest) = t :: tokens rest := by
  induction t with
  | nil => exact absurd rfl h.ne_nil
  | cons c t ih =>
    cases t with
    | nil =>
      rw [List.singleton_append, tokens_cons]
      cases hts : tokens rest with
      | nil => rfl
      | cons u us =>
        have hj : joinsToken c u = false := hapart c (by simp) u (by simp [hts])
        simp [pushToken, hj]
    | cons d t =>
      obtain ⟨hj, htail⟩ := h.uncons (by simp)
      have hrest := ih htail (by simpa [StandsApart] using hapart)
      rw [List.cons_append, tokens_cons, hrest]
      simp [pushToken, hj]

theorem IsCut.tokens_flatten {ts : List (List Char)} (h : IsCut ts) : tokens ts.flatten = ts := by
  induction h with
  | nil => rfl
  | cons hrun hapart _ ih =>
    rw [List.flatten_cons, hrun.tokens_append (by rwa [ih]), ih]

/-- The tokens of a name are the only way to cut it. -/
theorem eq_tokens_iff {ts : List (List Char)} {name : List Char} :
    ts = tokens name ↔ ts.flatten = name ∧ IsCut ts := by
  constructor
  · rintro rfl
    exact ⟨flatten_tokens name, isCut_tokens name⟩
  · rintro ⟨rfl, hcut⟩
    exact hcut.tokens_flatten.symm

/-! ## The search from the start -/

/-- The alternatives of the search, in the order in which they are tried. -/
def tokenAlternatives : List TokenKind := [.capital, .small, .digit, .separator]

/-- An alternative takes some characters and leaves a rest: it takes a run of its kind, and
capitals only where no small letter comes next. -/
structure Takes (kind : TokenKind) (t rest : List Char) : Prop where
  /-- It takes a run. -/
  run : IsRun kind t
  /-- What comes next does not rule it out. -/
  ahead : kind = .capital → ∀ c ∈ rest.head?, tokenKind c ≠ .small

/-- What is found at the start of a text: the first alternative that takes anything takes as much
as it can. -/
structure FindsFirst (kind : TokenKind) (t rest : List Char) : Prop where
  /-- The alternative takes it. -/
  takes : Takes kind t rest
  /-- It cannot take more. -/
  longest : ∀ t' rest', t' ++ rest' = t ++ rest → Takes kind t' rest' → t'.length ≤ t.length
  /-- No alternative before it takes anything. -/
  first : ∀ k ∈ tokenAlternatives.takeWhile (· ≠ kind), ∀ t' rest', t' ++ rest' = t ++ rest →
    ¬ Takes k t' rest'

/-- All that is found in a text, one after the other. -/
inductive FindsAll : List Char → List (List Char) → Prop
  /-- At the end. -/
  | done : FindsAll [] []
  /-- Something is found, and the search goes on behind it. -/
  | found {kind : TokenKind} {t rest : List Char} {ts : List (List Char)} :
    FindsFirst kind t rest → FindsAll rest ts → FindsAll (t ++ rest) (t :: ts)
  /-- Nothing is found, and the search goes on at the next character. -/
  | skipped {c : Char} {rest : List Char} {ts : List (List Char)} :
    (∀ kind t rest', t ++ rest' = c :: rest → ¬ Takes kind t rest') →
      FindsAll rest ts → FindsAll (c :: rest) ts

/-- Where a token ends, its kind does not go on, except for a capital that starts the token behind
it. -/
theorem StandsApart.next {kind : TokenKind} {t : List Char} {ts : List (List Char)}
    (hrun : IsRun kind t) (hapart : StandsApart t ts) (hts : IsCut ts) {d : Char}
    {rest : List Char} (hrest : ts.flatten = d :: rest) :
    (kind = .capital → tokenKind d ≠ .small) ∧
      (tokenKind d = kind → kind = .capital ∧
        ∃ e rest', rest = e :: rest' ∧ tokenKind e = .small) := by
  obtain ⟨c, hc⟩ := Option.isSome_iff_exists.1 (List.getLast?_isSome.2 hrun.ne_nil)
  have hkind : tokenKind c = kind := hrun.kind_getLast c hc
  cases hts with
  | nil => simp at hrest
  | @cons ku u us hu _ _ =>
    have hj : ¬ joinsToken c u = true := by simp [hapart c hc u rfl]
    rw [joinsToken_iff, hkind, not_or, not_and] at hj
    obtain ⟨hsame, hsmall⟩ := hj
    obtain ⟨d', u', rfl⟩ := List.exists_cons_of_ne_nil hu.ne_nil
    obtain ⟨rfl, rfl⟩ : d' = d ∧ u' ++ us.flatten = rest := by simpa using hrest
    -- A character of the kind that `u` has makes all of `u` be of that kind.
    have hall (k : TokenKind) (hk : ku = k) (hd : tokenKind d' = k) :
        ∀ x ∈ d' :: u', tokenKind x = k :=
      List.forall_mem_cons.2 ⟨hd, hk ▸ hu.kind_of_mem_tail⟩
    obtain hd | ⟨rfl, hcapital, e, u'', rfl, he⟩ := hu.kind_head
    · exact ⟨fun hk hs => hsmall hk (hall _ (hd.symm.trans hs) hs),
        fun hk => absurd (hall kind (hd.symm.trans hk) hk) hsame⟩
    · refine ⟨by simp [hcapital], fun hk => ?_⟩
      obtain rfl : kind = .capital := hk.symm.trans hcapital
      exact ⟨rfl, e, u'' ++ us.flatten, rfl, he⟩

/-- An alternative that takes more than a token goes on with a character of its kind. -/
theorem Takes.length_le {kind : TokenKind} {t t' rest rest' : List Char} (hne : t ≠ [])
    (htakes : Takes kind t' rest') (heq : t' ++ rest' = t ++ rest)
    (hnext : ∀ d more, rest = d :: more → tokenKind d = kind → kind = .capital ∧
      ∃ e more', more = e :: more' ∧ tokenKind e = .small) : t'.length ≤ t.length := by
  obtain ⟨a, t, rfl⟩ := List.exists_cons_of_ne_nil hne
  obtain ⟨w, rfl, rfl⟩ | ⟨w, hw, -⟩ := List.append_eq_append_iff.1 heq.symm
  · cases w with
    | nil => simp
    | cons d w =>
      have hall : ∀ c ∈ d :: w, tokenKind c = kind := fun c hc =>
        htakes.run.kind_of_mem_tail c (by simpa using .inr (List.mem_cons.1 hc))
      obtain ⟨rfl, e, more, hmore, he⟩ := hnext d (w ++ rest') rfl (hall d (by simp))
      -- The small letter `e` is either taken as a capital or comes right after the capitals.
      cases w with
      | nil =>
        have hrest : rest' = e :: more := hmore
        exact absurd he (htakes.ahead rfl e (by simp [hrest]))
      | cons e' w =>
        obtain ⟨rfl, -⟩ : e' = e ∧ w ++ rest' = more := by simpa using hmore
        simp [hall e' (by simp)] at he
  · simp [hw]

/-- The alternatives before the one for a run take nothing where the run starts. -/
theorem IsRun.not_takes {kind k : TokenKind} {t t' rest rest' : List Char} (hrun : IsRun kind t)
    (hk : k ∈ tokenAlternatives.takeWhile (· ≠ kind)) (heq : t' ++ rest' = t ++ rest) :
    ¬ Takes k t' rest' := by
  intro htakes
  have hne : k ≠ kind := by simpa using List.all_eq_true.1 List.all_takeWhile k hk
  obtain ⟨a, t, rfl⟩ := List.exists_cons_of_ne_nil hrun.ne_nil
  obtain ⟨a', t', rfl⟩ := List.exists_cons_of_ne_nil htakes.run.ne_nil
  obtain ⟨rfl, htail⟩ : a' = a ∧ t' ++ rest' = t ++ rest := by simpa using heq
  obtain ha | ⟨rfl, hcapital, d, t, rfl, hd⟩ := hrun.kind_head
  · obtain ha' | ⟨rfl, hcapital, -⟩ := htakes.run.kind_head
    · exact hne (ha'.symm.trans ha)
    · obtain rfl : kind = .capital := ha.symm.trans hcapital
      simp [tokenAlternatives] at hk
  · obtain ha' | ⟨rfl, -⟩ := htakes.run.kind_head
    · obtain rfl : k = .capital := ha'.symm.trans hcapital
      -- One capital before a small letter: it is not to be taken alone, nor are both capitals.
      cases t' with
      | nil =>
        have hrest : rest' = d :: (t ++ rest) := htail
        exact htakes.ahead rfl d (by simp [hrest]) hd
      | cons d' t' =>
        obtain ⟨rfl, -⟩ : d' = d ∧ t' ++ rest' = t ++ rest := by simpa using htail
        simp [htakes.run.kind_of_mem_tail d' (by simp)] at hd
    · exact hne rfl

/-- The first token of a name is what is found first. -/
theorem IsCut.findsFirst {t : List Char} {ts : List (List Char)} (h : IsCut (t :: ts)) :
    ∃ kind, FindsFirst kind t ts.flatten := by
  cases h with
  | @cons kind t ts hrun hapart hts =>
    refine ⟨kind, ⟨hrun, fun hk d hd => ?_⟩, fun t' rest' heq htakes => ?_,
      fun k hk t' rest' heq => hrun.not_takes hk heq⟩
    · obtain ⟨rest, hrest⟩ := List.head?_eq_some_iff.1 hd
      exact (hapart.next hrun hts hrest).1 hk
    · exact htakes.length_le hrun.ne_nil heq fun d more hrest =>
        (hapart.next hrun hts hrest).2

theorem tokenAlternatives_total (k k' : TokenKind) : k = k' ∨
    k ∈ tokenAlternatives.takeWhile (· ≠ k') ∨ k' ∈ tokenAlternatives.takeWhile (· ≠ k) := by
  cases k <;> cases k' <;> decide

/-- Only one thing is found first. -/
theorem FindsFirst.unique {kind kind' : TokenKind} {t t' rest rest' : List Char}
    (h : FindsFirst kind t rest) (h' : FindsFirst kind' t' rest')
    (heq : t ++ rest = t' ++ rest') : t = t' ∧ rest = rest' := by
  obtain rfl | hbefore | hbefore := tokenAlternatives_total kind kind'
  · exact List.append_inj heq (Nat.le_antisymm (h'.longest t rest heq h.takes)
      (h.longest t' rest' heq.symm h'.takes))
  · exact absurd h.takes (h'.first kind hbefore t rest heq)
  · exact absurd h'.takes (h.first kind' hbefore t' rest' heq.symm)

theorem findsAll_of_isCut {ts : List (List Char)} (h : IsCut ts) : FindsAll ts.flatten ts := by
  induction ts with
  | nil => exact .done
  | cons t ts ih =>
    obtain ⟨kind, hfirst⟩ := h.findsFirst
    cases h with
    | cons _ _ hts => exact .found hfirst (ih hts)

/-- Something is found at the start of every text that is not empty: its first token. -/
theorem findsFirst_tokens {name : List Char} (hne : name ≠ []) :
    ∃ kind t ts, tokens name = t :: ts ∧ t ++ ts.flatten = name ∧
      FindsFirst kind t ts.flatten := by
  have hflatten := flatten_tokens name
  have hcut := isCut_tokens name
  cases hts : tokens name with
  | nil => simp [hts, hne.symm] at hflatten
  | cons t ts =>
    rw [hts] at hcut hflatten
    obtain ⟨kind, hfirst⟩ := hcut.findsFirst
    exact ⟨kind, t, ts, rfl, hflatten, hfirst⟩

/-- What is found in a name, one after the other, are its tokens. -/
theorem findsAll_iff {name : List Char} {ts : List (List Char)} :
    FindsAll name ts ↔ ts = tokens name := by
  constructor
  · intro h
    induction h with
    | done => rfl
    | @found kind t rest us hfirst _ ih =>
      obtain ⟨kind', t', ts', hts, heq, hfirst'⟩ := findsFirst_tokens
        (show t ++ rest ≠ [] by simp [hfirst.takes.run.ne_nil])
      obtain ⟨rfl, rfl⟩ := hfirst'.unique hfirst heq
      have hcut := isCut_tokens (t' ++ ts'.flatten)
      rw [hts] at hcut
      cases hcut with
      | cons _ _ hcut => rw [hts, ih, hcut.tokens_flatten]
    | skipped hnone _ _ =>
      obtain ⟨kind, t, ts, -, heq, hfirst⟩ := findsFirst_tokens (List.cons_ne_nil _ _)
      exact absurd hfirst.takes (hnone kind t ts.flatten heq)
  · rintro rfl
    have hall := findsAll_of_isCut (isCut_tokens name)
    rwa [flatten_tokens] at hall

end ShapeSum
