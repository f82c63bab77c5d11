import Mathlib.Data.List.TakeWhile
import ShapeSum.Proofs.Schema.Locations

/-!
# Fragments are known by their locations

A location is the URI of a document, a hash and a pointer.  A reference names its
document by a URI without a hash, and joining it to a base without a hash gives none
either.  So from a document whose own URI has no hash, every location in reach can be
taken apart again; and a pointer leads to one fragment of its document only.  Hence
fragments in reach that share a location are one (`coherent_of_documents`).
-/

namespace ShapeSum

variable {view : String → Fetch} {f g h : Fragment} {uri : String} {root : Json}

/-! ## Characters of pieces -/

namespace Text

variable {sep c : Char} {s : List Char} {parts : List (List Char)}

theorem cut_fst_subset (c : Char) (s : List Char) : (cut c s).1 ⊆ s := by
  unfold cut
  split
  · exact List.Subset.refl s
  · exact (List.takeWhile_sublist _).subset

theorem not_mem_cut_fst (c : Char) (s : List Char) : c ∉ (cut c s).1 := by
  unfold cut
  split
  · rename_i hnil
    intro hc
    exact absurd (List.dropWhile_eq_nil_iff.1 hnil c hc) (by simp)
  · intro hc
    exact absurd (List.mem_takeWhile_imp hc) (by simp)

theorem cut_snd_subset (c : Char) (s : List Char) : (cut c s).2.getD [] ⊆ s := by
  unfold cut
  split
  · exact List.nil_subset s
  · rename_i hcons
    exact fun d hd => (List.dropWhile_sublist _).subset (hcons ▸ List.mem_cons_of_mem _ hd)

/-- Where a character does not occur, nothing comes behind it. -/
theorem cut_snd_of_not_mem (h : c ∉ s) : (cut c s).2 = none := by
  have hnil : s.dropWhile (· != c) = [] :=
    List.dropWhile_eq_nil_iff.2 fun d hd => bne_iff_ne.2 fun he => h (he ▸ hd)
  unfold cut
  rw [hnil]

/-- What stands before the first occurrence of a character and behind it is found again. -/
theorem cut_append (h : c ∉ s) (t : List Char) : cut c (s ++ c :: t) = (s, some t) := by
  have hall : ∀ d ∈ s, (d != c) = true := fun d hd => bne_iff_ne.2 fun he => h (he ▸ hd)
  have hdrop : (s ++ c :: t).dropWhile (· != c) = c :: t := by
    rw [List.dropWhile_append_of_pos hall, List.dropWhile_cons_of_neg (by simp)]
  have htake : (s ++ c :: t).takeWhile (· != c) = s := by
    rw [List.takeWhile_append_of_pos hall, List.takeWhile_cons_of_neg (by simp), List.append_nil]
  unfold cut
  rw [hdrop, htake]

theorem uptoLast_subset (c : Char) (s : List Char) : uptoLast c s ⊆ s := fun _ hd =>
  uptoLast_append_afterLast c s ▸ List.mem_append_left _ hd

theorem afterLast_subset (c : Char) (s : List Char) : afterLast c s ⊆ s := fun _ hd =>
  uptoLast_append_afterLast c s ▸ List.mem_append_right _ hd

theorem trimRight_subset (p : Char → Bool) (s : List Char) : trimRight p s ⊆ s := by
  intro d hd
  rw [trimRight, List.mem_reverse] at hd
  exact List.mem_reverse.1 ((List.dropWhile_sublist _).subset hd)

theorem subset_of_mem_splitOn {p : List Char} (h : p ∈ splitOn sep s) : p ⊆ s := by
  induction s generalizing p with
  | nil =>
    cases List.mem_singleton.1 h
    exact List.Subset.refl _
  | cons c s ih =>
    rw [splitOn] at h
    split at h
    · rcases List.mem_cons.1 h with rfl | h
      · exact List.nil_subset _
      · exact List.subset_cons_of_subset c (ih h)
    · split at h
      · cases List.mem_singleton.1 h
        exact List.cons_subset_cons c (List.nil_subset s)
      · rename_i q qs hq
        rcases List.mem_cons.1 h with rfl | h
        · exact List.cons_subset_cons c (ih (hq ▸ List.mem_cons_self))
        · exact List.subset_cons_of_subset c (ih (hq ▸ List.mem_cons_of_mem _ h))

theorem mem_of_mem_joinWith (h : c ∈ joinWith [sep] parts) : c = sep ∨ ∃ p ∈ parts, c ∈ p := by
  induction parts with
  | nil => cases h
  | cons p ps ih =>
    cases ps with
    | nil => exact .inr ⟨p, List.mem_cons_self, h⟩
    | cons q qs =>
      rw [joinWith, List.mem_append, List.mem_append, List.mem_singleton] at h
      · rcases h with (h | h) | h
        · exact .inr ⟨p, List.mem_cons_self, h⟩
        · exact .inl h
        · rcases ih h with h | ⟨r, hr, h⟩
          · exact .inl h
          · exact .inr ⟨r, List.mem_cons_of_mem _ hr, h⟩
      · exact List.cons_ne_nil q qs

end Text

/-! ## Joined URIs -/

namespace Uri

open ShapeSum.Text (cut splitOn joinWith uptoLast afterLast trimRight)

/-- No part of a URI has a hash, but for the fragment. -/
structure Parts.Hashless (p : Parts) : Prop where
  scheme : '#' ∉ p.scheme
  authority : '#' ∉ p.authority
  path : '#' ∉ p.path
  parameters : '#' ∉ p.parameters
  query : '#' ∉ p.query

/-- A small letter is no hash. -/
theorem toLower_ne_hash {c : Char} (h : c ≠ '#') : c.toLower ≠ '#' := by
  intro he
  unfold Char.toLower at he
  split at he
  · rename_i hupper
    have hcode : (c.toNat + 32) % 4294967296 = 35 := by simpa using congrArg Char.toNat he
    have hlarge : 65 ≤ c.toNat := hupper.1
    have hsmall : c.toNat ≤ 90 := hupper.2
    omega
  · exact h he

theorem splitScheme_fst_hashless (s : List Char) : '#' ∉ (splitScheme s).1 := by
  unfold splitScheme
  split
  · rename_i c cs rest hcut
    split
    · rename_i hscheme
      obtain ⟨hc, hcs⟩ := Bool.and_eq_true_iff.1 hscheme
      intro hmem
      obtain ⟨d, hd, he⟩ := List.mem_map.1 hmem
      refine toLower_ne_hash ?_ he
      rintro rfl
      rcases List.mem_cons.1 hd with rfl | hd
      · cases hc
      · cases List.all_eq_true.1 hcs '#' hd
    · exact List.not_mem_nil
  · exact List.not_mem_nil

theorem splitScheme_snd_subset (s : List Char) : (splitScheme s).2 ⊆ s := by
  unfold splitScheme
  split
  · rename_i c cs rest hcut
    split
    · have hrest := Text.cut_snd_subset ':' s
      rw [hcut] at hrest
      exact hrest
    · exact List.Subset.refl s
  · exact List.Subset.refl s

theorem splitAuthority_fst_hashless (s : List Char) : '#' ∉ (splitAuthority s).1 := by
  unfold splitAuthority
  split
  · intro hmem
    have hinside := List.mem_takeWhile_imp hmem
    simp at hinside
  · exact List.not_mem_nil

theorem splitAuthority_snd_subset (s : List Char) : (splitAuthority s).2 ⊆ s := by
  unfold splitAuthority
  split
  · exact ((List.dropWhile_sublist _).trans
      ((List.sublist_cons_self _ _).trans (List.sublist_cons_self _ _))).subset
  · exact List.Subset.refl s

/-- Splitting takes the hash of a URI away, with the fragment behind it. -/
theorem hashless_of_split {s : List Char} {p : Parts} (h : split s = .ok p) :
    p.Hashless ∧ ('#' ∉ s → p.fragment = []) := by
  unfold split at h
  dsimp only at h
  split at h
  · cases h
  · cases h
    generalize hclean : ((s.dropWhile fun c => decide (c.toNat ≤ 0x20)).filter fun c =>
      c != '\t' && c != '\r' && c != '\n') = clean
    have hbefore := Text.not_mem_cut_fst '#' (splitAuthority (splitScheme clean).2).2
    refine ⟨⟨splitScheme_fst_hashless _, splitAuthority_fst_hashless _, fun hc => ?_,
      List.not_mem_nil, fun hc => ?_⟩, fun hs => ?_⟩
    · exact hbefore (Text.cut_fst_subset _ _ hc)
    · exact hbefore (Text.cut_snd_subset _ _ hc)
    · have hrest : '#' ∉ (splitAuthority (splitScheme clean).2).2 := by
        intro hc
        have hmem := splitScheme_snd_subset _ (splitAuthority_snd_subset _ hc)
        rw [← hclean] at hmem
        exact hs ((List.dropWhile_sublist _).subset (List.mem_filter.1 hmem).1)
      show (cut '#' _).2.getD [] = []
      rw [Text.cut_snd_of_not_mem hrest]
      rfl

theorem Parts.Hashless.splitParameters {p : Parts} (h : p.Hashless) : p.splitParameters.Hashless := by
  unfold Parts.splitParameters
  split
  · refine ⟨h.scheme, h.authority, fun hc => h.path ?_, fun hc => h.path ?_, h.query⟩
    · rcases List.mem_append.1 hc with hc | hc
      · exact Text.uptoLast_subset _ _ hc
      · exact Text.afterLast_subset _ _ (Text.cut_fst_subset _ _ hc)
    · exact Text.afterLast_subset _ _ (Text.cut_snd_subset _ _ hc)
  · exact h

theorem fragment_splitParameters (p : Parts) : p.splitParameters.fragment = p.fragment := by
  unfold Parts.splitParameters
  split <;> rfl

/-- Parts without a hash and a fragment are put together to a URI without a hash. -/
theorem Parts.Hashless.unsplit {p : Parts} (h : p.Hashless) (hf : p.fragment = []) :
    '#' ∉ p.unsplit := by
  obtain ⟨hscheme, hauthority, hpath, hparameters, hquery⟩ := h
  simp only [Parts.unsplit, hf, List.isEmpty_nil, if_true]
  grind

/-- The document that a reference names has no hash. -/
theorem hashless_of_splitFragment {s document pointer : List Char}
    (h : splitFragment s = .ok (document, pointer)) : '#' ∉ document := by
  unfold splitFragment at h
  split at h
  · cases hsplit : split s with
    | error e =>
      rw [hsplit] at h
      cases h
    | ok p =>
      rw [hsplit] at h
      cases h
      have hp := (hashless_of_split hsplit).1.splitParameters
      exact Parts.Hashless.unsplit ⟨hp.scheme, hp.authority, hp.path, hp.parameters, hp.query⟩ rfl
  · rename_i hnone
    cases h
    simpa using hnone

/-! ### Paths -/

theorem mem_of_mem_resolveDots {done segments : List (List Char)} {p : List Char}
    (h : p ∈ resolveDots done segments) : p ∈ done ∨ p ∈ segments := by
  induction segments generalizing done with
  | nil => exact .inl (List.mem_reverse.1 h)
  | cons s segments ih =>
    rw [resolveDots] at h
    split at h
    · exact (ih h).imp List.mem_of_mem_tail (List.mem_cons_of_mem _)
    · split at h
      · exact (ih h).imp_right (List.mem_cons_of_mem _)
      · rcases ih h with h | h
        · exact (List.mem_cons.1 h).elim (fun he => .inr (he ▸ List.mem_cons_self)) .inl
        · exact .inr (List.mem_cons_of_mem _ h)

theorem dropInnerEmpty_subset (parts : List (List Char)) : dropInnerEmpty parts ⊆ parts := by
  cases parts with
  | nil => exact List.Subset.refl _
  | cons s rest =>
    rw [dropInnerEmpty]
    cases hfinal : rest.getLast? with
    | none => exact List.cons_subset_cons s (List.nil_subset rest)
    | some final =>
      refine List.cons_subset_cons s (List.append_subset.2 ⟨fun p hp => ?_, fun p hp => ?_⟩)
      · exact List.dropLast_subset rest (List.mem_filter.1 hp).1
      · exact List.mem_singleton.1 hp ▸ List.mem_of_getLast? hfinal

theorem mem_of_mem_normalSegments {absolute : Bool} {done segments : List (List Char)}
    {p : List Char} (h : p ∈ normalSegments absolute done segments) : p ∈ done ∨ p ∈ segments := by
  induction segments generalizing done with
  | nil => exact .inl (List.mem_reverse.1 h)
  | cons s segments ih =>
    have hlater (done' : List (List Char)) (hdone : ∀ q ∈ done', q ∈ done ∨ q = s)
        (h : p ∈ normalSegments absolute done' segments) : p ∈ done ∨ p ∈ s :: segments := by
      rcases ih h with h | h
      · exact (hdone p h).imp_right fun he => by rw [he]; exact List.mem_cons_self
      · exact .inr (List.mem_cons_of_mem _ h)
    unfold normalSegments at h
    split at h
    · exact hlater done (fun _ hq => .inl hq) h
    · split at h
      · exact hlater (s :: done) (fun _ hq => (List.mem_cons.1 hq).symm) h
      · split at h
        · refine hlater _ (fun q hq => ?_) h
          split at hq
          · cases hq
          · exact .inr (List.mem_singleton.1 hq)
        · refine hlater _ (fun q hq => ?_) h
          split at hq
          · exact (List.mem_cons.1 hq).symm
          · exact .inl (List.mem_cons_of_mem _ hq)

/-- Segments of paths without a hash are joined to a path without one. -/
theorem joinWith_hashless {segments : List (List Char)} (h : ∀ p ∈ segments, '#' ∉ p) :
    '#' ∉ joinWith ['/'] segments := by
  intro hc
  rcases Text.mem_of_mem_joinWith hc with he | ⟨p, hp, hc⟩
  · cases he
  · exact h p hp hc

theorem mergePaths_hashless {base path : List Char} (hb : '#' ∉ base) (hp : '#' ∉ path) :
    '#' ∉ mergePaths base path := by
  have hbase : ∀ p ∈ splitOn '/' base, '#' ∉ p := fun p hs hc =>
    hb (Text.subset_of_mem_splitOn hs hc)
  have hpath : ∀ p ∈ splitOn '/' path, '#' ∉ p := fun p hs hc =>
    hp (Text.subset_of_mem_splitOn hs hc)
  unfold mergePaths
  dsimp only
  generalize hparts : (if (splitOn '/' base).getLast? = some [] then splitOn '/' base
    else (splitOn '/' base).dropLast) = parts
  have hparts : ∀ p ∈ parts, '#' ∉ p := by
    intro p hp
    rw [← hparts] at hp
    split at hp
    · exact hbase p hp
    · exact hbase p (List.dropLast_subset _ hp)
  generalize hsegments : (if path.head? = some '/' then splitOn '/' path
    else dropInnerEmpty (parts ++ splitOn '/' path)) = segments
  have hsegments : ∀ p ∈ segments, '#' ∉ p := by
    intro p hp
    rw [← hsegments] at hp
    split at hp
    · exact hpath p hp
    · exact (List.mem_append.1 (dropInnerEmpty_subset _ hp)).elim (hparts p) (hpath p)
  have hresolved : ∀ p ∈ resolveDots [] segments, '#' ∉ p := fun p hp =>
    (mem_of_mem_resolveDots hp).elim (fun h => nomatch h) (hsegments p)
  generalize hall : (if segments.getLast? = some ['.'] ∨ segments.getLast? = some ['.', '.']
    then resolveDots [] segments ++ [[]] else resolveDots [] segments) = resolved
  have hall : ∀ p ∈ resolved, '#' ∉ p := by
    intro p hp
    rw [← hall] at hp
    split at hp
    · rcases List.mem_append.1 hp with hp | hp
      · exact hresolved p hp
      · cases List.mem_singleton.1 hp
        exact List.not_mem_nil
    · exact hresolved p hp
  split
  · decide
  · exact joinWith_hashless hall

theorem directory_subset (path : List Char) : directory path ⊆ path := by
  unfold directory
  dsimp only
  split
  · exact Text.uptoLast_subset _ _
  · exact fun _ hc => Text.uptoLast_subset _ _ (Text.trimRight_subset _ _ hc)

theorem beside_hashless {dir path : List Char} (hd : '#' ∉ dir) (hp : '#' ∉ path) :
    '#' ∉ beside dir path := by
  unfold beside
  split
  · exact hp
  · split <;> simp [hd, hp]

theorem normalPath_hashless {path : List Char} (h : '#' ∉ path) : '#' ∉ normalPath path := by
  have hsegments (absolute : Bool) :
      '#' ∉ joinWith ['/'] (normalSegments absolute [] (splitOn '/' path)) :=
    joinWith_hashless fun p hp hc => (mem_of_mem_normalSegments hp).elim (fun h => nomatch h)
      fun hs => h (Text.subset_of_mem_splitOn hs hc)
  have hwhole (lead : Nat) (absolute : Bool) : '#' ∉ List.replicate lead '/' ++
      joinWith ['/'] (normalSegments absolute [] (splitOn '/' path)) := by
    intro hc
    rcases List.mem_append.1 hc with hc | hc
    · cases List.eq_of_mem_replicate hc
    · exact hsegments absolute hc
  unfold normalPath
  by_cases hempty : path.isEmpty = true
  · rw [if_pos hempty]
    decide
  · rw [if_neg hempty]
    dsimp only
    generalize (if (path.takeWhile (· == '/')).length = 0 then 0
      else if (path.takeWhile (· == '/')).length = 2 then 2 else 1) = lead
    split
    · decide
    · exact hwhole lead _

/-! ### References to documents -/

theorem joinGeneral_hashless {base ref joined : List Char} (hb : '#' ∉ base) (hr : '#' ∉ ref)
    (h : joinGeneral base ref = .ok joined) : '#' ∉ joined := by
  unfold joinGeneral at h
  split at h
  · cases h
    exact hr
  · split at h
    · cases h
      exact hb
    · cases hsb : split base with
      | error e =>
        rw [hsb] at h
        cases h
      | ok b =>
        cases hsr : split ref with
        | error e =>
          rw [hsb, hsr] at h
          cases h
        | ok r =>
          rw [hsb, hsr] at h
          dsimp only [bind, Except.bind, pure, Except.pure] at h
          obtain ⟨hrh, hrf⟩ := hashless_of_split hsr
          have hbh := (hashless_of_split hsb).1.splitParameters
          generalize b.splitParameters = b' at h hbh
          generalize hscheme : Parts.splitParameters _ = r₁ at h
          have hr₁ : r₁.Hashless ∧ r₁.fragment = [] := by
            rw [← hscheme]
            refine ⟨Parts.Hashless.splitParameters ?_, (fragment_splitParameters _).trans ?_⟩
            · split
              · exact ⟨hbh.scheme, hrh.authority, hrh.path, hrh.parameters, hrh.query⟩
              · exact hrh
            · split <;> exact hrf hr
          generalize hauthority : (if listed authoritySchemes r₁.scheme = true then _ else r₁) = r₂
            at h
          have hr₂ : r₂.Hashless ∧ r₂.fragment = [] := by
            rw [← hauthority]
            split
            · exact ⟨⟨hr₁.1.scheme, hbh.authority, hr₁.1.path, hr₁.1.parameters, hr₁.1.query⟩, hr₁.2⟩
            · exact hr₁
          split at h
          · cases h
            exact hr
          · split at h
            · cases h
              exact hr₁.1.unsplit hr₁.2
            · split at h <;> cases h
              · refine Parts.Hashless.unsplit ⟨hr₂.1.scheme, hr₂.1.authority, hbh.path,
                  hbh.parameters, ?_⟩ hr₂.2
                show '#' ∉ if r₂.query.isEmpty = true then b'.query else r₂.query
                split
                · exact hbh.query
                · exact hr₂.1.query
              · exact Parts.Hashless.unsplit ⟨hr₂.1.scheme, hr₂.1.authority,
                  mergePaths_hashless hbh.path hr₂.1.path, hr₂.1.parameters, hr₂.1.query⟩ hr₂.2

/-- A reference without a hash that is joined to a base without one names a document by a URI
without one. -/
theorem join_hashless {base ref joined : String} (hb : '#' ∉ base.toList) (hr : '#' ∉ ref.toList)
    (h : join base ref = .ok joined) : '#' ∉ joined.toList := by
  unfold join at h
  dsimp only [bind, Except.bind, pure, Except.pure] at h
  split at h
  · cases h
  · split at h
    · cases h
      exact hr
    · split at h
      · cases h
      · rename_i general hgeneral
        split at h
        · cases h
        · split at h
          · cases h
            rw [String.toList_ofList]
            exact joinGeneral_hashless hb hr hgeneral
          · split at h
            · cases h
            · rename_i b hsb
              cases h
              have hbh := (hashless_of_split hsb).1.splitParameters
              have hdir : '#' ∉ if (directory b.splitParameters.path).isEmpty = true then ['/']
                  else directory b.splitParameters.path := by
                split
                · decide
                · exact fun hc => hbh.path (directory_subset _ hc)
              have hpath := normalPath_hashless (beside_hashless hdir hr)
              rw [String.toList_ofList]
              simp only [List.mem_append, List.mem_cons, not_or]
              exact ⟨hbh.scheme, by decide, by decide, by decide, hbh.authority, hpath⟩

end Uri

/-! ## Coherence -/

/-- Segments are known by their pointer. -/
theorem Pointer.eq_of_ofSegments {p q : List String} (h : ofSegments p = ofSegments q) : p = q := by
  have hlone {p : List String} (h : ofSegments p = ofSegments [""]) : p = [""] := by
    by_contra hp
    have hnil : p = [] := (split_ofSegments hp).symm.trans (by rw [h]; decide)
    rw [hnil] at h
    exact absurd h (by decide)
  by_cases hp : p = [""]
  · exact hp.trans (hlone (h.symm.trans (congrArg ofSegments hp))).symm
  · by_cases hq : q = [""]
    · exact absurd (hlone (h.trans (congrArg ofSegments hq))) hp
    · rw [← split_ofSegments hp, h, split_ofSegments hq]

/-- A fragment is found in a document whose URI has no hash. -/
structure Fragment.Placed (view : String → Fetch) (f : Fragment) : Prop where
  /-- The URI has no hash. -/
  hashless : '#' ∉ f.document.toList
  /-- Some segments lead to the fragment. -/
  child : ∃ root segments, view f.document = .content root ∧
    Fragment.child ⟨root, f.document, ""⟩ segments = .ok f

/-- Fragments are known by their locations. -/
theorem Fragment.Placed.eq_of_location (hg : g.Placed view) (hh : h.Placed view)
    (hlocation : g.location = h.location) : g = h := by
  have hcut (f : Fragment) (hf : '#' ∉ f.document.toList) :
      Text.cut '#' f.location.toList = (f.document.toList, some f.pointer.toList) := by
    rw [← Text.cut_append hf]
    simp [Fragment.location]
  have hboth := (hcut g hg.hashless).symm.trans (hlocation ▸ hcut h hh.hashless)
  have hdocument : g.document = h.document := String.toList_inj.1 (Prod.mk.inj hboth).1
  have hpointer : g.pointer = h.pointer :=
    String.toList_inj.1 (Option.some.inj (Prod.mk.inj hboth).2)
  obtain ⟨root, p, hview, hp⟩ := hg.child
  obtain ⟨root', q, hview', hq⟩ := hh.child
  rw [← hdocument] at hview' hq
  cases hview.symm.trans hview'
  rw [Fragment.pointer_of_child hp, Fragment.pointer_of_child hq] at hpointer
  cases Pointer.eq_of_ofSegments hpointer
  exact Except.ok.inj (hp.symm.trans hq)

theorem Fragment.Placed.extend (hf : f.Placed view) {segments : List String}
    (h : f.child segments = .ok g) : g.Placed view := by
  have hdocument : g.document = f.document := (Fragment.within_of_child h).2
  obtain ⟨root, p, hview, hp⟩ := hf.child
  rw [← hdocument] at hview hp
  exact ⟨hdocument ▸ hf.hashless, root, p ++ segments, hview,
    (Fragment.child_append hp).trans h⟩

/-- A part of a fragment is found from it by segments, if objects have no key twice. -/
theorem Fragment.HasPart.exists_child (hd : f.content.hasDistinctKeys = true) (h : f.HasPart g) :
    ∃ segments, f.child segments = .ok g := by
  cases h with
  | property hp => exact ⟨_, Fragment.child_of_mem_members hd hp⟩
  | branch hb =>
    obtain ⟨i, hi⟩ := List.mem_iff_getElem?.1 hb
    exact ⟨_, Fragment.child_of_branches hi⟩
  | items hitems => exact ⟨["items"], Fragment.child_cons (Json.step_of_get? hitems)⟩

/-- The target of a reference is found in a document whose URI has no hash. -/
theorem Hop.placed (hb : '#' ∉ f.document.toList) (hhop : Hop view f g) : g.Placed view := by
  obtain ⟨ref, -, hrun⟩ := hhop
  obtain ⟨document, pointer, uri, hsplit, huri, hrun⟩ := resolveRef_run_eq_ok_iff.1 hrun
  have hhash : '#' ∉ uri.toList := by
    unfold referenceUri at huri
    split at huri
    · cases huri
      exact hb
    · refine Uri.join_hashless hb ?_ huri
      rw [String.toList_ofList]
      exact Uri.hashless_of_splitFragment hsplit
  rw [run_fragment] at hrun
  split at hrun
  · rename_i root hview
    split at hrun
    · rename_i g' hlocate
      cases hrun
      have hdocument : g.document = uri := (Fragment.within_of_child hlocate).2
      subst hdocument
      exact ⟨hhash, root, _, hview, hlocate⟩
    · cases hrun
  · cases hrun
  · cases hrun

variable (hview : ∀ uri j, view uri = .content j → j.hasDistinctKeys = true)

include hview

theorem Fragment.Placed.hasDistinctKeys (hf : f.Placed view) : f.content.hasDistinctKeys = true := by
  obtain ⟨root, segments, hroot, hchild⟩ := hf.child
  exact (Fragment.within_of_child hchild).1.hasDistinctKeys (hview _ _ hroot)

/-- What is in reach is found in documents whose URIs have no hash. -/
theorem Reaches.placed (hf : f.Placed view) (h : Reaches view f g) : g.Placed view := by
  induction h with
  | refl => exact hf
  | part _ hp ih =>
    obtain ⟨segments, hs⟩ := hp.exists_child (ih.hasDistinctKeys hview)
    exact ih.extend hs
  | hop _ hh ih => exact hh.placed ih.hashless

/-- From a document whose URI has no hash, fragments in reach that share a location are one, as long
as the objects in documents have no key twice. -/
theorem coherent_of_documents (huri : '#' ∉ uri.toList) (hroot : view uri = .content root) :
    Coherent view ⟨root, uri, ""⟩ := by
  have hplaced : Fragment.Placed view ⟨root, uri, ""⟩ := ⟨huri, root, [], hroot, rfl⟩
  exact fun g h hg hh hl => (hg.placed hview hplaced).eq_of_location (hh.placed hview hplaced) hl

end ShapeSum
