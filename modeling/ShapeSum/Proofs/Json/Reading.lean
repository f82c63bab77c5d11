import Mathlib.Data.List.Forall2
import ShapeSum.Proofs.Json.Numerals
import ShapeSum.Proofs.Json.Ordered
import ShapeSum.Proofs.Json.Strings

/-!
# Written values read back

A value that is written without blanks is read again wherever a value may end, and so are
arrays and objects of such texts.  What is read is the value with the members of all
objects in order (`parse_compact`).  So two values have one text only if they are the
same up to the order of members (`compact_eq_iff`).
-/

namespace ShapeSum.Json

namespace Reader

/-! ## Steps -/

section
variable {s t r : List Char} {x : Json} {xs : List Json} {key : List Char}
  {ms : List (String × Json)}

/-- A text starts with neither a blank, nor a closing bracket or brace, nor a byte order mark. -/
def Opens (s : List Char) : Prop :=
  ∃ c t, s = c :: t ∧ isSpace c = false ∧ c ≠ ']' ∧ c ≠ '\x7d' ∧ c ≠ '\uFEFF'

theorem Opens.skip (h : Opens s) : skip s = s := by
  obtain ⟨c, t, rfl, hc, -⟩ := h
  rw [Reader.skip, List.dropWhile_cons_of_neg (by rw [hc]; decide)]

theorem Opens.ne_bracket (h : Opens s) : s ≠ ']' :: t := by
  obtain ⟨c, u, rfl, -, hc, -⟩ := h
  exact fun he => hc (List.cons.inj he).1

theorem Opens.ne_brace (h : Opens s) : s ≠ '\x7d' :: t := by
  obtain ⟨c, u, rfl, -, -, hc, -⟩ := h
  exact fun he => hc (List.cons.inj he).1

theorem items_last (h : Yields (value s) x (']' :: r)) : Yields (items s) [x] r := by
  obtain ⟨hlt, h⟩ := h
  rw [items]
  simp only [h]
  exact ⟨_, rfl⟩

theorem items_cons (h : Yields (value s) x (',' :: t)) (hxs : Yields (items (skip t)) xs r) :
    Yields (items s) (x :: xs) r := by
  obtain ⟨hlt, h⟩ := h
  obtain ⟨hlt', hxs⟩ := hxs
  rw [items]
  simp only [h]
  split
  · cases ‹skip (',' :: t) = _›
  · rename_i hr
    cases hr
    simp only [hxs]
    exact ⟨_, rfl⟩
  · exact absurd rfl (‹∀ r, skip (',' :: t) = ',' :: r → False› t)

theorem value_arr_nil : Yields (value ('[' :: ']' :: r)) (.arr []) r := by
  rw [value]
  exact ⟨_, rfl⟩

theorem value_arr (hs : ∀ t, skip s = ']' :: t → False) (hxs : Yields (items (skip s)) xs r) :
    Yields (value ('[' :: s)) (.arr xs) r := by
  obtain ⟨hlt, hxs⟩ := hxs
  rw [value]
  split
  · exact (hs _ ‹_›).elim
  · simp only [hxs]
    exact ⟨_, rfl⟩

theorem value_obj_nil : Yields (value ('\x7b' :: '\x7d' :: r)) (.obj []) r := by
  rw [value]
  exact ⟨_, rfl⟩

theorem value_str {cs : List Char} (h : Yields (stringBody ('"' :: s) s) cs r) :
    Yields (value ('"' :: s)) (.str (String.ofList cs)) r := by
  obtain ⟨hlt, h⟩ := h
  rw [value]
  simp only [h]
  exact ⟨_, rfl⟩

theorem value_obj (hs : ∀ t, skip s = '\x7d' :: t → False)
    (hms : Yields (members (skip s)) ms r) :
    Yields (value ('\x7b' :: s)) (.obj (Entries.ofPairs ms)) r := by
  obtain ⟨hlt, hms⟩ := hms
  rw [value]
  split
  · exact (hs _ ‹_›).elim
  · simp only [hms]
    exact ⟨_, rfl⟩

theorem members_last (hk : Yields (stringBody ('"' :: s) s) key (':' :: t))
    (h : Yields (value (skip t)) x ('\x7d' :: r)) :
    Yields (members ('"' :: s)) [(String.ofList key, x)] r := by
  obtain ⟨hltk, hk⟩ := hk
  obtain ⟨hlt, h⟩ := h
  rw [members]
  simp only [hk]
  split
  · rename_i hr
    cases hr
    simp only [h]
    exact ⟨_, rfl⟩
  · exact absurd rfl (‹∀ r, skip (':' :: t) = ':' :: r → False› t)

theorem members_cons {u : List Char} (hk : Yields (stringBody ('"' :: s) s) key (':' :: t))
    (h : Yields (value (skip t)) x (',' :: u)) (hms : Yields (members (skip u)) ms r) :
    Yields (members ('"' :: s)) ((String.ofList key, x) :: ms) r := by
  obtain ⟨hltk, hk⟩ := hk
  obtain ⟨hlt, h⟩ := h
  obtain ⟨hlt', hms⟩ := hms
  rw [members]
  simp only [hk]
  split
  · rename_i hr
    cases hr
    simp only [h]
    split
    · cases ‹skip (',' :: u) = _›
    · rename_i hr
      cases hr
      simp only [hms]
      exact ⟨_, rfl⟩
    · exact absurd rfl (‹∀ r, skip (',' :: u) = ',' :: r → False› u)
  · exact absurd rfl (‹∀ r, skip (':' :: t) = ':' :: r → False› t)

theorem document_eq (h : Yields (value (skip s)) x []) : document s = .ok x := by
  obtain ⟨hlt, h⟩ := h
  rw [document, h]
  rfl

end

/-! ## Texts of values -/

section
variable {r : List Char} {text : String} {j : Json}

/-- A text that is read as a value wherever a value may end. -/
def Reads (text : String) (j : Json) : Prop :=
  ∀ r, Ends r → Opens (text.toList ++ r) ∧ Yields (value (text.toList ++ r)) j r

theorem reads_scalar (h : ∀ r, Ends r → readScalar? (text.toList ++ r) = some (j, r)) :
    Reads text j := by
  intro r hr
  have hscalar := h r hr
  cases ht : text.toList with
  | nil =>
    have hnil := h [] (fun c hc => by cases hc)
    rw [ht] at hnil
    cases hnil
  | cons c t =>
    rw [ht, List.cons_append] at hscalar
    -- No scalar starts with a mark or a blank.
    have hne {c' : Char} (hnone : readScalar? (c' :: (t ++ r)) = none) : c ≠ c' := by
      rintro rfl
      rw [hnone] at hscalar
      cases hscalar
    refine ⟨⟨c, t ++ r, rfl, ?_, hne rfl, hne rfl, hne rfl⟩, ?_⟩
    · simp only [isSpace, Bool.or_eq_false_iff, beq_eq_false_iff_ne]
      exact ⟨⟨⟨hne rfl, hne rfl⟩, hne rfl⟩, hne rfl⟩
    · have hlt : r.length < (c :: (t ++ r)).length := by
        rw [List.length_cons, List.length_append]
        omega
      rw [List.cons_append, value, hscalar]
      · simp only [dif_pos hlt]
        exact ⟨hlt, rfl⟩
      · exact hne rfl
      · exact hne rfl
      · exact hne rfl

theorem reads_str (s : String) : Reads (stringText s) (.str s) := by
  intro r hr
  rw [stringText, String.toList_ofList, List.cons_append, List.append_assoc]
  refine ⟨⟨_, _, rfl, rfl, by decide, by decide, by decide⟩, ?_⟩
  have h := value_str (r := r) (stringBody_escaped s.toList)
  rwa [String.ofList_toList] at h

/-- Texts of values, separated by commas, are read as items. -/
theorem items_texts {texts : List String} {js : List Json} (h : List.Forall₂ Reads texts js)
    (hne : texts ≠ []) :
    Opens ((",".intercalate texts).toList ++ ']' :: r) ∧
      Yields (items ((",".intercalate texts).toList ++ ']' :: r)) js r := by
  induction h with
  | nil => exact absurd rfl hne
  | @cons text j texts js hj hjs ih =>
    cases hjs with
    | nil =>
      rw [String.intercalate_singleton]
      obtain ⟨ho, hv⟩ := hj (']' :: r) (fun c hc => .inr (.inl (Option.some.inj hc).symm))
      exact ⟨ho, items_last hv⟩
    | @cons text' _ texts _ _ _ =>
      obtain ⟨ho', hi⟩ := ih (List.cons_ne_nil _ _)
      rw [String.intercalate_cons_cons, String.toList_append, String.toList_append,
        List.append_assoc, List.append_assoc]
      obtain ⟨ho, hv⟩ := hj (',' :: ((",".intercalate (text' :: texts)).toList ++ ']' :: r))
        (fun c hc => .inl (Option.some.inj hc).symm)
      exact ⟨ho, items_cons hv (ho'.skip.symm ▸ hi)⟩

/-- A key and the text of a value, as they stand in an object. -/
def memberText (p : String × String) : String := stringText p.1 ++ ":" ++ p.2

theorem toList_memberText (p : String × String) :
    (memberText p).toList ++ r =
      '"' :: (p.1.toList.flatMap escape ++ '"' :: ':' :: (p.2.toList ++ r)) := by
  rw [memberText, String.toList_append, String.toList_append, stringText, String.toList_ofList,
    List.cons_append, List.append_assoc, List.append_assoc, List.cons_append, List.append_assoc,
    List.append_assoc]
  rfl

theorem opens_memberText (p : String × String) : Opens ((memberText p).toList ++ r) := by
  rw [toList_memberText]
  exact ⟨_, _, rfl, rfl, by decide, by decide, by decide⟩

/-- Keys with texts of values, separated by commas, are read as members. -/
theorem members_texts {entries : List (String × String)} {ms : List (String × Json)}
    (h : List.Forall₂ (fun p q => p.1 = q.1 ∧ Reads p.2 q.2) entries ms) (hne : entries ≠ []) :
    Opens ((",".intercalate (entries.map memberText)).toList ++ '\x7d' :: r) ∧
      Yields (members ((",".intercalate (entries.map memberText)).toList ++ '\x7d' :: r)) ms r := by
  induction h with
  | nil => exact absurd rfl hne
  | @cons p q entries ms hp hms ih =>
    have hkey {start t : List Char} :
        Yields (stringBody start (p.1.toList.flatMap escape ++ '"' :: t)) p.1.toList t :=
      stringBody_escaped p.1.toList
    have hq : (String.ofList p.1.toList, q.2) = q := Prod.ext (String.ofList_toList.trans hp.1) rfl
    cases hms with
    | nil =>
      rw [List.map_singleton, String.intercalate_singleton]
      obtain ⟨ho, hv⟩ := hp.2 ('\x7d' :: r) (fun c hc => .inr (.inr (Option.some.inj hc).symm))
      have h := members_last hkey (ho.skip.symm ▸ hv)
      rw [hq, ← toList_memberText] at h
      exact ⟨opens_memberText p, h⟩
    | @cons p' _ entries _ _ _ =>
      obtain ⟨ho', hi⟩ := ih (List.cons_ne_nil _ _)
      rw [List.map_cons, List.map_cons, String.intercalate_cons_cons, String.toList_append,
        String.toList_append, List.append_assoc, List.append_assoc]
      rw [List.map_cons] at ho' hi
      obtain ⟨ho, hv⟩ := hp.2
        (',' :: ((",".intercalate (memberText p' :: entries.map memberText)).toList ++ '\x7d' :: r))
        (fun c hc => .inl (Option.some.inj hc).symm)
      have h := members_cons hkey (ho.skip.symm ▸ hv) (ho'.skip.symm ▸ hi)
      rw [hq, ← toList_memberText] at h
      exact ⟨opens_memberText p, h⟩

theorem toList_enclose_compact (depth : Nat) (opening closing : String) (texts : List String) :
    (enclose .compact depth opening closing texts).toList ++ r =
      opening.toList ++ ((",".intercalate texts).toList ++ (closing.toList ++ r)) := by
  cases texts <;> simp [enclose, Layout.break]

theorem reads_arr (depth : Nat) {texts : List String} {js : List Json}
    (h : List.Forall₂ Reads texts js) : Reads (enclose .compact depth "[" "]" texts) (.arr js) := by
  intro r _
  rw [toList_enclose_compact]
  refine ⟨⟨_, _, rfl, rfl, by decide, by decide, by decide⟩, ?_⟩
  by_cases hne : texts = []
  · subst hne
    cases h
    exact value_arr_nil
  · obtain ⟨ho, hi⟩ := items_texts (r := r) h hne
    exact value_arr (fun t ht => ho.ne_bracket (ho.skip ▸ ht)) (ho.skip.symm ▸ hi)

theorem reads_obj (depth : Nat) {entries : List (String × String)} {ms : List (String × Json)}
    (h : List.Forall₂ (fun p q => p.1 = q.1 ∧ Reads p.2 q.2) entries ms) :
    Reads (enclose .compact depth "\x7b" "\x7d" (entries.map memberText))
      (.obj (Entries.ofPairs ms)) := by
  intro r _
  rw [toList_enclose_compact]
  refine ⟨⟨_, _, rfl, rfl, by decide, by decide, by decide⟩, ?_⟩
  by_cases hne : entries = []
  · subst hne
    cases h
    exact value_obj_nil
  · obtain ⟨ho, hi⟩ := members_texts (r := r) h hne
    exact value_obj (fun t ht => ho.ne_brace (ho.skip ▸ ht)) (ho.skip.symm ▸ hi)

end

/-- Every value that is written without blanks is read with its members in order. -/
theorem reads_write (depth : Nat) (j : Json) : Reads (write .compact depth j) j.ordered := by
  induction j using Json.induct generalizing depth with
  | parts j ih =>
    cases j with
    | null => exact reads_scalar fun r _ => readScalar?_name (.head _)
    | bool b =>
      cases b with
      | true => exact reads_scalar fun r _ => readScalar?_name (.tail _ (.head _))
      | false => exact reads_scalar fun r _ => readScalar?_name (.tail _ (.tail _ (.head _)))
    | int n => exact reads_scalar fun r hr => readScalar?_int n hr
    | float x => exact reads_scalar fun r hr => readScalar?_float x hr
    | str s => exact reads_str s
    | arr items =>
      rw [write_arr, ordered_arr]
      refine reads_arr _ ?_
      rw [List.forall₂_map_left_iff, List.forall₂_map_right_iff, List.forall₂_same]
      exact fun x hx => ih x (.item hx) _
    | obj members =>
      have hmembers : List.Forall₂ (fun p q => p.1 = q.1 ∧ Reads p.2 q.2)
          ((Entries.sorted members).map fun p => (p.1, write .compact (depth + 1) p.2))
          ((Entries.sorted members).map fun p => (p.1, p.2.ordered)) := by
        rw [List.forall₂_map_left_iff, List.forall₂_map_right_iff, List.forall₂_same]
        intro p hp
        have hp : (p.1, p.2) ∈ members := (Entries.perm_sorted members).mem_iff.1 hp
        exact ⟨rfl, ih p.2 (.member hp) _⟩
      have h := reads_obj depth hmembers
      rw [List.map_map] at h
      rw [write_obj, ordered_obj]
      exact h

end Reader

/-! ## Reading back -/

variable {i j : Json}

/-- What was written without blanks is read with its members in order. -/
theorem parse_compact (j : Json) : parse j.compact = .ok j.ordered := by
  obtain ⟨ho, hv⟩ := Reader.reads_write 0 j [] (fun c hc => by cases hc)
  rw [List.append_nil] at ho hv
  have hdocument : Reader.document j.compact.toList = .ok j.ordered :=
    Reader.document_eq (ho.skip.symm ▸ hv)
  obtain ⟨c, t, ht, -, -, -, hc⟩ := ho
  have ht : j.compact.toList = c :: t := ht
  rw [ht] at hdocument
  rw [parse, ht]
  split
  · exact absurd (List.cons.inj ‹c :: t = _›).1 hc
  · rw [hdocument]

/-- Values that have one text are the same up to the order of members. -/
theorem ordered_eq_of_compact_eq (h : i.compact = j.compact) : i.ordered = j.ordered := by
  have hi := parse_compact i
  rw [h, parse_compact j] at hi
  exact (Except.ok.inj hi).symm

/-- Without repeated keys, the text and the value with its members in order determine each other. -/
theorem compact_eq_iff (hi : i.hasDistinctKeys = true) (hj : j.hasDistinctKeys = true) :
    i.compact = j.compact ↔ i.ordered = j.ordered := by
  refine ⟨ordered_eq_of_compact_eq, fun h => ?_⟩
  rw [compact, compact, ← write_ordered _ _ hi, ← write_ordered _ _ hj, h]

end ShapeSum.Json
