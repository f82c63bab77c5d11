import ShapeSum.Proofs.Decode.Fields
import ShapeSum.Proofs.Generation.Session

/-!
# The first variant that fits

A dispatch should select the first variant of the union that fits the keys, reject
the variants before it each for its own reason, and report what the selected
variant's model makes of the object.  `FirstFit` says so of a dispatch, with
nothing taken from the way it is computed.

The dispatch walks over the tags that are enumerated, so a variant with a hidden tag
is passed over without a word; and an error that is no verdict on the object
escapes.  `firstFit_iff` says that nothing else can go wrong.
-/

namespace ShapeSum

variable {types : Types} {u : UnionType} {keys : List String} {v : Variant}
  {variants : List Variant}

/-! ## What a dispatch should do -/

instance (d : Descriptor) (keys : List String) : Decidable (d.Fits keys) :=
  inferInstanceAs (Decidable ((∀ f ∈ d.required, f ∈ keys) ∧
    ∀ k ∈ keys, k ∈ d.required ∨ k ∈ d.optional))

/-- The first variant that fits some keys. -/
def firstFit? (keys : List String) (variants : List Variant) : Option Variant :=
  variants.find? fun v => decide (v.Fits keys)

/-- The variants before the first one that fits, or all if none does. -/
def passedOver (keys : List String) (variants : List Variant) : List Variant :=
  variants.takeWhile fun v => !decide (v.Fits keys)

section

variable {vs : List Variant}

theorem firstFit?_cons_of_fits (h : v.Fits keys) : firstFit? keys (v :: vs) = some v :=
  List.find?_cons_of_pos (decide_eq_true h)

theorem firstFit?_cons_of_not_fits (h : ¬v.Fits keys) :
    firstFit? keys (v :: vs) = firstFit? keys vs :=
  List.find?_cons_of_neg (by simpa)

theorem passedOver_cons_of_fits (h : v.Fits keys) : passedOver keys (v :: vs) = [] :=
  List.takeWhile_cons_of_neg (by simpa)

theorem passedOver_cons_of_not_fits (h : ¬v.Fits keys) :
    passedOver keys (v :: vs) = v :: passedOver keys vs :=
  List.takeWhile_cons_of_pos (by simpa)

end

/-- A list holds the names with a property, each once and in order. -/
structure Lists (names : List String) (p : String → Prop) : Prop where
  /-- The names ascend. -/
  ascending : names.Pairwise (· < ·)
  /-- They are the ones with the property. -/
  mem : ∀ n, n ∈ names ↔ p n

/-- The reason why a descriptor does not fit: the required fields that are missing, or if none is
the keys that are no fields. -/
inductive Reason (d : Descriptor) (keys : List String) : Rejection → Prop
  /-- Required fields are missing. -/
  | missing {names : List String} : names ≠ [] →
      Lists names (fun n => n ∈ d.required ∧ n ∉ keys) → Reason d keys (.missing d.tag names)
  /-- No required field is missing, but some keys are no fields. -/
  | extra {names : List String} : (∀ f ∈ d.required, f ∈ keys) → names ≠ [] →
      Lists names (fun n => n ∈ keys ∧ n ∉ d.required ∧ n ∉ d.optional) →
      Reason d keys (.extra d.tag names)

/-- One reason for each of some variants in turn. -/
inductive Reasons (keys : List String) : List Variant → List Rejection → Prop
  /-- No variants. -/
  | nil : Reasons keys [] []
  /-- A variant and its reason. -/
  | cons {v : Variant} {vs : List Variant} {r : Rejection} {rs : List Rejection} :
      Reason v.toDescriptor keys r → Reasons keys vs rs → Reasons keys (v :: vs) (r :: rs)

/-- An error that is a verdict on the data; the other kind escapes from a dispatch. -/
def DecodeError.IsVerdict : DecodeError → Prop
  | .rejected _ _ => True
  | .incomplete _ => False

/-- How a dispatch should end, given the first variant that fits and what its model makes of the
object. -/
def Ends (outcome : Outcome) (made : Variant → Except DecodeError Value) : Option Variant → Prop
  | none => outcome = .noMatch
  | some v => match made v with
    | .ok payload => outcome = .matched v payload
    | .error e => outcome = .failed v e ∧ e.IsVerdict

/-- What a dispatch of an object over a union should be. -/
structure FirstFit (types : Types) (u : UnionType) (entries : List (String × Value))
    (d : Dispatch) : Prop where
  /-- The keys are those of the object, sorted. -/
  keys : Lists d.keys (· ∈ Entries.keys entries)
  /-- The variants before the first one that fits are rejected in order, and no others. -/
  rejections : Reasons (Entries.keys entries) (passedOver (Entries.keys entries) u.variants)
    d.rejections
  /-- The first variant that fits decides. -/
  outcome : Ends d.outcome (fun v => materialize types v.type (.dict entries))
    (firstFit? (Entries.keys entries) u.variants)

/-! ## Fits and reasons -/

theorem lists_sortedNames (names : List String) : Lists (sortedNames names) (· ∈ names) :=
  ⟨pairwise_sortedNames names, fun n => mem_sortedNames n names⟩

/-- Sorting the keys does not change what fits. -/
theorem fits_sortedNames (d : Descriptor) (keys : List String) :
    d.Fits (sortedNames keys) ↔ d.Fits keys := by
  simp only [Descriptor.Fits, mem_sortedNames]

/-- A descriptor that fits is not rejected. -/
theorem rejection?_of_fits {d : Descriptor} (h : d.Fits keys) :
    d.rejection? (sortedNames keys) = none := by
  obtain ⟨hm, he⟩ := (d.fits_iff _).1 ((fits_sortedNames d keys).2 h)
  rw [Descriptor.rejection?, hm]
  dsimp only
  rw [he]

/-- An ordered descriptor that does not fit is rejected for its reason. -/
theorem rejection?_of_not_fits {d : Descriptor} (hd : d.Ordered) (h : ¬d.Fits keys) :
    ∃ r, d.rejection? (sortedNames keys) = some r ∧ Reason d keys r := by
  rw [Descriptor.rejection?]
  cases hm : d.missingFrom (sortedNames keys) with
  | cons m ms =>
    refine ⟨_, rfl, .missing (List.cons_ne_nil m ms) ?_⟩
    rw [← hm]
    refine ⟨hd.filter _, fun n => ?_⟩
    rw [Descriptor.missingFrom, List.mem_filter, Bool.not_eq_true', List.contains_eq_mem,
      decide_eq_false_iff_not, mem_sortedNames]
  | nil =>
    dsimp only
    cases he : d.extraIn (sortedNames keys) with
    | cons e es =>
      refine ⟨_, rfl, .extra (fun f hf => ?_) (List.cons_ne_nil e es) ?_⟩
      · exact (mem_sortedNames f keys).1 ((d.missingFrom_eq_nil_iff _).1 hm f hf)
      · rw [← he]
        refine ⟨pairwise_sortedNames _, fun n => ?_⟩
        rw [Descriptor.extraIn, mem_sortedNames, List.mem_filter, Bool.not_eq_true',
          List.contains_eq_mem, decide_eq_false_iff_not, mem_sortedNames, d.mem_fields, not_or]
    | nil => exact absurd ((fits_sortedNames d keys).1 ((d.fits_iff _).2 ⟨hm, he⟩)) h

/-- The selection finds the first variant that fits and rejects the variants before it. -/
theorem select_spec (keys : List String) (variants : List Variant)
    (hv : ∀ v ∈ variants, v.Ordered) :
    Reasons keys (passedOver keys variants) (select (sortedNames keys) variants).1 ∧
      (select (sortedNames keys) variants).2 = firstFit? keys variants := by
  induction variants with
  | nil => exact ⟨.nil, rfl⟩
  | cons v vs ih =>
    obtain ⟨hv, hvs⟩ := List.forall_mem_cons.1 hv
    by_cases hf : v.Fits keys
    · rw [select, rejection?_of_fits hf, firstFit?_cons_of_fits hf, passedOver_cons_of_fits hf]
      exact ⟨.nil, rfl⟩
    · obtain ⟨r, hr, hreason⟩ := rejection?_of_not_fits hv hf
      obtain ⟨hrs, hfound⟩ := ih hvs
      rw [select, hr, firstFit?_cons_of_not_fits hf, passedOver_cons_of_not_fits hf]
      exact ⟨.cons hreason hrs, hfound⟩

/-- There is one reason for each variant. -/
theorem Reasons.length_eq {rs : List Rejection} (h : Reasons keys variants rs) :
    rs.length = variants.length := by
  induction h with
  | nil => rfl
  | cons hr h ih => rw [List.length_cons, List.length_cons, ih]

/-! ## Hidden variants -/

/-- When the first variant that fits is kept, a filter does not change which one that is, and takes
from the variants before it only what it takes. -/
theorem firstFit?_filter {keep : Variant → Bool}
    (h : ∀ v, firstFit? keys variants = some v → keep v = true) :
    firstFit? keys (variants.filter keep) = firstFit? keys variants ∧
      passedOver keys (variants.filter keep) = (passedOver keys variants).filter keep := by
  induction variants with
  | nil => exact ⟨rfl, rfl⟩
  | cons v vs ih =>
    by_cases hf : v.Fits keys
    · rw [List.filter_cons_of_pos (h v (firstFit?_cons_of_fits hf)), firstFit?_cons_of_fits hf,
        firstFit?_cons_of_fits hf, passedOver_cons_of_fits hf, passedOver_cons_of_fits hf]
      exact ⟨rfl, rfl⟩
    · rw [firstFit?_cons_of_not_fits hf] at h ⊢
      rw [passedOver_cons_of_not_fits hf]
      obtain ⟨hfound, hbefore⟩ := ih h
      by_cases hk : keep v = true
      · rw [List.filter_cons_of_pos hk, List.filter_cons_of_pos hk,
          firstFit?_cons_of_not_fits hf, passedOver_cons_of_not_fits hf, hfound, hbefore]
        exact ⟨rfl, rfl⟩
      · rw [List.filter_cons_of_neg hk, List.filter_cons_of_neg hk]
        exact ⟨hfound, hbefore⟩

/-- The variants of a reachable union are ordered. -/
theorem Types.Ordered.of_union? (h : types.Ordered) {id : TypeId}
    (hu : types.union? id = some u) : ∀ v ∈ u.variants, v.Ordered := by
  unfold Types.union? at hu
  split at hu
  · rename_i w hw
    cases hu
    exact h u (List.mem_of_getElem? hw)
  · cases hu

/-! ## Dispatches -/

theorem keys_entryJudgements (types : Types) (entries : List (String × Value)) :
    Entries.keys (entryJudgements types entries) = Entries.keys entries := by
  induction entries with
  | nil => rfl
  | cons p rest ih =>
    obtain ⟨k, v⟩ := p
    exact congrArg (k :: ·) ih

/-- What a dispatch is, by the selection among the variants whose tags are enumerated. -/
theorem dispatch_eq (types : Types) (u : UnionType) (entries : List (String × Value)) :
    dispatch types u entries =
      dispatchOver u.tagged (Entries.keys entries) fun v =>
        materialize types v.type (.dict entries) := by
  show dispatchOver u.tagged (Entries.keys (entryJudgements types entries)) _ = _
  rw [keys_entryJudgements]
  rfl

/-- The model at a place comes to a verdict on a value: it is complete, and the value leads no union
inside to a model that is not. -/
structure Decides (types : Types) (id : TypeId) (v : Value) : Prop where
  /-- The model is complete. -/
  complete : types.isComplete id = true
  /-- What speaks against the value is a verdict. -/
  settled : ∀ is, judgement types v (.model id) = .error is → undefinedIn? is = none

/-- A model makes nothing of a value, but no verdict either, exactly when it does not decide. -/
theorem isVerdict_of_materialize {id : TypeId} {value : Value} {e : DecodeError}
    (h : materialize types id value = .error e) : e.IsVerdict ↔ Decides types id value := by
  cases e with
  | rejected name issues =>
    obtain ⟨hc, -, hj, hnone⟩ := materialize_eq_rejected_iff.1 h
    refine ⟨fun _ => ⟨hc, fun is his => ?_⟩, fun _ => trivial⟩
    cases hj.symm.trans his
    exact hnone
  | incomplete name =>
    refine ⟨fun hv => hv.elim, fun hd => ?_⟩
    obtain ⟨hc, -⟩ | ⟨-, issues, hj, hsome⟩ := materialize_eq_incomplete_iff.1 h
    · cases hc.symm.trans hd.complete
    · cases hsome.symm.trans (hd.settled issues hj)

/-- A model that takes a value decides. -/
theorem decides_of_materialize {id : TypeId} {value payload : Value}
    (h : materialize types id value = .ok payload) : Decides types id value := by
  obtain ⟨hc, t, ht, -⟩ := materialize_eq_ok_iff.1 h
  refine ⟨hc, fun is his => ?_⟩
  cases ht.symm.trans his

/-- A dispatch ends as it should for the variant that it selects, exactly when that one's model
decides. -/
theorem ends_dispatchOver_iff (variants : List Variant) (keys : List String)
    (entries : List (String × Value)) (hfound : (select (sortedNames keys) variants).2 =
      firstFit? keys variants) :
    Ends (dispatchOver variants keys fun v => materialize types v.type (.dict entries)).outcome
        (fun v => materialize types v.type (.dict entries)) (firstFit? keys variants) ↔
      ∀ v, firstFit? keys variants = some v → Decides types v.type (.dict entries) := by
  unfold dispatchOver
  dsimp only
  rw [hfound]
  cases firstFit? keys variants with
  | none => exact ⟨fun _ v hv => (nomatch hv), fun _ => rfl⟩
  | some v =>
    dsimp only [Ends]
    cases hm : materialize types v.type (.dict entries) with
    | ok payload =>
      refine ⟨fun _ w hw => ?_, fun _ => rfl⟩
      cases hw
      exact decides_of_materialize hm
    | error e =>
      have he := isVerdict_of_materialize hm
      refine ⟨fun h w hw => ?_, fun h => ⟨rfl, he.2 (h v rfl)⟩⟩
      cases hw
      exact he.1 h.2

/-- The outcome of a dispatch shows which variant it selected. -/
theorem firstFit?_of_ends {found expected : Option Variant}
    {made : Variant → Except DecodeError Value} {outcome : Outcome}
    (h : outcome = match found with
      | none => .noMatch
      | some v => match made v with
        | .ok payload => .matched v payload
        | .error e => .failed v e)
    (he : Ends outcome made expected) : found = expected := by
  subst h
  cases expected with
  | none =>
    cases found with
    | none => rfl
    | some v =>
      dsimp only [Ends] at he
      cases hm : made v <;> rw [hm] at he <;> cases he
  | some w =>
    dsimp only [Ends] at he
    cases found with
    | none => cases hw : made w <;> rw [hw] at he <;> simp at he
    | some v =>
      dsimp only at he
      cases hw : made w <;> cases hv : made v <;> rw [hw, hv] at he <;> simp at he <;> simp [he]

/-- A variant found among those whose tags are enumerated is not hidden. -/
theorem not_hidden_of_firstFit? (h : firstFit? keys u.tagged = some v) :
    (!isHiddenTag v.tag) = true :=
  (List.mem_filter.1 (List.mem_of_find?_eq_some h)).2

/-- For every union of a reachable state and every object, the dispatch selects the first variant
that fits, rejects those before it and reports the verdict of its model, exactly when no variant up
to that one has a hidden tag and its model comes to a verdict. -/
theorem firstFit_iff {s : Generation} (hs : Reachable s) {id : TypeId}
    (hu : s.types.union? id = some u) (entries : List (String × Value)) :
    FirstFit s.types u entries (dispatch s.types u entries) ↔
      (∀ v ∈ passedOver (Entries.keys entries) u.variants, isHiddenTag v.tag = false) ∧
      ∀ v, firstFit? (Entries.keys entries) u.variants = some v →
        isHiddenTag v.tag = false ∧ Decides s.types v.type (.dict entries) := by
  have hordered := hs.ordered.of_union? hu
  obtain ⟨hreasons, hfound⟩ := select_spec (Entries.keys entries) u.tagged
    fun v hv => hordered v (List.mem_filter.1 hv).1
  rw [dispatch_eq]
  constructor
  · rintro ⟨-, hr, ho⟩
    have hsame : firstFit? (Entries.keys entries) u.tagged =
        firstFit? (Entries.keys entries) u.variants :=
      hfound.symm.trans (firstFit?_of_ends rfl ho)
    have hkeep (v : Variant) (hv : firstFit? (Entries.keys entries) u.variants = some v) :
        (!isHiddenTag v.tag) = true := not_hidden_of_firstFit? (hsame.trans hv)
    obtain ⟨-, hbefore⟩ := firstFit?_filter hkeep
    have hlength : ((passedOver (Entries.keys entries) u.variants).filter
        (!isHiddenTag ·.tag)).length = (passedOver (Entries.keys entries) u.variants).length := by
      rw [← hbefore, ← hr.length_eq]
      exact hreasons.length_eq.symm
    rw [← hsame, ends_dispatchOver_iff u.tagged _ entries hfound] at ho
    refine ⟨fun v hv => ?_, fun v hv => ⟨?_, ho v (hsame.trans hv)⟩⟩
    · exact Bool.not_eq_true' _ ▸ List.length_filter_eq_length_iff.1 hlength v hv
    · exact Bool.not_eq_true' _ ▸ hkeep v hv
  · rintro ⟨hpassed, hfirst⟩
    have hkeep (v : Variant) (hv : firstFit? (Entries.keys entries) u.variants = some v) :
        (!isHiddenTag v.tag) = true := by
      rw [(hfirst v hv).1]
      rfl
    obtain ⟨hsame, hbefore⟩ := firstFit?_filter hkeep
    have hall : (passedOver (Entries.keys entries) u.variants).filter (!isHiddenTag ·.tag) =
        passedOver (Entries.keys entries) u.variants := by
      refine List.filter_eq_self.2 fun v hv => ?_
      rw [hpassed v hv]
      rfl
    refine ⟨lists_sortedNames _, ?_, ?_⟩
    · rw [← hall, ← hbefore]
      exact hreasons
    · rw [← hsame]
      refine (ends_dispatchOver_iff u.tagged _ entries hfound).2 fun v hv => ?_
      exact (hfirst v (hsame.symm.trans hv)).2

/-! ## A union with a hidden tag -/

/-- A document with a branch whose name has no letters. -/
def blankDocument : Json :=
  .obj [("oneOf", .arr [.obj [("$ref", .str "#/definitions/_")],
      .obj [("$ref", .str "#/definitions/dog")]]),
    ("definitions", .obj [
      ("_", .obj [("type", .str "object"), ("properties", .obj [
        ("a", .obj [("type", .str "string")])]), ("required", .arr [.str "a"])]),
      ("dog", .obj [("type", .str "object"), ("properties", .obj [
        ("bark", .obj [("type", .str "boolean")])]), ("required", .arr [.str "bark"])])])]

/-- The state after the union of the document was generated, with a tag for names that give
none. -/
def blankState (emptyTag : String) : Generation :=
  ((generate { config := { emptyTag } } "animal"
    ⟨blankDocument, "memory:///schema.json", ""⟩).run
    { store := (Store.empty fun _ => .unavailable "").add "memory:///schema.json"
        blankDocument }).2

theorem reachable_blankState (emptyTag : String) : Reachable (blankState emptyTag) :=
  .generated _ _ _ (.fresh _)

/-- An object for the branch whose name has no letters. -/
def blankEntries : List (String × Value) := [("a", .str "x")]

/-- With a tag that is not hidden, the object is dispatched as it should be. -/
theorem firstFit_blankState : ∃ u, (blankState "EMPTY_TAG").types.union? 2 = some u ∧
    FirstFit (blankState "EMPTY_TAG").types u blankEntries
      (dispatch (blankState "EMPTY_TAG").types u blankEntries) := by
  have h : ((blankState "EMPTY_TAG").types.union? 2).any (fun u =>
      (u.variants.all fun v => !isHiddenTag v.tag) &&
      (firstFit? (Entries.keys blankEntries) u.variants).all fun v =>
        (materialize (blankState "EMPTY_TAG").types v.type (.dict blankEntries)).isOk) = true := by
    decide +kernel
  obtain ⟨u, hu, hboth⟩ := (Option.any_eq_true _ _).1 h
  obtain ⟨hall, hmade⟩ := Bool.and_eq_true_iff.1 hboth
  have hshown (v : Variant) (hv : v ∈ u.variants) : isHiddenTag v.tag = false := by
    have hv := List.all_eq_true.1 hall v hv
    rwa [Bool.not_eq_true'] at hv
  refine ⟨u, hu, (firstFit_iff (reachable_blankState _) hu _).2 ⟨fun v hm => ?_, fun v hm => ?_⟩⟩
  · exact hshown v ((List.takeWhile_sublist _).mem hm)
  · rw [hm, Option.all_some] at hmade
    cases hok : materialize (blankState "EMPTY_TAG").types v.type (.dict blankEntries) with
    | ok payload =>
      exact ⟨hshown v (List.mem_of_find?_eq_some hm), decides_of_materialize hok⟩
    | error e =>
      rw [hok] at hmade
      cases hmade

/-- Whether no variant was selected. -/
def Outcome.isNoMatch : Outcome → Bool
  | .noMatch => true
  | _ => false

/-- A dispatch without a match does not end as it should when a variant fits. -/
theorem not_ends_of_isNoMatch {outcome : Outcome} {made : Variant → Except DecodeError Value}
    {found : Option Variant} (ho : outcome.isNoMatch = true) (hf : found.isSome = true) :
    ¬Ends outcome made found := by
  intro h
  cases found with
  | none => cases hf
  | some v =>
    dsimp only [Ends] at h
    cases hm : made v with
    | ok payload =>
      rw [hm] at h
      rw [h] at ho
      cases ho
    | error e =>
      rw [hm] at h
      rw [h.1] at ho
      cases ho

/-- With a hidden tag, the object fits the first variant and is not matched. -/
theorem exists_not_firstFit : ∃ u, Reachable (blankState "__e__") ∧
    (blankState "__e__").types.union? 2 = some u ∧
    ¬FirstFit (blankState "__e__").types u blankEntries
      (dispatch (blankState "__e__").types u blankEntries) := by
  have h : ((blankState "__e__").types.union? 2).any (fun u =>
      (dispatch (blankState "__e__").types u blankEntries).outcome.isNoMatch &&
        (firstFit? (Entries.keys blankEntries) u.variants).isSome) = true := by
    decide +kernel
  obtain ⟨u, hu, hboth⟩ := (Option.any_eq_true _ _).1 h
  rw [Bool.and_eq_true] at hboth
  refine ⟨u, reachable_blankState _, hu, fun hfirst => ?_⟩
  exact not_ends_of_isNoMatch hboth.1 hboth.2 hfirst.outcome

end ShapeSum
