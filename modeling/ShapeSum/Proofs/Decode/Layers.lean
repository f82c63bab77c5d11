import ShapeSum.Proofs.Decode.Nested
import ShapeSum.Proofs.Decode.Verdicts
import ShapeSum.Proofs.Types.Settled

/-!
# Types in layers of arrays

A type can stand as the type of the items of an array, that array again as an item of
another one, and so on: the type around it is *layered*.  Beside an array each layer may
allow for whatever is no array.  Names in a layered type can be resolved without taking
the layers apart (`Layered.resolve`), and data in as many layers of arrays is taken when
the type inside takes all that lies innermost (`takes_iff_layered`).
-/

namespace ShapeSum

variable {types : Types} {inner t t' : FieldType} {k : Nat} {j : Json}

/-! ## Layers -/

namespace FieldType

/-- Whether a type may take arrays. -/
def takesArrays : FieldType → Bool
  | .list _ | .tuple _ | .any | .choice _ => true
  | _ => false

/-- A type stands in layers of arrays: the options of each layer that may take arrays are types of
lists, and there is one. -/
def Layered (inner : FieldType) : Nat → FieldType → Prop
  | 0, t => t = inner
  | k + 1, t => (∃ o ∈ t.options, o.takesArrays = true) ∧
      ∀ o ∈ t.options, o.takesArrays = true → ∃ item, o.ListOf item ∧ Layered inner k item

/-- The type of a field for a type in layers of arrays.  Without layers null is an option of its own
when the field is not required. -/
def LayeredFor (inner : FieldType) (required : Bool) : Nat → FieldType → Prop
  | 0, t => t = if required then inner else inner.optional
  | k + 1, t => Layered inner (k + 1) t

theorem isChoice_of_not_takesArrays (h : t.takesArrays = false) : t.isChoice = false := by
  cases t with
  | choice os => cases h
  | _ => rfl

theorem ListOf.isChoice (h : t'.ListOf t) : t'.isChoice = false := by
  cases h <;> rfl

/-- A type that takes no arrays is no choice, nor is one of lists. -/
theorem isChoice_of_listOf {o : FieldType}
    (h : o.takesArrays = true → ∃ item, o.ListOf item) : o.isChoice = false := by
  cases harr : o.takesArrays with
  | false => exact isChoice_of_not_takesArrays harr
  | true =>
    obtain ⟨item, hlist⟩ := h harr
    exact hlist.isChoice

/-- No option of a layer is a choice. -/
theorem Layered.isFlat (h : Layered inner (k + 1) t) : t.IsFlat :=
  fun o ho => isChoice_of_listOf fun harr => (h.2 o ho harr).imp fun _ h => h.1

/-- Null may be added to the outermost layer. -/
theorem Layered.optional (h : Layered inner (k + 1) t) : Layered inner (k + 1) t.optional := by
  have hoptions {o : FieldType} : o ∈ t.optional.options ↔ o ∈ t.options ∨ o = .null :=
    mem_options_optional h.isFlat
  obtain ⟨⟨o, ho, harr⟩, hall⟩ := h
  refine ⟨⟨o, hoptions.2 (.inl ho), harr⟩, fun o' ho' harr' => ?_⟩
  rcases hoptions.1 ho' with ho' | rfl
  · exact hall o' ho' harr'
  · cases harr'

/-- The type of a field, required or not, for a type in layers. -/
theorem Layered.layeredFor (h : Layered inner k t) (required : Bool) :
    LayeredFor inner required k (if required then t else t.optional) := by
  cases k with
  | zero =>
    cases h
    rfl
  | succ k =>
    cases required with
    | true => exact h
    | false => exact h.optional

theorem ListOf.takesArrays (h : t'.ListOf t) : t'.takesArrays = true := by
  cases h <;> rfl

/-- Options that are no choices stay the options when they are put together. -/
theorem mem_options_ofOptions {o : FieldType} {os : List FieldType}
    (h : ∀ o ∈ os, o.isChoice = false) : o ∈ (FieldType.ofOptions os).options ↔ o ∈ os := by
  have hplain (o : FieldType) (ho : o ∈ os) : o.options = [o] := options_of_not_isChoice (h o ho)
  unfold FieldType.ofOptions
  split
  · rw [hplain _ (List.mem_singleton_self _)]
  · have hflat : ∀ u ∈ os, u.IsFlat := by
      intro u hu o ho
      rw [hplain u hu, List.mem_singleton] at ho
      exact ho ▸ h u hu
    rw [mem_options_alternatives hflat]
    constructor
    · rintro ⟨u, hu, ho⟩
      rw [hplain u hu, List.mem_singleton] at ho
      exact ho ▸ hu
    · intro ho
      exact ⟨o, ho, hplain o ho ▸ List.mem_singleton_self o⟩

/-- A choice of options of which some are types of lists makes a layer. -/
theorem layered_ofOptions {os : List FieldType} (hsome : ∃ o ∈ os, o.takesArrays = true)
    (hall : ∀ o ∈ os, o.takesArrays = true → ∃ item, o.ListOf item ∧ Layered inner k item) :
    Layered inner (k + 1) (.ofOptions os) := by
  have hoptions {o : FieldType} : o ∈ (FieldType.ofOptions os).options ↔ o ∈ os :=
    mem_options_ofOptions fun o ho => isChoice_of_listOf fun harr =>
      (hall o ho harr).imp fun _ h => h.1
  obtain ⟨o, ho, harr⟩ := hsome
  exact ⟨⟨o, hoptions.2 ho, harr⟩, fun o' ho' => hall o' (hoptions.1 ho')⟩

/-! ## Resolving names -/

/-- The types of names stand for no arrays. -/
def Scalar (lookup : String → Option FieldType) : Prop :=
  ∀ n t, lookup n = some t → t.takesArrays = false

section Resolving

variable {lookup : String → Option FieldType} (hlookup : Scalar lookup)

include hlookup

theorem takesArrays_resolve (h : t.takesArrays = false) :
    (t.resolve lookup).takesArrays = false := by
  cases t with
  | named n =>
    rw [resolve]
    cases hn : lookup n with
    | none => rfl
    | some u => exact hlookup n u hn
  | list | tuple | any | choice => cases h
  | _ => exact h

omit hlookup in
/-- The options of a layer are resolved one by one. -/
theorem mem_options_resolve {o : FieldType} (ht : t.IsFlat)
    (hplain : ∀ o ∈ t.options, (o.resolve lookup).isChoice = false) :
    o ∈ (t.resolve lookup).options ↔ ∃ o' ∈ t.options, o'.resolve lookup = o := by
  by_cases hchoice : t.isChoice = true
  · obtain ⟨os, rfl⟩ : ∃ os, t = .choice os := by
      cases t with
      | choice os => exact ⟨os, rfl⟩
      | _ => cases hchoice
    have hoptions {o' : FieldType} (ho' : o' ∈ os) :
        (o'.resolve lookup).options = [o'.resolve lookup] :=
      options_of_not_isChoice (hplain o' ho')
    have hflat : ∀ u ∈ resolveAll lookup os, u.IsFlat := by
      rw [resolveAll_eq_map]
      intro u hu
      obtain ⟨o', ho', rfl⟩ := List.mem_map.1 hu
      intro o'' ho''
      rw [hoptions ho', List.mem_singleton] at ho''
      exact ho'' ▸ hplain o' ho'
    rw [resolve, mem_options_alternatives hflat, resolveAll_eq_map]
    constructor
    · rintro ⟨u, hu, ho⟩
      obtain ⟨o', ho', rfl⟩ := List.mem_map.1 hu
      rw [hoptions ho', List.mem_singleton] at ho
      exact ⟨o', ho', ho.symm⟩
    · rintro ⟨o', ho', rfl⟩
      refine ⟨_, List.mem_map_of_mem ho', ?_⟩
      rw [hoptions ho']
      exact List.mem_singleton_self _
  · have hself : t.options = [t] := options_of_not_isChoice (Bool.eq_false_iff.2 hchoice)
    rw [hself] at hplain ⊢
    rw [options_of_not_isChoice (hplain t (List.mem_singleton_self t))]
    simp [eq_comm]

omit hlookup in
theorem ListOf.resolve (h : t'.ListOf t) : (t'.resolve lookup).ListOf (t.resolve lookup) := by
  cases h with
  | list => exact .list
  | tuple => exact .tuple

/-- No choice comes of resolving a type that takes no arrays, nor one of lists. -/
theorem isChoice_resolve {o : FieldType} (h : o.takesArrays = true → ∃ item, o.ListOf item) :
    (o.resolve lookup).isChoice = false := by
  cases harr : o.takesArrays with
  | false => exact isChoice_of_not_takesArrays (takesArrays_resolve hlookup harr)
  | true =>
    obtain ⟨item, hlist⟩ := h harr
    exact hlist.resolve.isChoice

/-- Resolving the names in a layered type resolves those of the type inside. -/
theorem Layered.resolve (h : Layered inner k t) :
    Layered (inner.resolve lookup) k (t.resolve lookup) := by
  induction k generalizing t with
  | zero => exact congrArg (FieldType.resolve lookup) h
  | succ k ih =>
    have hflat := h.isFlat
    obtain ⟨⟨o, ho, harr⟩, hall⟩ := h
    have hmem {o' : FieldType} : o' ∈ (t.resolve lookup).options ↔
        ∃ o ∈ t.options, o.resolve lookup = o' := mem_options_resolve hflat fun o ho =>
      isChoice_resolve hlookup fun harr => (hall o ho harr).imp fun _ h => h.1
    refine ⟨?_, fun o' ho' harr' => ?_⟩
    · obtain ⟨item, hlist, -⟩ := hall o ho harr
      exact ⟨_, hmem.2 ⟨o, ho, rfl⟩, hlist.resolve.takesArrays⟩
    · obtain ⟨o, ho, rfl⟩ := hmem.1 ho'
      cases harr : o.takesArrays with
      | false =>
        rw [takesArrays_resolve hlookup harr] at harr'
        cases harr'
      | true =>
        obtain ⟨item, hlist, hitem⟩ := hall o ho harr
        exact ⟨_, hlist.resolve, ih hitem⟩

omit hlookup in
/-- Null is an option of its own beside a type that is neither null nor a choice. -/
theorem optional_eq_choice (hnull : t ≠ .null) (hplain : t.isChoice = false) :
    t.optional = .choice [t, .null] := by
  have hsame : same .null t = false := Bool.eq_false_iff.2 fun h => hnull ((same_iff _ _).1 h).symm
  rw [FieldType.optional, alternatives, List.flatMap_cons, options_of_not_isChoice hplain]
  simp [options, distinct, hsame]

/-- The same for the type of a field, if the type inside is neither null nor a choice. -/
theorem LayeredFor.resolve {required : Bool} (h : LayeredFor inner required k t)
    (hinner : inner ≠ .null) (hplain : inner.takesArrays = false) :
    LayeredFor (inner.resolve lookup) required k (t.resolve lookup) := by
  cases k with
  | succ k => exact Layered.resolve hlookup h
  | zero =>
    cases required with
    | true => exact congrArg (FieldType.resolve lookup) h
    | false =>
      rw [show t = inner.optional from h,
        optional_eq_choice hinner (isChoice_of_not_takesArrays hplain)]
      rfl

end Resolving

end FieldType

/-! ## Data -/

/-- Data lies in layers of arrays, and what is innermost has a property. -/
def Json.Layered (P : Json → Prop) : Nat → Json → Prop
  | 0, j => P j
  | k + 1, j => ∃ items, j = .arr items ∧ ∀ x ∈ items, Layered P k x

/-- No literal equals a list. -/
theorem Convert.literal_list (values : List Literal) (items : List Value) :
    Convert.literal values (.list items) = .error (.literal values) := by
  have hmatch : values.find? (matchesLiteral · (.list items)) = none :=
    List.find?_eq_none.2 fun l _ => by cases l <;> exact Bool.false_ne_true
  have hequal : values.reverse.find? (equalsLiteral · (.list items)) = none :=
    List.find?_eq_none.2 fun l _ => by cases l <;> exact Bool.false_ne_true
  unfold Convert.literal
  rw [hmatch, hequal]
  simp

/-- The judgement of an array by a type that takes no arrays is a refusal. -/
theorem judgement_arr_of_not_takesArrays (types : Types) (h : t.takesArrays = false)
    (items : List Json) :
    ∃ is, judgement types (.ofJson (.arr items)) t = .error is ∧ undefinedIn? is = none := by
  rw [judgement_eq]
  unfold judge
  cases t with
  | list | tuple | any | choice => cases h
  | model id =>
    unfold judgeModel
    dsimp only
    cases types.model? id with
    | none => exact ⟨_, rfl, rfl⟩
    | some m => exact ⟨_, rfl, rfl⟩
  | union id =>
    unfold judgeUnion
    dsimp only
    cases types.union? id with
    | none => exact ⟨_, rfl, rfl⟩
    | some u => exact ⟨_, rfl, rfl⟩
  | literal values =>
    exact ⟨_, congrArg (judgeScalar _) (Convert.literal_list values _), rfl⟩
  | _ => exact ⟨_, rfl, rfl⟩

namespace FieldType

/-- A type of lists takes an array when the type of the items takes every item. -/
theorem takes_listOf_iff (h : t'.ListOf t) {items : List Json} :
    t'.Takes types (.arr items) ↔ ∀ x ∈ items, t.Takes types x := by
  have hjudges : JudgesItems types t t' := judgesItems h
  obtain ⟨wrap, least, hjudged⟩ := hjudges.arr items
  unfold Takes
  rw [hjudged]
  constructor
  · rintro ⟨r, hr⟩ x hx
    obtain ⟨ts, hts, -⟩ := judgeItems_ofItems_eq_ok_iff.1 hr
    obtain ⟨r', -, hr'⟩ := exists_right_of_forall₂ hts hx
    exact ⟨r', hr'⟩
  · intro hall
    obtain ⟨ts, hts⟩ := exists_forall₂ hall
    exact ⟨_, judgeItems_ofItems_eq_ok_iff.2 ⟨ts, hts, rfl⟩⟩

/-- A choice takes an array when one of its options does, if no option leaves it open. -/
theorem takes_arr_iff {items : List Json} (hsome : ∃ o ∈ t.options, o.takesArrays = true)
    (hall : ∀ o ∈ t.options, o.takesArrays = true → o.Takes types (.arr items)) :
    t.Takes types (.arr items) := by
  obtain ⟨o, ho, harr⟩ := hsome
  cases t with
  | choice os =>
    have hnull : Value.ofJson (.arr items) = .null → .null ∉ os := nofun
    unfold Takes
    rw [judgement_choice hnull]
    refine exists_judgeChoice ⟨_, List.mem_map_of_mem (mem_others.2 ⟨ho, ?_⟩), hall o ho harr⟩
      fun q hq is his => ?_
    · rintro rfl
      cases harr
    · obtain ⟨o', ho', rfl⟩ := List.mem_map.1 hq
      cases harr' : o'.takesArrays with
      | false =>
        obtain ⟨is', his', hverdict⟩ := judgement_arr_of_not_takesArrays types harr' items
        cases his.symm.trans his'
        exact hverdict
      | true =>
        obtain ⟨r, hr⟩ := hall o' (mem_others.1 ho').1 harr'
        cases his.symm.trans hr
  | _ =>
    cases List.mem_singleton.1 ho
    exact hall _ ho harr

/-- Data in layers of arrays is taken exactly when all that is innermost is taken. -/
theorem takes_iff_layered (h : Layered inner k t) (hj : j.Layered (fun _ => True) k) :
    t.Takes types j ↔ j.Layered (inner.Takes types) k := by
  induction k generalizing t j with
  | zero =>
    cases h
    rfl
  | succ k ih =>
    obtain ⟨items, rfl, hitems⟩ := hj
    have hlist {o item : FieldType} (ho : o.ListOf item) (hitem : Layered inner k item) :
        o.Takes types (.arr items) ↔ ∀ x ∈ items, x.Layered (inner.Takes types) k := by
      rw [takes_listOf_iff ho]
      exact forall₂_congr fun x hx => ih hitem (hitems x hx)
    constructor
    · rintro ⟨r, hr⟩
      obtain ⟨o, ho, hor⟩ := exists_option_of_judgement hr
      cases harr : o.takesArrays with
      | false =>
        obtain ⟨is, his, -⟩ := judgement_arr_of_not_takesArrays types harr items
        cases hor.symm.trans his
      | true =>
        obtain ⟨item, hof, hitem⟩ := h.2 o ho harr
        exact ⟨items, rfl, (hlist hof hitem).1 ⟨r, hor⟩⟩
    · rintro ⟨items', he, hall⟩
      cases he
      refine takes_arr_iff h.1 fun o ho harr => ?_
      obtain ⟨item, hof, hitem⟩ := h.2 o ho harr
      exact (hlist hof hitem).2 hall

/-- A field takes such data exactly when all that is innermost is taken, and null when it is not
required. -/
theorem takes_iff_layeredFor {id : TypeId} {required : Bool}
    (h : LayeredFor (.model id) required k t) (hj : j.Layered (fun _ => True) k) :
    t.Takes types j ↔ j.Layered ((FieldType.model id).Takes types) k ∨ required = false ∧ j = .null := by
  cases k with
  | succ k =>
    rw [takes_iff_layered h hj]
    obtain ⟨items, rfl, -⟩ := hj
    simp
  | zero =>
    cases required with
    | true => simp [show t = .model id from h, Json.Layered]
    | false =>
      have ht : t = .choice [.model id, .null] := h
      subst ht
      by_cases hnull : j = .null
      · subst hnull
        exact ⟨fun _ => .inr ⟨rfl, rfl⟩, fun _ => ⟨_, judgement_optional_null⟩⟩
      · unfold Takes
        rw [judgement_optional (by simp) hnull]
        simp [hnull, Json.Layered]

end FieldType

end ShapeSum
