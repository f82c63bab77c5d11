import ShapeSum.Proofs.Generation.Keeping

/-!
# Names and homes of types

A namespace tells types apart by their names, and no two names differ in the case of
letters only.  It also remembers where types were compiled: a type has one home at most,
and it is declared under its own name as long as it has one (`Named`).  Whatever a
session does next, names that stand for a type go on to do so, and a type that is
declared is at home nowhere else (`Onward`).  Both follow from the steps of generation,
since a name is declared once only and filled in once only.
-/

namespace ShapeSum

variable {mode : Mode} {view : String → Fetch} {s s' s'' : Generation}
  {past : List (String → Fetch)}

/-! ## Namespaces -/

namespace Namespace

variable {n : Namespace} {name : String}

/-- A name that is free in the sense of a namespace does not occur among its names, whatever the
case of letters. -/
theorem contains_eq_false_iff :
    n.contains name = false ↔ Text.lower name ∉ (Entries.keys n.names).map Text.lower := by
  simp [contains]

theorem get?_put (n : Namespace) (name : String) (h : Handle) (f : Option Fragment) (key : String) :
    (n.put name h f).get? key = if name = key then some h else n.get? key := by
  cases f <;> exact Entries.get?_set ..

/-- A name that has a value is contained. -/
theorem contains_of_get? {h : Handle} (hget : n.get? name = some h) : n.contains name = true := by
  by_contra hfree
  have hfree := contains_eq_false_iff.1 (Bool.eq_false_iff.2 hfree)
  have hkey : name ∈ Entries.keys n.names := by
    rw [← Entries.has_iff_mem_keys, Entries.has]
    simp [show Entries.get? n.names name = some h from hget]
  exact hfree (List.mem_map_of_mem hkey)

/-- The names after one is declared or filled in. -/
theorem keys_put (n : Namespace) (name : String) (h : Handle) (f : Option Fragment) :
    Entries.keys (n.put name h f).names =
      if name ∈ Entries.keys n.names then Entries.keys n.names
      else Entries.keys n.names ++ [name] := by
  cases f <;> exact Entries.keys_set ..

/-- A name that may be put down: it is new, or it is reserved. -/
def IsFree (n : Namespace) (name : String) : Prop :=
  n.contains name = false ∨ n.get? name = some .reserved

/-- A name that may be put down stands for nothing yet. -/
theorem IsFree.eq_reserved {h : Handle} (hfree : n.IsFree name) (hget : n.get? name = some h) :
    h = .reserved := by
  rcases hfree with hfree | hreserved
  · rw [contains_of_get? hget] at hfree
    cases hfree
  · rw [hreserved] at hget
    exact (Option.some.inj hget).symm

/-- Names that are told apart whatever the case of letters stay so. -/
theorem IsFree.nodup_put (hfree : n.IsFree name)
    (hn : ((Entries.keys n.names).map Text.lower).Nodup) (h : Handle) (f : Option Fragment) :
    ((Entries.keys (n.put name h f).names).map Text.lower).Nodup := by
  rw [keys_put]
  split
  · exact hn
  · rename_i hkey
    rcases hfree with hfree | hreserved
    · have hlower := contains_eq_false_iff.1 hfree
      rw [List.map_append, List.nodup_append]
      refine ⟨hn, by simp, fun l hl k hk he => ?_⟩
      rw [he, List.mem_singleton.1 hk] at hl
      exact hlower hl
    · have hhas : Entries.has n.names name = true := by
        simp [Entries.has, show Entries.get? n.names name = some .reserved from hreserved]
      exact absurd ((Entries.has_iff_mem_keys _ _).1 hhas) hkey

end Namespace

/-! ## States -/

/-- The type that a handle stands for. -/
def Handle.typeId? : Handle → Option TypeId
  | .model id => some id
  | .union id => some id
  | _ => none

/-- A handle stands for a type that is declared under its own name. -/
def Generation.Declares (s : Generation) (h : Handle) : Prop :=
  ∃ id, h.typeId? = some id ∧ id < s.types.length ∧ s.names.get? (s.types.nameOf id) = some h

/-- A type is remembered for some content at a location. -/
def Generation.IsHome (s : Generation) (h : Handle) (location : String) : Prop :=
  ∃ content, Entries.get? s.names.compiled location = some (content, h)

/-- Names and types are told apart. -/
structure Named (s : Generation) : Prop where
  /-- No two names differ in the case of letters only. -/
  nodup : ((Entries.keys s.names.names).map Text.lower).Nodup
  /-- A type that is remembered is declared. -/
  declares : ∀ {h location}, s.IsHome h location → s.Declares h
  /-- It is remembered at one location only. -/
  home : ∀ {h l l'}, s.IsHome h l → s.IsHome h l' → l = l'

/-- A state comes after another one: what is declared stays declared, and gets no new home. -/
structure Onward (s s' : Generation) : Prop where
  /-- The types have grown. -/
  types : s.types.Grow s'.types
  /-- Names go on to stand for what they stand for. -/
  names : ∀ {name h}, s.names.get? name = some h → h ≠ .reserved → s'.names.get? name = some h
  /-- A type that was declared is at home where it was. -/
  homes : ∀ {h location}, s'.IsHome h location → s.Declares h → s.IsHome h location

theorem Generation.Declares.onward {h : Handle} (hd : s.Declares h) (ho : Onward s s') :
    s'.Declares h := by
  obtain ⟨id, hid, hlt, hget⟩ := hd
  refine ⟨id, hid, Nat.lt_of_lt_of_le hlt ho.types.length, ?_⟩
  rw [ho.types.name hlt]
  refine ho.names hget ?_
  rintro rfl
  cases hid

theorem Onward.trans (h : Onward s s') (h' : Onward s' s'') : Onward s s'' where
  types := h.types.trans h'.types
  names hget hne := h'.names (h.names hget hne) hne
  homes hhome hd := h.homes (h'.homes hhome (hd.onward h)) hd

theorem Generation.isHome_of_remembers {f : Fragment} {h : Handle} (hr : s.names.Remembers f h) :
    s.IsHome h f.location := by
  obtain ⟨content, hget, -⟩ := hr
  exact ⟨content, hget⟩

/-! ## Steps -/

/-- Names and types stay apart where names stay and types grow. -/
theorem Named.grow (h : Named s) (hn : s'.names = s.names) (ht : s.types.Grow s'.types) :
    Named s' ∧ Onward s s' := by
  have hhome {handle : Handle} {l : String} : s'.IsHome handle l ↔ s.IsHome handle l := by
    simp [Generation.IsHome, hn]
  have honward : Onward s s' := ⟨ht, fun hget _ => hn ▸ hget, fun hl _ => hhome.1 hl⟩
  exact ⟨⟨hn ▸ h.nodup, fun hl => (h.declares (hhome.1 hl)).onward honward,
    fun hl hl' => h.home (hhome.1 hl) (hhome.1 hl')⟩, honward⟩

theorem Named.onward_refl (h : Named s) : Onward s s := (h.grow rfl (Types.grow_refl _)).2

/-- Names and types are all that counts. -/
theorem Named.of_eq (h : Named s) (hn : s'.names = s.names) (ht : s'.types = s.types) : Named s' :=
  (h.grow hn (ht ▸ Types.grow_refl _)).1

/-- A name is reserved. -/
theorem Named.reserve {name : String} (h : Named s) (hfree : s.names.contains name = false) :
    Named (s.put name .reserved none) ∧ Onward s (s.put name .reserved none) := by
  have hfree : s.names.IsFree name := .inl hfree
  have honward : Onward s (s.put name .reserved none) := by
    refine ⟨Types.grow_refl _, fun {key handle} hget hne => ?_, fun hl _ => hl⟩
    refine (Namespace.get?_put ..).trans ((if_neg ?_).trans hget)
    rintro rfl
    exact hne (hfree.eq_reserved hget)
  exact ⟨⟨hfree.nodup_put h.nodup _ _, fun hl => (h.declares hl).onward honward, h.home⟩, honward⟩

/-- A name is put down for a new type, which is remembered for a fragment. -/
theorem Named.put {name : String} {handle : Handle} {id : TypeId} {f : Fragment} (h : Named s)
    (hfree : s.names.IsFree name) (hid : handle.typeId? = some id) (hlt : id < s.types.length)
    (hname : s.types.nameOf id = name) :
    Named (s.put name handle (some f)) ∧ Onward s (s.put name handle (some f)) := by
  -- The type has no home yet, since nothing is declared under its name.
  have hnew : ¬s.Declares handle := by
    rintro ⟨id', hid', -, hget⟩
    cases hid.symm.trans hid'
    cases hfree.eq_reserved (hname ▸ hget)
    cases hid
  have hhome {handle' : Handle} {l : String} (hl : (s.put name handle (some f)).IsHome handle' l) :
      handle' = handle ∧ l = f.location ∨ s.IsHome handle' l := by
    obtain ⟨content, hget⟩ := hl
    change Entries.get? (Entries.set s.names.compiled f.location (f.content, handle)) l = _ at hget
    rw [Entries.get?_set] at hget
    split at hget
    · rename_i he
      cases hget
      exact .inl ⟨rfl, he.symm⟩
    · exact .inr ⟨content, hget⟩
  have honward : Onward s (s.put name handle (some f)) := by
    refine ⟨Types.grow_refl _, fun {key handle'} hget hne => ?_, fun {handle' l} hl hd => ?_⟩
    · refine (Namespace.get?_put ..).trans ((if_neg ?_).trans hget)
      rintro rfl
      exact hne (hfree.eq_reserved hget)
    · rcases hhome hl with ⟨rfl, -⟩ | hl
      · exact absurd hd hnew
      · exact hl
  refine ⟨⟨hfree.nodup_put h.nodup _ _, fun {handle' l} hl => ?_, fun {handle' l l'} hl hl' => ?_⟩,
    honward⟩
  · rcases hhome hl with ⟨rfl, -⟩ | hl
    · refine ⟨id, hid, hlt, (Namespace.get?_put ..).trans (if_pos hname.symm)⟩
    · exact (h.declares hl).onward honward
  · rcases hhome hl with ⟨rfl, rfl⟩ | hold <;> rcases hhome hl' with ⟨he, rfl⟩ | hold'
    · rfl
    · exact absurd (h.declares hold') hnew
    · exact absurd (h.declares (he ▸ hold)) hnew
    · exact h.home hold hold'

/-- A union is kept, and its name filled in. -/
theorem Named.leave {id : TypeId} {u : UnionType} (h : Named s) (f : Fragment)
    (hu : s.types.union? id = some u) (hreserved : s.names.get? u.name = some .reserved) :
    Named (s.leave u.name id f) ∧ Onward s (s.leave u.name id f) := by
  have hput : Named (s.put u.name (.union id) (some f)) ∧
      Onward s (s.put u.name (.union id) (some f)) :=
    h.put (.inr hreserved) rfl (Types.lt_length_of_union? hu) (Types.nameOf_of_union? hu)
  exact ⟨⟨hput.1.nodup, hput.1.declares, hput.1.home⟩, hput.2.types, hput.2.names, hput.2.homes⟩

/-- Generation keeps names and types apart, and moves onward. -/
theorem upkeep_onward (mode : Mode) (s₀ : Generation) :
    Upkeep mode s₀.store.view fun s =>
      s.store.view = s₀.store.view ∧ Named s ∧ Onward s₀ s := by
  have hstep {s s' : Generation} (hs : s.store.view = s₀.store.view ∧ Named s ∧ Onward s₀ s)
      (hview : s'.store.view = s.store.view) (h : Named s → Named s' ∧ Onward s s') :
      s'.store.view = s₀.store.view ∧ Named s' ∧ Onward s₀ s' :=
    ⟨hview.trans hs.1, (h hs.2.1).1, hs.2.2.trans (h hs.2.1).2⟩
  exact
    { documents := fun hs => hs.1
      frame := fun hs hview hn _ ht => hstep hs hview fun h => h.grow hn (ht ▸ Types.grow_refl _)
      model := fun hs _ => hstep hs rfl fun h => h.grow rfl (Types.grow_append _ _)
      declare := fun hs hm _ hfree => hstep hs rfl fun h =>
        h.put (.inl hfree) rfl (Types.lt_length_of_model? hm) (Types.nameOf_of_model? hm)
      settle := fun hs hm hset => hstep hs rfl fun h => h.grow rfl (Types.grow_settle hm hset)
      reserve := fun hs hfree => hstep hs rfl fun h => h.reserve hfree
      union := fun hs _ => hstep hs rfl fun h => h.grow rfl (Types.grow_append _ _)
      keep := fun hs hu _ hreserved => hstep hs rfl fun h => h.leave _ hu hreserved }

/-! ## Sessions -/

/-- A session keeps names and types apart. -/
theorem Session.named (h : Session past s) : Named s := by
  induction h with
  | fresh store =>
    exact ⟨.nil, fun ⟨_, hget⟩ => (nomatch hget), fun ⟨_, hget⟩ => (nomatch hget)⟩
  | anew store h ih => exact ih.of_eq rfl rfl
  | @request past s mode q h ih =>
    cases q with
    | generate base f =>
      exact (upholds_generate (upkeep_onward mode s) base f s ⟨rfl, ih, ih.onward_refl⟩).1.2.1
    | _ => exact ih.of_eq rfl rfl
  | @compiled past s mode name f h ih =>
    exact (upholds_compileModel (upkeep_onward mode s) name f s ⟨rfl, ih, ih.onward_refl⟩).1.2.1

/-- Whatever the steps of a session did and however they failed, no two names differ in the case of
letters only, and what is remembered for a location is a type that is declared under its own
name. -/
theorem Session.nodup_and_declares (h : Session past s) :
    ((Entries.keys s.names.names).map Text.lower).Nodup ∧
      ∀ location content handle, Entries.get? s.names.compiled location = some (content, handle) →
        ∃ id, handle.typeId? = some id ∧ id < s.types.length ∧
          s.names.get? (s.types.nameOf id) = some handle :=
  ⟨h.named.nodup, fun _ content _ hget => h.named.declares ⟨content, hget⟩⟩

/-- A description of objects with a property of its own kind. -/
def petFragment : Fragment :=
  ⟨.obj [("properties", .obj [("friend", .obj [("$ref", .str "#")])])], "memory:///pet.json", ""⟩

/-- The settings and everything else as they are by default. -/
def plainMode : Mode := { config := {} }

/-- The state after an object was compiled, with the document that describes it at hand. -/
def petState : Generation :=
  ((compileModel plainMode "Pet" petFragment).run
    { store := (Store.empty fun _ => .unavailable "").add "memory:///pet.json"
        petFragment.content }).2

/-- A description of objects with a reference to nothing, behind a property that is an object. -/
def strayFragment : Fragment :=
  ⟨.obj [("properties", .obj [
      ("owner", .obj [("type", .str "object"), ("properties", .obj [])]),
      ("home", .obj [("$ref", .str "#/nowhere")])])], "memory:///stray.json", ""⟩

/-- The state after another object failed to compile. -/
def strayState : Generation := ((compileModel plainMode "PET" strayFragment).run petState).2

/-- An object that was compiled is declared under its name after another one failed to. -/
theorem nodup_and_declares_strayState : ∃ past, Session past strayState ∧
    ((compileModel plainMode "PET" strayFragment).run petState).1.toOption.isNone = true ∧
    (∃ content handle, Entries.get? strayState.names.compiled petFragment.location =
      some (content, handle) ∧ ∃ id, handle.typeId? = some id ∧ id < strayState.types.length ∧
        strayState.names.get? (strayState.types.nameOf id) = some handle) ∧
    ((Entries.keys strayState.names.names).map Text.lower).Nodup := by
  have hfailed :
      ((compileModel plainMode "PET" strayFragment).run petState).1.toOption.isNone = true := by
    decide +kernel
  have hhas : (Entries.get? strayState.names.compiled petFragment.location).isSome = true := by
    decide +kernel
  have hs := Session.compiled plainMode "PET" strayFragment
    (.compiled plainMode "Pet" petFragment (.fresh ((Store.empty fun _ => .unavailable "").add
      "memory:///pet.json" petFragment.content)))
  obtain ⟨⟨content, handle⟩, hget⟩ := Option.isSome_iff_exists.1 hhas
  obtain ⟨hnodup, hdeclares⟩ := Session.nodup_and_declares hs
  exact ⟨_, hs, hfailed, ⟨content, handle, hget, hdeclares _ _ _ hget⟩, hnodup⟩

end ShapeSum
