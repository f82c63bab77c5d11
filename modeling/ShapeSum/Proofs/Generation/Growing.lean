import ShapeSum.Proofs.Generation.Closing
import ShapeSum.Proofs.Generation.Depiction
import ShapeSum.Proofs.Generation.Linking

/-!
# States that grow to an end

A generation is looked at from the state `e` in which it ends.  As long as it succeeds, its
states grow into each other: names, types and reports stay, no marks are added, and names
are kept with what was compiled under them (`Grows`, `Booked`).

A state is on the way to `e` when it grows into it and whatever was put down so far is
linked by what there is in `e` (`OnWay`).  So a reference back can be told at once by the
location that it leads to, although its name is resolved later only: the location is marked,
the mark is that of a compilation that goes on, and in the end this compilation has been
reported under the name (`OnWay.honours`).
-/

namespace ShapeSum

variable {root f : Fragment} {e s s' s'' : Generation}

/-! ## Names that are booked -/

/-- Names are kept with what was compiled under them: a name that stands for a model is the
model's, and what was compiled under a name was one fragment's, whose model the name stands for. -/
structure Booked (s : Generation) : Prop where
  /-- A name that stands for a model is the name of that model. -/
  model : ∀ {n id}, s.names.get? n = some (.model id) →
    ∃ m, s.types.model? id = some m ∧ m.name = n
  /-- A name that was compiled under stands for a model. -/
  compiled : ∀ {n l}, s.HasCompiled n l → ∃ id, s.names.get? n = some (.model id)
  /-- No two locations were compiled under one name. -/
  once : ∀ {n l l'}, s.HasCompiled n l → s.HasCompiled n l' → l = l'

theorem Types.Grow.exists_model {types types' : Types} (h : types.Grow types') {id : TypeId}
    {m : Model} (hm : types.model? id = some m) :
    ∃ m', types'.model? id = some m' ∧ m'.name = m.name := by
  obtain ⟨m', hm', -⟩ := h.model hm
  have hname := h.name (Types.lt_length_of_model? hm)
  rw [Types.nameOf_of_model? hm, Types.nameOf_of_model? hm'] at hname
  exact ⟨m', hm', hname⟩

namespace Booked

/-- Types may grow, as long as the names stay and nothing else is compiled. -/
theorem grow (h : Booked s) (hnames : s'.names = s.names) (htypes : s.types.Grow s'.types)
    (hcompiled : ∀ n l, s'.HasCompiled n l → s.HasCompiled n l) : Booked s' where
  model hn := by
    obtain ⟨m, hm, rfl⟩ := h.model (hnames ▸ hn)
    exact htypes.exists_model hm
  compiled hl := hnames ▸ h.compiled (hcompiled _ _ hl)
  once hl hl' := h.once (hcompiled _ _ hl) (hcompiled _ _ hl')

/-- What a free name is put down for is no model that a name stands for. -/
theorem put {name : String} {handle : Handle} (h : Booked s) (hfree : s.names.IsFree name)
    (hnone : ∀ id, handle ≠ .model id) (f : Option Fragment) : Booked (s.put name handle f) where
  model {n id} hn := by
    rw [show (s.put name handle f).names.get? n = _ from Namespace.get?_put ..] at hn
    split at hn
    · exact absurd (Option.some.inj hn) (hnone id)
    · exact h.model hn
  compiled {n l} hl := by
    obtain ⟨id, hid⟩ := h.compiled hl
    refine ⟨id, (Namespace.get?_put ..).trans ((if_neg ?_).trans hid)⟩
    rintro rfl
    cases hfree.eq_reserved hid
  once hl hl' := h.once hl hl'

end Booked

theorem hasCompiled_append {event : Event} {n l : String} :
    Generation.HasCompiled { s with log := s.log ++ [event] } n l ↔
      s.HasCompiled n l ∨ event = .compiled n l := by
  unfold Generation.HasCompiled
  rw [List.mem_append, List.mem_singleton, eq_comm (a := event)]

/-- A model is declared under a new name, and its compilation reported. -/
theorem Booked.report {name : String} {id : TypeId} {m : Model} (h : Booked s)
    (hfree : s.names.contains name = false) (hm : s.types.model? id = some m)
    (hname : m.name = name) : Booked (s.compiled name id f) := by
  have hget (n : String) : (s.compiled name id f).names.get? n =
      if name = n then some (.model id) else s.names.get? n := Namespace.get?_put ..
  have hcompiled (n l : String) : (s.compiled name id f).HasCompiled n l ↔
      s.HasCompiled n l ∨ Event.compiled name f.location = .compiled n l := hasCompiled_append
  have hnew {l : String} : ¬s.HasCompiled name l := by
    intro hl
    obtain ⟨id', hid'⟩ := h.compiled hl
    rw [Namespace.contains_of_get? hid'] at hfree
    cases hfree
  refine ⟨fun {n id'} hn => ?_, fun {n l} hl => ?_, fun {n l l'} hl hl' => ?_⟩
  · rw [hget] at hn
    split at hn
    · rename_i he
      cases hn
      exact ⟨m, hm, hname.trans he⟩
    · exact h.model hn
  · rw [hget]
    split
    · exact ⟨id, rfl⟩
    · rename_i hne
      rcases (hcompiled n l).1 hl with hl | hl
      · exact h.compiled hl
      · cases hl
        exact absurd rfl hne
  · rcases (hcompiled n l).1 hl with hl | hl <;> rcases (hcompiled n l').1 hl' with hl' | hl'
    · exact h.once hl hl'
    · cases hl'
      exact absurd hl hnew
    · cases hl
      exact absurd hl' hnew
    · cases hl
      cases hl'
      rfl

/-! ## States that grow -/

/-- A state grows into another one: what it has stays, no marks are added, and names stay booked. -/
structure Grows (s s' : Generation) : Prop where
  /-- The same documents can be had. -/
  view : s'.store.view = s.store.view
  /-- The types have grown. -/
  types : s.types.Grow s'.types
  /-- Names go on to stand for what they stand for. -/
  names : ∀ {n h}, s.names.get? n = some h → h ≠ .reserved → s'.names.get? n = some h
  /-- The reports are kept. -/
  log : s.log ⊆ s'.log
  /-- No marks are added. -/
  marks : ∀ {l n}, s'.marked l = some n → s.marked l = some n
  /-- Names stay booked. -/
  booked : Booked s → Booked s'

namespace Grows

theorem refl (s : Generation) : Grows s s :=
  ⟨rfl, Types.grow_refl _, fun hn _ => hn, List.Subset.refl _, id, id⟩

theorem trans (h : Grows s s') (h' : Grows s' s'') : Grows s s'' where
  view := h'.view.trans h.view
  types := h.types.trans h'.types
  names hn hne := h'.names (h.names hn hne) hne
  log := List.Subset.trans h.log h'.log
  marks hl := h.marks (h'.marks hl)
  booked hs := h'.booked (h.booked hs)

/-- The types grow, or something changes that is neither names, marks nor reports. -/
theorem aside (hview : s'.store.view = s.store.view) (htypes : s.types.Grow s'.types)
    (hnames : s'.names = s.names) (hpending : s'.pending = s.pending) (hlog : s'.log = s.log) :
    Grows s s' where
  view := hview
  types := htypes
  names hn _ := hnames ▸ hn
  log := hlog ▸ List.Subset.refl _
  marks hl := by
    unfold Generation.marked at hl ⊢
    rwa [hpending] at hl
  booked hs := hs.grow hnames htypes fun n l hl => by
    unfold Generation.HasCompiled at hl ⊢
    rwa [hlog] at hl

/-- Something is reported that is no compilation. -/
theorem report {event : Event} (hevent : ∀ n l, event ≠ .compiled n l) :
    Grows s { s with log := s.log ++ [event] } where
  view := rfl
  types := Types.grow_refl _
  names hn _ := hn
  log := List.subset_append_left _ _
  marks hl := hl
  booked hs := hs.grow rfl (Types.grow_refl _) fun n l hl =>
    (hasCompiled_append.1 hl).resolve_right (hevent n l)

/-- A free name is put down for something that is no model. -/
theorem put {name : String} {handle : Handle} (hfree : s.names.IsFree name)
    (hnone : ∀ id, handle ≠ .model id) (f : Option Fragment) : Grows s (s.put name handle f) where
  view := rfl
  types := Types.grow_refl _
  names {n h} hn hne := by
    refine (Namespace.get?_put ..).trans ((if_neg ?_).trans hn)
    rintro rfl
    exact hne (hfree.eq_reserved hn)
  log := List.Subset.refl _
  marks hl := hl
  booked hs := hs.put hfree hnone f

/-- A model is declared under a new name, its mark is removed, and its compilation reported. -/
theorem compiled {name : String} {id : TypeId} {m : Model}
    (hfree : s.names.contains name = false) (hm : s.types.model? id = some m)
    (hname : m.name = name) : Grows s (s.compiled name id f) where
  view := rfl
  types := Types.grow_refl _
  names {n h} hn _ := by
    refine (Namespace.get?_put ..).trans ((if_neg ?_).trans hn)
    rintro rfl
    rw [Namespace.contains_of_get? hn] at hfree
    cases hfree
  log := List.subset_append_left _ _
  marks {l n} hl := by
    rw [show (s.compiled name id f).marked l = _ from marked_unmark s f.location l] at hl
    split at hl
    · cases hl
    · exact hl
  booked hs := hs.report hfree hm hname

/-- A compilation adds no marks, since its own is removed in the end. -/
theorem unmark {name name' : String} {id : TypeId}
    (h : Grows (s.mark f.location name) (s'.compiled name' id f)) :
    Grows s (s'.compiled name' id f) where
  view := h.view
  types := h.types
  names hn hne := h.names hn hne
  log := h.log
  marks {l n} hl := by
    have hmarked := h.marks hl
    rw [show (s'.compiled name' id f).marked l = _ from marked_unmark s' f.location l] at hl
    split at hl
    · cases hl
    · rename_i hne
      rw [marked_mark, if_neg (fun he => hne he.symm)] at hmarked
      exact hmarked
  booked hs := h.booked ⟨hs.model, hs.compiled, hs.once⟩

end Grows

/-- A model whose name was compiled under is the one at its location, also later. -/
theorem isModelAt_of_grows {id : TypeId} {m : Model} {l : String} (hs : Grows s e)
    (hm : s.types.model? id = some m) (hl : e.HasCompiled m.name l) : e.IsModelAt id l := by
  obtain ⟨m', hm', hname⟩ := hs.types.exists_model hm
  exact ⟨m', hm', hname ▸ hl⟩

/-! ## States on the way -/

/-- A model has for every property of a fragment in reach a field that is linked to it, and was
compiled at the fragment's location. -/
def Model.IsLinked (root : Fragment) (e : Generation) (m : Model) : Prop :=
  ∃ f, Reaches e.store.view root f ∧ e.HasCompiled m.name f.location ∧
    List.Forall₂ (fun p field => field.IsLinked e p) f.properties m.fields

/-- A union has for every branch of a fragment in reach a variant that is linked to it, was made at
the fragment's location, and has no tag twice. -/
def UnionType.IsLinked (root : Fragment) (e : Generation) (u : UnionType) : Prop :=
  ∃ f, Reaches e.store.view root f ∧ u.source = some f.location ∧
    List.Forall₂ (fun b v => v.IsLinked e b) f.branches u.variants ∧
    (u.variants.map (·.tag)).Nodup

/-- A state is on the way to `e`: it grows into it, and what it has is linked by what there is in
`e`. -/
structure OnWay (root : Fragment) (e s : Generation) : Prop where
  /-- It grows into `e`. -/
  grows : Grows s e
  /-- There, names are booked. -/
  booked : Booked e
  /-- What is being compiled has been compiled under its name then. -/
  honours : ∀ {l n}, s.marked l = some n → e.HasCompiled n l
  /-- What is remembered for a location was made there. -/
  compiled : ∀ {l c h}, Entries.get? s.names.compiled l = some (c, h) → e.IsAt l h
  /-- So was the union that is kept for it. -/
  unions : ∀ {l id}, Entries.get? s.unions l = some id → e.IsUnionAt id l
  /-- Models are linked. -/
  model : ∀ {m}, .model m ∈ s.types → m.IsLinked root e
  /-- Unions are linked. -/
  union : ∀ {u}, .union u ∈ s.types → u.IsLinked root e

namespace OnWay

/-- A type that is found for a fragment was made at its location. -/
theorem isAt (hs : OnWay root e s) {h : Handle} (hh : s.names.typeOf? f = some h) :
    e.IsAt f.location h := by
  obtain ⟨c, hget, -⟩ := Namespace.remembers_of_typeOf? hh
  exact hs.compiled hget

/-- The names that a model is settled by are given the types of their locations. -/
theorem faithful_typeNamed (hs : OnWay root e s) : e.Faithful s.names.typeNamed := by
  intro n type l hn hl
  obtain ⟨handle, hget, rfl⟩ := Option.map_eq_some_iff.1 hn
  obtain ⟨id, hid⟩ := hs.booked.compiled hl
  by_cases hreserved : handle = .reserved
  · rw [hreserved]
    exact .inl rfl
  · cases (hs.grows.names hget hreserved).symm.trans hid
    obtain ⟨m, hm, rfl⟩ := hs.booked.model hid
    exact .inr ⟨id, rfl, m, hm, hl⟩

/-- What stays the same in a step stays linked. -/
theorem aside (hs : OnWay root e s) (hstep : Grows s s') (he : Grows s' e)
    (hcompiled : s'.names.compiled = s.names.compiled) (hunions : s'.unions = s.unions)
    (htypes : s'.types = s.types) : OnWay root e s' where
  grows := he
  booked := hs.booked
  honours hl := hs.honours (hstep.marks hl)
  compiled hget := hs.compiled (hcompiled ▸ hget)
  unions hget := hs.unions (hunions ▸ hget)
  model hm := hs.model (htypes ▸ hm)
  union hu := hs.union (htypes ▸ hu)

/-- A linked type is added, or put in the place of another one. -/
theorem define {types : Types} (hs : OnWay root e s) (he : Grows { s with types } e)
    (hmodel : ∀ {m}, .model m ∈ types → .model m ∈ s.types ∨ m.IsLinked root e)
    (hunion : ∀ {u}, .union u ∈ types → .union u ∈ s.types ∨ u.IsLinked root e) :
    OnWay root e { s with types } where
  grows := he
  booked := hs.booked
  honours hl := hs.honours hl
  compiled hget := hs.compiled hget
  unions hget := hs.unions hget
  model hm := (hmodel hm).elim hs.model id
  union hu := (hunion hu).elim hs.union id

theorem addModel {m : Model} (hs : OnWay root e s)
    (he : Grows { s with types := s.types ++ [.model m] } e) (hm : m.IsLinked root e) :
    OnWay root e { s with types := s.types ++ [.model m] } := by
  refine hs.define he (fun {m'} h => ?_) fun {u} h => ?_ <;>
    rcases List.mem_append.1 h with h | h
  · exact .inl h
  · cases List.mem_singleton.1 h
    exact .inr hm
  · exact .inl h
  · cases List.mem_singleton.1 h

theorem addUnion {u : UnionType} (hs : OnWay root e s)
    (he : Grows { s with types := s.types ++ [.union u] } e) (hu : u.IsLinked root e) :
    OnWay root e { s with types := s.types ++ [.union u] } := by
  refine hs.define he (fun {m} h => ?_) fun {u'} h => ?_ <;>
    rcases List.mem_append.1 h with h | h
  · exact .inl h
  · cases List.mem_singleton.1 h
  · exact .inl h
  · cases List.mem_singleton.1 h
    exact .inr hu

/-- A model stays linked when it is settled. -/
theorem settle {id : TypeId} {m m' : Model} (hs : OnWay root e s)
    (he : Grows { s with types := s.types.set id (.model m') } e)
    (hm : s.types.model? id = some m) (hsettle : m.settle s.names = .ok m') :
    OnWay root e { s with types := s.types.set id (.model m') } := by
  refine hs.define he (fun {m''} h => ?_) fun {u} h => ?_ <;>
    rcases List.mem_or_eq_of_mem_set h with h | h
  · exact .inl h
  · cases h
    obtain ⟨f, hf, hname, hfields⟩ := hs.model (Types.mem_of_model? hm)
    refine .inr ⟨f, hf, (Model.name_of_settle hsettle).symm ▸ hname, ?_⟩
    rw [Model.eq_of_settle hsettle]
    exact isLinked_resolve hs.faithful_typeNamed hfields
  · exact .inl h
  · cases h

/-- A type is put down for a fragment at whose location it was made. -/
theorem put {handle : Handle} (hs : OnWay root e s) (hstep : Grows s s') (he : Grows s' e)
    (hat : e.IsAt f.location handle)
    (hcompiled : s'.names.compiled =
      Entries.set s.names.compiled f.location (f.content, handle))
    (hunions : ∀ {l id}, Entries.get? s'.unions l = some id →
      Entries.get? s.unions l = some id ∨ e.IsUnionAt id l)
    (htypes : s'.types = s.types) : OnWay root e s' where
  grows := he
  booked := hs.booked
  honours hl := hs.honours (hstep.marks hl)
  compiled {l c h} hget := by
    rw [hcompiled, Entries.get?_set] at hget
    split at hget
    · rename_i hl
      cases hget
      exact hl ▸ hat
    · exact hs.compiled hget
  unions hget := (hunions hget).elim hs.unions id
  model hm := hs.model (htypes ▸ hm)
  union hu := hs.union (htypes ▸ hu)

end OnWay

end ShapeSum
