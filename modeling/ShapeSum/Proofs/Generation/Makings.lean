import ShapeSum.Proofs.Decode.Conforming
import ShapeSum.Proofs.Decode.Layers
import ShapeSum.Proofs.Generation.Homes
import ShapeSum.Proofs.Generation.Marks

/-!
# The makings of a compilation

A compilation that succeeds makes a model for its own fragment and models for those
inside it.  While a model is made its fragment and the ones around it are marked, and a
reference back to one of them is put down as the name of its model.

`Produces` says what a part of such a compilation does: it gives back the marks that it
found, only adds to the names and types, and leaves behind a row of makings.  Each of
them stands: its name is declared for its model, and the model has a field for every
property, with the name of the marked fragment wherever the property leads back
(`Noted`).  The functions of the generation are gone through by inverting their runs.
-/

namespace ShapeSum

variable {mode : Mode} {s s' s'' : Generation} {f t : Fragment}

/-! ## Marks -/

namespace Generation

/-- The name under which a location is being compiled. -/
def marked (s : Generation) (location : String) : Option String := Entries.get? s.pending location

/-- The state in which a compilation begins. -/
def begun (s : Generation) (outermost : Bool) : Generation :=
  if outermost then { s with session := [], backReference := false } else s

/-- The state after a model was made: its mark is removed and its name declared. -/
def compiled (s : Generation) (name : String) (id : TypeId) (f : Fragment) : Generation :=
  { (s.unmark f.location).put name (.model id) (some f) with
    session := s.session ++ [id]
    log := s.log ++ [.compiled name f.location] }

end Generation

theorem marked_mark (s : Generation) (location name l : String) :
    (s.mark location name).marked l = if location = l then some name else s.marked l :=
  Entries.get?_set ..

theorem marked_unmark (s : Generation) (location l : String) :
    (s.unmark location).marked l = if l = location then none else s.marked l :=
  Entries.get?_filter_ne ..

/-- All marks are still there. -/
def MarksKept (s s' : Generation) : Prop :=
  ∀ l, Entries.has s.pending l = true → Entries.has s'.pending l = true

/-- What is kept in the end is kept from a state with the same marks on. -/
theorem MarksKept.from (h : MarksKept s s'') (hm : s'.marked = s.marked) : MarksKept s' s'' := by
  intro l hl
  refine h l ?_
  change (s.marked l).isSome = true
  rw [← hm]
  exact hl

/-- What is kept in the end is kept before a last part that gives the same marks back. -/
theorem MarksKept.upto (h : MarksKept s s'') (hm : s''.marked = s'.marked) : MarksKept s s' := by
  intro l hl
  change (s'.marked l).isSome = true
  rw [← hm]
  exact h l hl

/-- Marks that are kept while one more is on, which is taken off in the end. -/
theorem MarksKept.mark {location name : String} (hmark : Entries.has s'.pending location = true)
    (h : MarksKept s (s'.unmark location)) : MarksKept (s.mark location name) s' := by
  intro l hl
  rcases (has_mark s location name l).1 hl with rfl | hl
  · exact hmark
  · exact ((has_unmark s' location l).1 (h l hl)).2

/-- Something is being compiled. -/
def Busy (s : Generation) : Prop := ∃ l n, s.marked l = some n

theorem Busy.of_marked (hs : Busy s) (h : s'.marked = s.marked) : Busy s' := by
  unfold Busy
  rw [h]
  exact hs

theorem Busy.pending_ne_nil (hs : Busy s) : s.pending.isEmpty = false := by
  obtain ⟨l, n, hl⟩ := hs
  cases hp : s.pending with
  | nil =>
    rw [Generation.marked, hp] at hl
    cases hl
  | cons p rest => rfl

theorem busy_mark (s : Generation) (location name : String) : Busy (s.mark location name) :=
  ⟨location, name, (marked_mark ..).trans (if_pos rfl)⟩

/-- What is kept at the end was kept before the last part, which adds no marks. -/
theorem MarksKept.before {α : Type} {x : Generating α} {r : Except Failure α}
    {post : α → Generation → Prop} (h : MarksKept s s'') (hrun : x.run s' = (r, s''))
    (hx : Charted mode (fun _ _ => True) x s' post) : MarksKept s s' := by
  obtain ⟨calls, hc, -⟩ := hx
  rw [hrun] at hc
  exact fun l hl => ((hc.has_pending l).1 (h l hl)).1

/-! ## References back -/

/-- A fragment describes arrays, perhaps besides values of other JSON types. -/
structure Fragment.IsArray (f : Fragment) : Prop extends f.IsTyped where
  /-- It has the type of arrays. -/
  array : "array" ∈ f.types
  /-- It has no types but JSON types. -/
  types : ∀ j ∈ f.types, j ∈ jsonTypes

/-- A fragment leads back to one that is being compiled: its references end there, or at an array
whose items lead back.  The number says how many arrays are on the way.  Nothing was compiled at
the location of such an array. -/
inductive LeadsBack (view : String → Fetch) (marked : String → Option String) (names : Namespace) :
    Nat → Fragment → Fragment → Prop
  /-- The references end there. -/
  | reference {f t : Fragment} : LeadsTo view f t → (marked t.location).isSome = true →
      LeadsBack view marked names 0 f t
  /-- The references end at an array. -/
  | items {f a t : Fragment} {k : Nat} {ms : List (String × Json)} : LeadsTo view f a →
      marked a.location = none → Entries.get? names.compiled a.location = none → a.IsArray →
      a.get? "items" = some (.obj ms) → LeadsBack view marked names k (a.part "items" (.obj ms)) t →
      LeadsBack view marked names (k + 1) f t

theorem LeadsBack.mono {view : String → Fetch} {marked : String → Option String}
    {names names' : Namespace} {k : Nat} (h : LeadsBack view marked names' k f t)
    (hnames : ∀ l, Entries.get? names'.compiled l = none → Entries.get? names.compiled l = none) :
    LeadsBack view marked names k f t := by
  induction h with
  | reference hlead hmark => exact .reference hlead hmark
  | items hlead hmark hfree harr hitems _ ih =>
    exact .items hlead hmark (hnames _ hfree) harr hitems ih

/-- A type stands for a fragment: in as many layers as there are arrays on the way back, it has the
name under which the fragment is being compiled, and it is known for a reference back. -/
def Noted (marked : String → Option String) (s : Generation) (f : Fragment)
    (r : FieldType × Bool) : Prop :=
  ∀ k t, LeadsBack s.store.view marked s.names k f t →
    r.2 = true ∧ ∃ n, marked t.location = some n ∧ (FieldType.named n).Layered k r.1

/-- References back are noted, and known to the session. -/
def Flagged (marked : String → Option String) (s : Generation) (f : Fragment)
    (r : FieldType × Bool) : Prop :=
  Noted marked s f r ∧ (r.2 = true → s.backReference = true)

/-! ## States that are added to -/

/-- A state adds to another one: the documents, the types and the names of models are kept. -/
structure Extends (s s' : Generation) : Prop where
  /-- The same documents can be had. -/
  view : s'.store.view = s.store.view
  /-- The types are kept. -/
  types : s.types <+: s'.types
  /-- The names of models are kept. -/
  names : ∀ {n id}, s.names.get? n = some (.model id) → s'.names.get? n = some (.model id)
  /-- What was compiled stays compiled. -/
  compiled : ∀ l, Entries.get? s'.names.compiled l = none → Entries.get? s.names.compiled l = none
  /-- References back stay known. -/
  flag : s.backReference = true → s'.backReference = true

namespace Extends

theorem refl (s : Generation) : Extends s s := ⟨rfl, List.prefix_rfl, id, fun _ => id, id⟩

theorem trans (h : Extends s s') (h' : Extends s' s'') : Extends s s'' where
  view := h'.view.trans h.view
  types := h.types.trans h'.types
  names hn := h'.names (h.names hn)
  compiled l hl := h.compiled l (h'.compiled l hl)
  flag hs := h'.flag (h.flag hs)

theorem length (h : Extends s s') : s.types.length ≤ s'.types.length := h.types.length_le

theorem model? (h : Extends s s') {id : TypeId} {m : Model} (hm : s.types.model? id = some m) :
    s'.types.model? id = some m := by
  rw [Types.model?_eq_some] at hm ⊢
  obtain ⟨rest, he⟩ := h.types
  rw [← he, List.getElem?_append_left (List.getElem?_eq_some_iff.1 hm).1, hm]

theorem noted (h : Extends s s') {marked : String → Option String} {r : FieldType × Bool}
    (hr : Noted marked s f r) : Noted marked s' f r :=
  fun k t hback => hr k t (h.view ▸ hback.mono h.compiled)

theorem flagged (h : Extends s s') {marked : String → Option String} {r : FieldType × Bool}
    (hr : Flagged marked s f r) : Flagged marked s' f r :=
  ⟨h.noted hr.1, fun hback => h.flag (hr.2 hback)⟩

/-- A free name is put down. -/
theorem put {name : String} {handle : Handle} {f : Option Fragment}
    (hfree : s.names.IsFree name) : Extends s (s.put name handle f) := by
  refine ⟨rfl, List.prefix_rfl, fun {n id} hn => ?_, fun l hl => ?_, id⟩
  · refine (Namespace.get?_put ..).trans ((if_neg ?_).trans hn)
    rintro rfl
    cases hfree.eq_reserved hn
  · cases f with
    | none => exact hl
    | some f =>
      change Entries.get? (Entries.set s.names.compiled f.location (f.content, handle)) l = none
        at hl
      rw [Entries.get?_set] at hl
      split at hl
      · cases hl
      · exact hl

end Extends

/-! ## Makings -/

/-- The making of a model in a compilation. -/
structure Making where
  /-- The name of the model. -/
  name : String
  /-- The fragment that it is made of. -/
  fragment : Fragment
  /-- The model. -/
  id : TypeId
  /-- The state when it begins, with its own mark. -/
  start : Generation
  /-- The state when the model is made. -/
  after : Generation

namespace Making

/-- The location of the fragment. -/
def location (m : Making) : String := m.fragment.location

/-- The program makes the model so. -/
def Genuine (mode : Mode) (m : Making) : Prop :=
  ∃ depth, (buildModel mode (annotateWithin mode depth) m.name m.fragment).run m.start =
    (.ok m.id, m.after)

/-- The model of a making has a field for every property, with references back noted, and the names
are put in their places that its creation puts there. -/
def Drafted (mode : Mode) (s : Generation) (m : Making) : Prop :=
  ∃ required fields fields', requiredNames m.fragment = .ok required ∧
    List.Forall₂ (FieldFor (Flagged m.start.marked s) required) m.fragment.properties fields ∧
    finishFields m.name m.id fields = .ok fields' ∧
    s.types.model? m.id = some ⟨m.name, fields', mode.config.frozenPayloads⟩

/-- What a making leaves behind. -/
structure Stands (mode : Mode) (s : Generation) (m : Making) : Prop where
  /-- The program made the model. -/
  genuine : m.Genuine mode
  /-- The fragment was being compiled under the name. -/
  own : m.start.marked m.location = some m.name
  /-- The types from then are kept. -/
  after : m.after.types <+: s.types
  /-- The name is declared for the model. -/
  declared : s.names.get? m.name = some (.model m.id)
  /-- The model is in the table. -/
  drafted : m.Drafted mode s

variable {m : Making}

theorem Drafted.mono (hd : m.Drafted mode s) (h : Extends s s') : m.Drafted mode s' := by
  obtain ⟨required, fields, fields', hr, hf, hfinish, hm⟩ := hd
  exact ⟨required, fields, fields', hr,
    hf.imp fun _ _ hfield => hfield.imp fun _ _ hr => h.flagged hr, hfinish, h.model? hm⟩

theorem Stands.mono (hm : m.Stands mode s) (h : Extends s s') : m.Stands mode s' :=
  ⟨hm.genuine, hm.own, hm.after.trans h.types, h.names hm.declared, hm.drafted.mono h⟩

theorem Drafted.lt_length (hd : m.Drafted mode s) : m.id < s.types.length := by
  obtain ⟨_, _, _, -, -, -, hm⟩ := hd
  exact Types.lt_length_of_model? hm

end Making

/-! ## Parts of a compilation -/

/-- A part of a compilation produces some makings, in the order in which they end. -/
structure Produces (mode : Mode) (s : Generation) (ms : List Making) (s' : Generation) : Prop
    extends Extends s s' where
  /-- The marks are given back. -/
  marked : s'.marked = s.marked
  /-- The models are added to the session. -/
  session : s'.session = s.session ++ ms.map Making.id
  /-- The makings stand. -/
  stands : ∀ m ∈ ms, m.Stands mode s'
  /-- The models are new. -/
  new : ∀ m ∈ ms, s.types.length ≤ m.id
  /-- They were added one after the other. -/
  sorted : (ms.map Making.id).Pairwise (· < ·)
  /-- What is marked in a making was marked before, or is being made. -/
  within : ∀ m ∈ ms, ∀ l n, m.start.marked l = some n →
    s.marked l = some n ∨ ∃ d ∈ ms, d.location = l ∧ d.name = n

namespace Produces

variable {ms ms' : List Making}

/-- Nothing is made. -/
theorem quiet (h : Extends s s') (hp : s'.pending = s.pending) (hs : s'.session = s.session) :
    Produces mode s [] s' where
  toExtends := h
  marked := by
    unfold Generation.marked
    rw [hp]
  session := hs.trans (List.append_nil _).symm
  stands _ hm := nomatch hm
  new _ hm := nomatch hm
  sorted := .nil
  within _ hm := nomatch hm

theorem refl (s : Generation) : Produces mode s [] s := quiet (.refl s) rfl rfl

/-- A change besides the names, marks and the session. -/
theorem aside (hv : s'.store.view = s.store.view) (hn : s'.names = s.names)
    (ht : s.types <+: s'.types) (hp : s'.pending = s.pending) (hs : s'.session = s.session)
    (hb : s.backReference = true → s'.backReference = true) : Produces mode s [] s' :=
  quiet ⟨hv, ht, fun h => hn ▸ h, fun _ h => hn ▸ h, hb⟩ hp hs

theorem trans (h : Produces mode s ms s') (h' : Produces mode s' ms' s'') :
    Produces mode s (ms ++ ms') s'' where
  toExtends := h.toExtends.trans h'.toExtends
  marked := h'.marked.trans h.marked
  session := by rw [h'.session, h.session, List.map_append, List.append_assoc]
  stands := List.forall_mem_append.2
    ⟨fun m hm => (h.stands m hm).mono h'.toExtends, h'.stands⟩
  new := List.forall_mem_append.2
    ⟨h.new, fun m hm => Nat.le_trans h.toExtends.length (h'.new m hm)⟩
  sorted := by
    rw [List.map_append, List.pairwise_append]
    refine ⟨h.sorted, h'.sorted, fun a ha b hb => ?_⟩
    obtain ⟨m, hm, rfl⟩ := List.mem_map.1 ha
    obtain ⟨m', hm', rfl⟩ := List.mem_map.1 hb
    exact Nat.lt_of_lt_of_le (h.stands m hm).drafted.lt_length (h'.new m' hm')
  within := by
    have hleft {l n : String} (hd : ∃ d ∈ ms, d.location = l ∧ d.name = n) :
        ∃ d ∈ ms ++ ms', d.location = l ∧ d.name = n := by
      obtain ⟨d, hd, he⟩ := hd
      exact ⟨d, List.mem_append_left _ hd, he⟩
    have hright {l n : String} (hd : ∃ d ∈ ms', d.location = l ∧ d.name = n) :
        ∃ d ∈ ms ++ ms', d.location = l ∧ d.name = n := by
      obtain ⟨d, hd, he⟩ := hd
      exact ⟨d, List.mem_append_right _ hd, he⟩
    refine List.forall_mem_append.2 ⟨fun m hm l n hl => ?_, fun m hm l n hl => ?_⟩
    · exact (h.within m hm l n hl).imp_right hleft
    · rw [← h.marked]
      exact (h'.within m hm l n hl).imp_right hright

theorem after (h : Produces mode s [] s') (h' : Produces mode s' ms s'') :
    Produces mode s ms s'' := h.trans h'

theorem before (h : Produces mode s ms s') (h' : Produces mode s' [] s'') :
    Produces mode s ms s'' := by
  rw [← List.append_nil ms]
  exact h.trans h'

/-- A model is made, and declared. -/
theorem made {name : String} {id : TypeId} (hmake : Produces mode (s.mark f.location name) ms s')
    (hfree : s.marked f.location = none) (hnew : s'.names.contains name = false)
    (hgenuine : (⟨name, f, id, s.mark f.location name, s'⟩ : Making).Genuine mode)
    (hdrafted : (⟨name, f, id, s.mark f.location name, s'⟩ : Making).Drafted mode s')
    (hid : ∀ m ∈ ms, m.id < id) (hlen : s.types.length ≤ id) :
    Produces mode s (ms ++ [⟨name, f, id, s.mark f.location name, s'⟩])
      (s'.compiled name id f) := by
  have hput : Extends s' (s'.compiled name id f) := by
    have h : Extends s' (s'.put name (.model id) (some f)) := .put (.inl hnew)
    exact ⟨h.view, h.types, h.names, h.compiled, h.flag⟩
  have hown {l n : String} (hl : (s.mark f.location name).marked l = some n) :
      s.marked l = some n ∨ f.location = l ∧ name = n := by
    rw [marked_mark] at hl
    split at hl
    · rename_i he
      exact .inr ⟨he, Option.some.inj hl⟩
    · exact .inl hl
  refine ⟨⟨?_, ?_, ?_, ?_, ?_⟩, ?_, ?_, ?_, ?_, ?_, ?_⟩
  · exact hput.view.trans hmake.view
  · exact hmake.types.trans hput.types
  · exact fun hn => hput.names (hmake.names hn)
  · exact fun l hl => hmake.toExtends.compiled l (hput.compiled l hl)
  · exact fun hs => hput.flag (hmake.flag hs)
  · funext l
    refine (marked_unmark s' f.location l).trans ?_
    rw [hmake.marked, marked_mark]
    split
    · rename_i he
      rw [he, hfree]
    · rename_i hne
      exact if_neg fun he => hne he.symm
  · show s'.session ++ [id] = _
    rw [hmake.session, List.map_append, List.append_assoc]
    rfl
  · refine List.forall_mem_append.2 ⟨fun m hm => (hmake.stands m hm).mono hput, fun m hm => ?_⟩
    cases List.mem_singleton.1 hm
    exact ⟨hgenuine, (marked_mark ..).trans (if_pos rfl), hput.types,
      (Namespace.get?_put ..).trans (if_pos rfl), hdrafted.mono hput⟩
  · refine List.forall_mem_append.2 ⟨hmake.new, fun m hm => ?_⟩
    cases List.mem_singleton.1 hm
    exact hlen
  · rw [List.map_append, List.pairwise_append]
    refine ⟨hmake.sorted, List.pairwise_singleton _ _, fun a ha b hb => ?_⟩
    obtain ⟨m, hm, rfl⟩ := List.mem_map.1 ha
    cases List.mem_singleton.1 hb
    exact hid m hm
  · have hlast {l n : String} (hl : f.location = l ∧ name = n) :
        ∃ d ∈ ms ++ [(⟨name, f, id, s.mark f.location name, s'⟩ : Making)],
          d.location = l ∧ d.name = n :=
      ⟨_, List.mem_append_right _ (List.mem_singleton_self _), hl⟩
    refine List.forall_mem_append.2 ⟨fun m hm l n hl => ?_, fun m hm l n hl => ?_⟩
    · rcases hmake.within m hm l n hl with hl | ⟨d, hd, he⟩
      · exact (hown hl).imp_right hlast
      · exact .inr ⟨d, List.mem_append_left _ hd, he⟩
    · cases List.mem_singleton.1 hm
      exact (hown hl).imp_right hlast

end Produces

end ShapeSum
