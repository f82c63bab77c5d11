import ShapeSum.Proofs.Generation.Failures
import ShapeSum.Proofs.Generation.Run
import ShapeSum.Proofs.Schema.Documents

/-!
# The course of a generation

A generation is a nest of compilations and generations of inner unions.  Its
*course* lists the compilations in the order in which they begin, each as a `Call`
with the states around the making of its model, and says how they are put together:

* a compilation marks its location, makes the model, removes the mark and declares
  the name; it fails when the mark is gone by then, or when the name is taken;
* the generation of a union marks its location as well, but removes the mark only
  when it succeeds;
* in between there are small changes that no other part of the state depends on.

`exists_makes` says that every generation has a course.  What a
generation can do is then shown by induction on courses, once for each way of
putting them together, and not for each function.
-/

namespace ShapeSum

variable {α β : Type}

/-! ## States around a generation -/

namespace Generation

/-- The state with a union marked as being generated. -/
def enter (s : Generation) (location : String) : Generation :=
  { s with inProgress := location :: s.inProgress }

/-- The state after the generation of a union. -/
def leave (s : Generation) (name : String) (id : TypeId) (f : Fragment) : Generation :=
  { s with
    names := s.names.put name (.union id) (some f)
    inProgress := s.inProgress.filter (· != f.location)
    unions := Entries.set s.unions f.location id }

/-- The state with a name that stands for something. -/
def put (s : Generation) (name : String) (handle : Handle) (f : Option Fragment) : Generation :=
  { s with names := s.names.put name handle f }

end Generation

/-- A union that is made has the variants it is made of, and the options of the mode. -/
theorem eq_of_assembleUnion {mode : Mode} {name location : String} {variants : List Variant}
    {u : UnionType} (h : assembleUnion mode name location variants = .ok u) :
    u = ⟨name, some location, variants, mode.config.structural, mode.config.hashing⟩ := by
  unfold assembleUnion at h
  split at h
  · cases h
  · exact (Except.ok.inj h).symm

/-- A union is built with its fragment marked as being generated, and kept under the name that was
reserved for it. -/
theorem run_buildUnion (mode : Mode) (annotate : Annotate) (base : String) (f : Fragment)
    (s : Generation) : (buildUnion mode annotate base f).run s =
      match (draftUnion mode annotate base f).run (s.enter f.location) with
      | (.ok (name, id), s') => match s'.names.get? name with
        | some .reserved => (.ok id, s'.leave name id f)
        | _ => (.error (.generation (.notReserved name)), s')
      | (.error e, s') => (.error e, s') := by
  have henter : (buildUnion mode annotate base f).run s = ((do
      let drafted ← draftUnion mode annotate base f
      Generating.fill drafted.1 (.union drafted.2) (some f)
      modify fun st => { st with
        inProgress := st.inProgress.filter (· != f.location)
        unions := Entries.set st.unions f.location drafted.2 }
      return drafted.2 : Generating TypeId)).run (s.enter f.location) := rfl
  rw [henter, run_bind]
  rcases (draftUnion mode annotate base f).run (s.enter f.location) with ⟨e | ⟨name, id⟩, s'⟩
  · rfl
  · dsimp only
    rw [run_bind, Generating.run_fill]
    rcases s'.names.get? name with _ | (_ | _ | _ | _) <;> rfl

/-- A small change between compilations. -/
inductive Change (s : Generation) : Generation → Prop
  /-- Documents are loaded, and the same documents can be had. -/
  | documents (store : Store) : store.view = s.store.view → Change s { s with store }
  /-- An event is reported. -/
  | report (e : Event) : Change s { s with log := s.log ++ [e] }
  /-- A number is given out. -/
  | count (base : String) : Change s { s with counters := s.counters.advance base }
  /-- The session of compiled models is brought up to date. -/
  | session (ids : List TypeId) (back : Bool) :
      Change s { s with session := ids, backReference := back }
  /-- A model is added. -/
  | model (m : Model) : Change s { s with types := s.types ++ [.model m] }
  /-- The back references of a model are resolved. -/
  | settle (id : TypeId) (m : Model) : Change s { s with types := s.types.set id (.model m) }
  /-- A union is added. -/
  | union (u : UnionType) : (∀ v ∈ u.variants, v.Ordered) →
      Change s { s with types := s.types ++ [.union u] }

/-! ## Calls and courses -/

/-- A compilation within a generation. -/
structure Call where
  /-- The name for the model. -/
  name : String
  /-- The fragment. -/
  fragment : Fragment
  /-- The state when it begins. -/
  before : Generation
  /-- Why the model was not made, if it was not. -/
  failure : Option Failure
  /-- The state when the making of the model is over. -/
  after : Generation

namespace Call

/-- The location of the fragment. -/
def location (c : Call) : String := c.fragment.location

/-- The state in which the making of the model begins. -/
def start (c : Call) : Generation := c.before.mark c.location c.name

/-- The location is being compiled already when the compilation begins. -/
def Reenters (c : Call) : Prop := Entries.has c.before.pending c.location = true

/-- The model is made, but by then the name is taken. -/
def Overtaken (c : Call) : Prop := c.failure = none ∧ c.after.names.contains c.name = true

end Call

/-- How names are chosen by what is declared. -/
abbrev Naming := Namespace → String → Prop

/-- A name made unique among the declared ones. -/
def Chosen (mode : Mode) : Naming := fun names name =>
  ∃ raw, name = uniqueName raw (Entries.keys names.names) mode.config.separator

/-- A call of the program: its name was chosen, and its states and its failure are those of the
making of the model. -/
structure Call.Genuine (mode : Mode) (named : Naming) (c : Call) : Prop where
  /-- The name was chosen when the compilation began. -/
  name : named c.before.names c.name
  /-- The model was made from the start to the end. -/
  made : ∃ depth r, (buildModel mode (annotateWithin mode depth) c.name c.fragment).run c.start =
    (r, c.after) ∧ failure? r = c.failure

/-- The courses of generation: from a state, through calls, to a failure or none, and a state. -/
inductive Course (mode : Mode) (named : Naming) :
    Generation → List Call → Option Failure → Generation → Prop
  /-- Nothing happens. -/
  | done (s : Generation) : Course mode named s [] none s
  /-- Something fails that is no bookkeeping. -/
  | fault (s : Generation) (e : Failure) : e.ofBookkeeping = false →
      Course mode named s [] (some e) s
  /-- A small change. -/
  | change {s s' : Generation} : Change s s' → Course mode named s [] none s'
  /-- One course after another. -/
  | seq {s s' s'' : Generation} {calls calls' : List Call} {r : Option Failure} :
      Course mode named s calls none s' → Course mode named s' calls' r s'' →
      Course mode named s (calls ++ calls') r s''
  /-- A compilation whose mark is gone at the end. -/
  | lost {calls : List Call} (c : Call) : c.Genuine mode named →
      Course mode named c.start calls c.failure c.after →
      Entries.has c.after.pending c.location = false →
      Course mode named c.before (c :: calls) (some (.pendingLost c.location)) c.after
  /-- A compilation whose model is not made. -/
  | failed {calls : List Call} {e : Failure} (c : Call) : c.Genuine mode named →
      Course mode named c.start calls c.failure c.after →
      Entries.has c.after.pending c.location = true → c.failure = some e →
      Course mode named c.before (c :: calls) (some e) (c.after.unmark c.location)
  /-- A compilation whose name is taken at the end. -/
  | taken {calls : List Call} (c : Call) : c.Genuine mode named →
      Course mode named c.start calls c.failure c.after →
      Entries.has c.after.pending c.location = true → c.Overtaken →
      Course mode named c.before (c :: calls) (some (.generation (.alreadyDeclared c.name)))
        (c.after.unmark c.location)
  /-- A compilation that succeeds. -/
  | compiled {calls : List Call} (c : Call) (id : TypeId) : c.Genuine mode named →
      Course mode named c.start calls c.failure c.after →
      Entries.has c.after.pending c.location = true → c.failure = none →
      c.after.names.contains c.name = false →
      Course mode named c.before (c :: calls) none
        ((c.after.unmark c.location).put c.name (.model id) (some c.fragment))
  /-- A name is reserved for a union. -/
  | reserved {s : Generation} {name : String} : named s.names name → s.names.contains name = false →
      Course mode named s [] none (s.put name .reserved none)
  /-- The name that a union should have is taken. -/
  | occupied {s : Generation} {name : String} : named s.names name → s.names.contains name = true →
      Course mode named s [] (some (.generation (.alreadyDeclared name))) s
  /-- The generation of a union that fails. -/
  | abandoned {s s' : Generation} {calls : List Call} {e : Failure} (location : String) :
      location ∉ s.inProgress → Course mode named (s.enter location) calls (some e) s' →
      Course mode named s calls (some e) s'
  /-- The generation of a union that succeeds. -/
  | generated {s s' : Generation} {calls : List Call} (name : String) (id : TypeId)
      (f : Fragment) :
      f.location ∉ s.inProgress → Course mode named (s.enter f.location) calls none s' →
      Course mode named s calls none (s'.leave name id f)

/-- A computation has a course from a state, and what it gives has a property. -/
def Charted (mode : Mode) (named : Naming) (x : Generating α) (s : Generation)
    (post : α → Generation → Prop) : Prop :=
  ∃ calls, Course mode named s calls (failure? (x.run s).1) (x.run s).2 ∧
    ∀ a, (x.run s).1 = .ok a → post a (x.run s).2

/-- No property at all. -/
abbrev Anything : α → Generation → Prop := fun _ _ => True

section Charts

variable {mode : Mode} {named : Naming} {s : Generation} {x : Generating α}
  {post : α → Generation → Prop} {goal : β → Generation → Prop}

/-! ## Charts of sequences -/

theorem charted_pure {a : α} (h : post a s) : Charted mode named (pure a) s post :=
  ⟨[], .done s, fun a' ha => by cases ha; exact h⟩

theorem charted_throw {e : Failure} (he : e.ofBookkeeping = false) :
    Charted mode named (throw e) s post :=
  ⟨[], .fault s e he, fun _ ha => nomatch ha⟩

theorem Charted.mono {post' : α → Generation → Prop} (h : Charted mode named x s post)
    (hp : ∀ a s', post a s' → post' a s') : Charted mode named x s post' := by
  obtain ⟨calls, hc, hr⟩ := h
  exact ⟨calls, hc, fun a ha => hp a _ (hr a ha)⟩

theorem Charted.bind {f : α → Generating β} (hx : Charted mode named x s post)
    (hf : ∀ a s', post a s' → Charted mode named (f a) s' goal) :
    Charted mode named (x >>= f) s goal := by
  obtain ⟨calls, hc, hp⟩ := hx
  rw [Charted, run_bind]
  rcases hr : x.run s with ⟨e | a, s'⟩ <;> rw [hr] at hc hp
  · exact ⟨calls, hc, fun _ ha => nomatch ha⟩
  · obtain ⟨calls', hc', hp'⟩ := hf a s' (hp a rfl)
    exact ⟨calls ++ calls', hc.seq hc', hp'⟩

/-- What a computation reads first is the state that it is charted from. -/
theorem Charted.get {f : Generation → Generating α} (h : Charted mode named (f s) s post) :
    Charted mode named (get >>= f) s post := h

/-- A small change has a course. -/
theorem charted_modify {g : Generation → Generation} (h : Change s (g s)) :
    Charted mode named (modify g) s (fun _ s' => s' = g s) :=
  ⟨[], .change h, fun _ _ => rfl⟩

theorem charted_ofExcept {r : Except Failure α} (hr : Plain r) :
    Charted mode named (Generating.ofExcept r) s (fun a s' => r = .ok a ∧ s' = s) := by
  cases r with
  | ok a => exact ⟨[], .done s, fun a' ha => ⟨by cases ha; rfl, rfl⟩⟩
  | error e => exact ⟨[], .fault s e (hr e rfl), fun _ ha => nomatch ha⟩

/-- A transparent resolution has a course. -/
theorem charted_onStore {x : Resolving α} (hx : Transparent x) :
    Charted mode named (Generating.onStore x) s Anything := by
  have hload : Course mode named s [] none { s with store := (x.run s.store).2 } :=
    .change (.documents _ (hx.keeps s.store))
  rw [Charted, Generating.run_onStore]
  cases hr : (x.run s.store).1 with
  | ok a => exact ⟨[], hload, fun _ _ => trivial⟩
  | error e =>
    exact ⟨[], hload.seq (.fault _ e (hx.plain s.store e hr)), fun _ _ => trivial⟩

theorem charted_report (e : Event) : Charted mode named (Generating.report e) s Anything :=
  (charted_modify (.report e)).mono fun _ _ _ => trivial

theorem charted_declaredNames :
    Charted mode named Generating.declaredNames s
      (fun names s' => names = Entries.keys s.names.names ∧ s' = s) :=
  ⟨[], .done s, fun _ ha => ⟨by cases ha; rfl, rfl⟩⟩

theorem charted_addType {d : TypeDef} (h : Change s { s with types := s.types ++ [d] }) :
    Charted mode named (Generating.addType d) s Anything :=
  ⟨[], .change h, fun _ _ => trivial⟩

/-- A chosen name is reserved, unless it is taken. -/
theorem charted_reserve {name : String} (hn : named s.names name) :
    Charted mode named (Generating.reserve name) s Anything := by
  rw [Charted, Generating.run_reserve, Generating.run_declare]
  cases hc : s.names.contains name with
  | true => exact ⟨[], .occupied hn hc, fun _ _ => trivial⟩
  | false => exact ⟨[], .reserved hn hc, fun _ _ => trivial⟩

theorem charted_settleAll (ids : List TypeId) :
    Charted mode named (settleAll ids) s Anything := by
  induction ids generalizing s with
  | nil => exact charted_pure trivial
  | cons id ids ih =>
    refine Charted.get ?_
    cases s.types.model? id with
    | none => exact ih
    | some m =>
      dsimp only
      cases hm : m.settle s.names with
      | error e => exact charted_throw (ordinary_settle s.names m e hm).1
      | ok m' => exact (charted_modify (.settle id m')).bind fun _ _ _ => ih

/-! ## Charts of compilations -/

variable {depth : Nat} (hA : ∀ p f s, Charted mode named (annotateWithin mode depth p f) s Anything)

include hA

theorem charted_compileFields (required : List String) (done : List Field)
    (properties : List (String × Fragment)) :
    Charted mode named (compileFields (annotateWithin mode depth) required done properties) s
      Anything := by
  induction properties generalizing done s with
  | nil => exact charted_pure trivial
  | cons p rest ih =>
    obtain ⟨property, f⟩ := p
    refine (hA property f s).bind fun r s' _ => ?_
    obtain ⟨type, isBack⟩ := r
    cases isBack with
    | false => exact ih _
    | true => exact (charted_modify (.session s'.session true)).bind fun _ _ _ => ih _

theorem charted_buildModel (name : String) (f : Fragment) :
    Charted mode named (buildModel mode (annotateWithin mode depth) name f) s Anything := by
  refine (charted_ofExcept (ordinary_requiredNames f).plain).bind fun required s' _ => ?_
  refine (charted_compileFields hA required [] f.properties).bind fun fields s' _ => ?_
  refine Charted.get ?_
  refine (charted_ofExcept (ordinary_finishFields _ _ _).plain).bind fun fields s'' _ => ?_
  exact charted_addType (.model _)

/-- The making of a model between its marks, with the declaration of its name, is a call. -/
theorem charted_declare_whilePending {name : String} {f : Fragment} {k : TypeId → Generating β}
    (hn : named s.names name) (hk : ∀ id s', Charted mode named (k id) s' goal) :
    Charted mode named (do
      let id ← whilePending f.location name (buildModel mode (annotateWithin mode depth) name f)
      Generating.declare name (.model id) (some f)
      k id) s goal := by
  obtain ⟨calls, hc, -⟩ := charted_buildModel hA (s := s.mark f.location name) name f
  rcases hr : (buildModel mode (annotateWithin mode depth) name f).run
    (s.mark f.location name) with ⟨r, b⟩
  rw [hr] at hc
  let c : Call := ⟨name, f, s, failure? r, b⟩
  have hg : c.Genuine mode named := ⟨hn, depth, r, hr, rfl⟩
  have hw := run_whilePending f.location name
    (buildModel mode (annotateWithin mode depth) name f) s
  rw [hr] at hw
  dsimp only at hw
  rw [Charted, run_bind, hw]
  by_cases hp : Entries.has b.pending f.location = true
  · rw [if_pos hp]
    cases r with
    | error e => exact ⟨c :: calls, .failed c hg hc hp rfl, fun _ ha => nomatch ha⟩
    | ok id =>
      dsimp only
      rw [run_bind, Generating.run_declare]
      by_cases ht : b.names.contains name = true
      · have ht' : (b.unmark f.location).names.contains name = true := ht
        rw [if_pos ht']
        exact ⟨c :: calls, .taken c hg hc hp ⟨rfl, ht⟩, fun _ ha => nomatch ha⟩
      · have ht' : ¬(b.unmark f.location).names.contains name = true := ht
        rw [if_neg ht']
        obtain ⟨calls', hc', hpost⟩ := hk id
          ((b.unmark f.location).put name (.model id) (some f))
        refine ⟨(c :: calls) ++ calls', .seq (.compiled c id hg hc hp rfl ?_) hc', hpost⟩
        exact Bool.eq_false_iff.2 ht
  · rw [if_neg hp]
    exact ⟨c :: calls, .lost c hg hc (Bool.eq_false_iff.2 hp), fun _ ha => nomatch ha⟩

theorem charted_compileNew {name : String} (hn : named s.names name) (f : Fragment)
    (outermost : Bool) :
    Charted mode named (compileNew mode (annotateWithin mode depth) name f outermost) s
      Anything := by
  have hbegin : Charted mode named (beginSession outermost) s
      (fun _ s' => s'.names = s.names) := by
    cases outermost with
    | true => exact ⟨[], .change (.session [] false), fun _ _ => rfl⟩
    | false => exact ⟨[], .done s, fun _ _ => rfl⟩
  refine hbegin.bind fun _ s' hs' => ?_
  rw [← hs'] at hn
  refine charted_declare_whilePending hA hn fun id s' => ?_
  refine (charted_modify (.session _ _)).bind fun _ s' _ => ?_
  refine (charted_report _).bind fun _ s' _ => ?_
  have hend : Charted mode named (endSession outermost) s' Anything := by
    refine Charted.get ?_
    split
    · exact charted_settleAll _
    · exact charted_pure trivial
  exact hend.bind fun _ _ _ => charted_pure trivial

theorem charted_compile {name : String} (hn : named s.names name) (f : Fragment) :
    Charted mode named (compile mode (annotateWithin mode depth) name f) s Anything := by
  unfold compile
  by_cases ho : f.isObject = true
  · rw [if_pos ho]
    refine Charted.get ?_
    cases s.names.typeOf? f with
    | some handle => exact charted_pure trivial
    | none => exact charted_compileNew hA hn f _
  · rw [if_neg ho]
    exact charted_throw rfl

/-! ## Charts of unions -/

variable (hN : ∀ names name, Chosen mode names name → named names name)

omit hA in
theorem charted_branchTarget (branch : Fragment) :
    Charted mode named (branchTarget branch) s Anything := by
  have hcheck (target : Fragment) (s : Generation) : Charted mode named
      (if target.isObject then return target
      else throw (.generation (.nonObject target.location target.content)) :
        Generating Fragment) s Anything := by
    by_cases ho : target.isObject = true
    · rw [if_pos ho]
      exact charted_pure trivial
    · rw [if_neg ho]
      exact charted_throw rfl
  unfold branchTarget
  by_cases hr : branch.ref.isSome = true
  · simp only [hr, if_true]
    exact (charted_onStore (transparent_resolve branch)).bind fun target s' _ => hcheck target s'
  · simp only [hr]
    have hbranch : Charted mode named (pure branch) s Anything := charted_pure trivial
    exact hbranch.bind fun target s' _ => hcheck target s'

include hN in
omit hA in
/-- The name of a branch is chosen in the state that it is used in. -/
theorem charted_nameBranch (base : String) (branch : Fragment) :
    Charted mode named (nameBranch mode base branch) s (fun name s' => named s'.names name) := by
  unfold nameBranch
  cases branch.ref with
  | some ref =>
    refine charted_declaredNames.bind fun declared s' hd => ?_
    obtain ⟨rfl, rfl⟩ := hd
    refine (charted_ofExcept (ordinary_uri _).plain).mono fun name s'' hname => hN _ _ ?_
    obtain ⟨hr, rfl⟩ := hname
    unfold Namer.forReference at hr
    cases href : referenceName ref with
    | error e =>
      rw [href] at hr
      cases hr
    | ok raw =>
      rw [href] at hr
      cases hr
      exact ⟨_, rfl⟩
  | none =>
    refine (charted_modify (.count base)).bind fun _ s' _ => ?_
    exact Charted.get (charted_pure (hN _ _ ⟨_, rfl⟩))

include hN

theorem charted_branchType (base : String) (branch target : Fragment) :
    Charted mode named (branchType mode (annotateWithin mode depth) base branch target) s
      Anything := by
  refine Charted.get ?_
  rcases s.names.typeOf? target with _ | (_ | id | id | text)
  · refine (charted_nameBranch hN base branch).bind fun name s' hn => ?_
    exact (charted_compile hA hn target).bind fun _ _ _ => charted_pure trivial
  · exact charted_throw rfl
  · exact charted_pure trivial
  · exact charted_pure trivial
  · exact charted_throw rfl

omit hA hN in
/-- A variant is ordered. -/
theorem ordered_of_variant {types : Types} {typeName source : String} {handle : Handle}
    {v : Variant} (h : types.variant mode typeName source handle = .ok v) : v.Ordered := by
  cases handle with
  | model id =>
    unfold Types.variant at h
    dsimp only at h
    cases hm : types.model? id with
    | none =>
      rw [hm] at h
      cases h
    | some m =>
      rw [hm] at h
      dsimp only at h
      cases hd : m.descriptor typeName (some source) mode.config.emptyTag with
      | error e =>
        rw [hd] at h
        cases h
      | ok d =>
        rw [hd] at h
        cases h
        exact Descriptor.ordered_of_make hd
  | reserved => cases h
  | union id => cases h
  | label text => cases h

theorem charted_compileVariant (base : String) (branch : Fragment) :
    Charted mode named (compileVariant mode (annotateWithin mode depth) base branch) s
      (fun v _ => v.Ordered) := by
  refine (charted_branchTarget branch).bind fun target s' _ => ?_
  refine (charted_branchType hA hN base branch target).bind fun r s' _ => ?_
  obtain ⟨typeName, handle⟩ := r
  refine (charted_report _).bind fun _ s' _ => ?_
  refine Charted.get ?_
  exact (charted_ofExcept (ordinary_variant _ _ _ _ _).plain).mono fun v _ hv =>
    ordered_of_variant hv.1

theorem charted_compileVariants (base : String) (branches : List Fragment) :
    Charted mode named (compileVariants mode (annotateWithin mode depth) base branches) s
      (fun vs _ => ∀ v ∈ vs, v.Ordered) := by
  induction branches generalizing s with
  | nil => exact charted_pure fun v hv => nomatch hv
  | cons b bs ih =>
    refine (charted_compileVariant hA hN base b).bind fun v s' hv => ?_
    refine ih.bind fun vs s' hvs => ?_
    refine charted_pure fun w hw => ?_
    rcases List.mem_cons.1 hw with rfl | hw
    · exact hv
    · exact hvs w hw

theorem charted_draftUnion (base : String) (f : Fragment) :
    Charted mode named (draftUnion mode (annotateWithin mode depth) base f) s Anything := by
  refine charted_declaredNames.bind fun declared s' hd => ?_
  obtain ⟨rfl, rfl⟩ := hd
  refine (charted_reserve (hN _ _ ⟨_, rfl⟩)).bind fun _ s' _ => ?_
  refine (charted_report _).bind fun _ s' _ => ?_
  refine (charted_compileVariants hA hN base f.branches).bind fun variants s' hv => ?_
  refine (charted_ofExcept (ordinary_assembleUnion _ _ _ _).plain).bind fun union s' hu => ?_
  refine (charted_addType (.union union ?_)).bind fun id _ _ => charted_pure trivial
  obtain ⟨hu, -⟩ := hu
  rw [eq_of_assembleUnion hu]
  exact hv

theorem charted_buildUnion (base : String) (f : Fragment) (hs : f.location ∉ s.inProgress) :
    Charted mode named (buildUnion mode (annotateWithin mode depth) base f) s Anything := by
  obtain ⟨calls, hc, -⟩ := charted_draftUnion hA hN (s := s.enter f.location) base f
  rw [Charted, run_buildUnion]
  rcases hr : (draftUnion mode (annotateWithin mode depth) base f).run
    (s.enter f.location) with ⟨e | ⟨name, id⟩, s'⟩ <;> rw [hr] at hc
  · exact ⟨calls, .abandoned f.location hs hc, fun _ _ => trivial⟩
  · dsimp only
    have hnot : Course mode named s (calls ++ []) (some (.generation (.notReserved name))) s' :=
      .abandoned f.location hs (hc.seq (.fault s' _ rfl))
    rcases s'.names.get? name with _ | (_ | _ | _ | _)
    case some.reserved => exact ⟨calls, .generated name id f hs hc, fun _ _ => trivial⟩
    all_goals exact ⟨_, hnot, fun _ _ => trivial⟩

theorem charted_unionOf (base : String) (f : Fragment) :
    Charted mode named (unionOf mode (annotateWithin mode depth) base f) s Anything := by
  refine (charted_onStore (transparent_resolve f)).bind fun target s' _ => ?_
  refine Charted.get ?_
  cases Entries.get? s'.unions target.location with
  | some id => exact charted_pure trivial
  | none =>
    dsimp only
    by_cases hc : s'.inProgress.contains target.location = true
    · rw [if_pos hc]
      exact charted_throw rfl
    · rw [if_neg hc]
      by_cases hb : target.branches.isEmpty = true
      · rw [if_pos hb]
        exact charted_throw rfl
      · rw [if_neg hb]
        exact charted_buildUnion hA hN base target fun hm => hc (List.contains_iff_mem.2 hm)

/-! ## Charts of the types of fields -/

theorem charted_objectType (property : String) (reference : Option String) (f : Fragment) :
    Charted mode named (objectType mode (annotateWithin mode depth) property reference f) s
      Anything := by
  unfold objectType
  by_cases hp : f.properties.isEmpty = true
  · rw [if_pos hp]
    exact charted_pure trivial
  · rw [if_neg hp]
    refine (charted_ofExcept (ordinary_nestedName property reference).plain).bind fun raw s' _ => ?_
    refine charted_declaredNames.bind fun declared s' hd => ?_
    obtain ⟨rfl, rfl⟩ := hd
    exact (charted_compile hA (hN _ _ ⟨_, rfl⟩) f).bind fun _ _ _ => charted_pure trivial

theorem charted_typeFor (property : String) (reference : Option String) (f : Fragment)
    (jsonType : String) :
    Charted mode named (typeFor mode (annotateWithin mode depth) property reference f jsonType) s
      Anything := by
  have hitem : Charted mode named (itemType (annotateWithin mode depth) property f) s
      Anything := by
    unfold itemType
    split
    · exact hA _ _ _
    · exact charted_pure trivial
  unfold typeFor
  split
  case h_1 => exact charted_objectType hA hN property reference f
  case h_2 => exact hitem.bind fun _ _ _ => charted_pure trivial
  all_goals exact charted_pure trivial

theorem charted_typesFor (property : String) (reference : Option String) (f : Fragment)
    (jsonTypes : List String) :
    Charted mode named (typesFor mode (annotateWithin mode depth) property reference f jsonTypes)
      s Anything := by
  induction jsonTypes generalizing s with
  | nil => exact charted_pure trivial
  | cons j js ih =>
    refine (charted_typeFor hA hN property reference f j).bind fun r s' _ => ?_
    exact ih.bind fun _ _ _ => charted_pure trivial

theorem charted_newType (property : String) (reference : Option String) (f : Fragment) :
    Charted mode named (newType mode (annotateWithin mode depth) property reference f) s
      Anything := by
  unfold newType
  by_cases ho : f.hasOneOf = true
  · rw [if_pos ho]
    by_cases hn : mode.nestedUnions = true
    · rw [if_pos hn]
      exact (charted_unionOf hA hN property f).bind fun _ _ _ => charted_pure trivial
    · rw [if_neg hn]
      exact charted_pure trivial
  · rw [if_neg ho]
    cases literals? f with
    | some values => exact charted_pure trivial
    | none =>
      show Charted mode named (typeByJsonTypes mode _ property reference f) s Anything
      unfold typeByJsonTypes
      by_cases ht : (f.types.isEmpty && !f.isObject) = true
      · rw [if_pos ht]
        exact charted_pure trivial
      · rw [if_neg ht]
        exact (charted_typesFor hA hN property reference f _).bind fun _ _ _ =>
          charted_pure trivial

theorem charted_annotateOnce (property : String) (f : Fragment) :
    Charted mode named (annotateOnce mode (annotateWithin mode depth) property f) s
      Anything := by
  refine (charted_onStore (transparent_resolveChain f)).bind fun chain s' _ => ?_
  refine Charted.get ?_
  cases Entries.get? s'.pending chain.target.location with
  | some name => exact charted_pure trivial
  | none =>
    dsimp only
    cases s'.names.typeOf? chain.target with
    | some handle => exact charted_pure trivial
    | none => exact charted_newType hA hN property _ chain.target

end Charts

/-! ## Every generation has a course -/

variable {mode : Mode} {named : Naming}

/-- Finding the type of a field has a course, at every depth. -/
theorem charted_annotateWithin (hN : ∀ names name, Chosen mode names name → named names name)
    (depth : Nat) (property : String) (f : Fragment) (s : Generation) :
    Charted mode named (annotateWithin mode depth property f) s Anything := by
  induction depth generalizing property f s with
  | zero => exact charted_throw rfl
  | succ depth ih => exact charted_annotateOnce ih hN property f

/-- Compilations under a given name have courses. -/
theorem exists_course_compileModel (mode : Mode) (name : String) (f : Fragment)
    (s : Generation) : ∃ calls, Course mode (fun _ _ => True) s calls
      (failure? ((compileModel mode name f).run s).1) ((compileModel mode name f).run s).2 := by
  have hA (p : String) (g : Fragment) (s : Generation) :
      Charted mode (fun _ _ => True) (annotateWithin mode mode.depth p g) s Anything :=
    charted_annotateWithin (fun _ _ _ => trivial) mode.depth p g s
  have h : Charted mode (fun _ _ => True) (compileModel mode name f) s Anything :=
    charted_compile hA trivial f
  obtain ⟨calls, hc, -⟩ := h
  exact ⟨calls, hc⟩

/-- The compilations that a generation makes, in the order in which they begin. -/
def Makes (mode : Mode) (base : String) (f : Fragment) (s : Generation) (calls : List Call) :
    Prop :=
  Course mode (Chosen mode) s calls
    (failure? ((unionOf mode (annotate mode) base f).run s).1)
    ((unionOf mode (annotate mode) base f).run s).2

/-- Every generation makes some compilations. -/
theorem exists_makes (mode : Mode) (base : String) (f : Fragment) (s : Generation) :
    ∃ calls, Makes mode base f s calls := by
  have hN (names : Namespace) (name : String) (h : Chosen mode names name) :
      Chosen mode names name := h
  obtain ⟨calls, hc, -⟩ := charted_unionOf (charted_annotateWithin hN mode.depth) hN (s := s)
    base f
  exact ⟨calls, hc⟩

end ShapeSum
