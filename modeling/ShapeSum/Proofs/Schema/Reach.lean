import Mathlib.Data.Finite.Prod
import Mathlib.Data.Set.Finite.Lattice
import Mathlib.Logic.Relation
import ShapeSum.Proofs.Schema.Documents

/-!
# Fragments in reach

From a fragment a compilation moves on to its properties, its branches and its
items, and along references.  What is met on the way is *in reach* of the fragment.
A reference may lead back, so a chain of moves can be endless; but the fragments in
reach are finitely many when finitely many documents can be had
(`finite_reaches`).  Each of them is a part of the first fragment or of the target of
a reference, and a reference is known by its text and the document where it stands.
-/

namespace ShapeSum

variable {view : String → Fetch} {f g h : Fragment}

/-! ## Moves -/

/-- A fragment is a property, a branch or the items of another one. -/
inductive Fragment.HasPart (f : Fragment) : Fragment → Prop
  /-- A declared property. -/
  | property {name : String} {g : Fragment} : (name, g) ∈ f.properties → HasPart f g
  /-- A branch. -/
  | branch {g : Fragment} : g ∈ f.branches → HasPart f g
  /-- The items, if an object says what they are. -/
  | items {ms : List (String × Json)} : f.get? "items" = some (.obj ms) →
      HasPart f (f.part "items" (.obj ms))

/-- A reference leads from one fragment to another in one hop, by what can be had. -/
def Hop (view : String → Fetch) (f g : Fragment) : Prop :=
  ∃ ref, f.ref = some ref ∧ ((Store.resolveRef ref f).run (Store.empty view)).1 = .ok g

/-- A fragment is in reach of another one. -/
inductive Reaches (view : String → Fetch) (f : Fragment) : Fragment → Prop
  /-- The fragment itself. -/
  | refl : Reaches view f f
  /-- A part of a fragment in reach. -/
  | part {g h : Fragment} : Reaches view f g → g.HasPart h → Reaches view f h
  /-- The target of a reference in reach. -/
  | hop {g h : Fragment} : Reaches view f g → Hop view g h → Reaches view f h

theorem Reaches.trans (hg : Reaches view f g) (hh : Reaches view g h) : Reaches view f h := by
  induction hh with
  | refl => exact hg
  | part _ hp ih => exact ih.part hp
  | hop _ hr ih => exact ih.hop hr

/-- A set that no move leaves has all that is in reach. -/
theorem Reaches.mem_of_closed {S : Set Fragment} (h : Reaches view f g) (hf : f ∈ S)
    (hpart : ∀ g ∈ S, ∀ h, g.HasPart h → h ∈ S) (hhop : ∀ g ∈ S, ∀ h, Hop view g h → h ∈ S) :
    g ∈ S := by
  induction h with
  | refl => exact hf
  | part _ hp ih => exact hpart _ ih _ hp
  | hop _ hr ih => exact hhop _ ih _ hr

/-- Fragments in reach that share a location are one. -/
def Coherent (view : String → Fetch) (f : Fragment) : Prop :=
  ∀ g h, Reaches view f g → Reaches view f h → g.location = h.location → g = h

/-! ## Chains of references -/

/-- A chain of references passes from hop to hop and ends at a fragment that is no reference. -/
theorem hops_of_followRefs {fuel : Nat} {hops : List String} {s : Store} {c : Chain}
    (h : ((followRefs fuel hops f).run s).1 = .ok c) :
    Relation.ReflTransGen (Hop s.view) f c.target ∧ c.target.ref = none := by
  induction fuel generalizing hops f s with
  | zero => cases h
  | succ fuel ih =>
    unfold followRefs at h
    split at h
    · rename_i hnone
      cases h
      exact ⟨.refl, hnone⟩
    · rename_i ref href
      have hkeeps := (transparent_resolveRef ref f).keeps s
      have hagrees := (transparent_resolveRef ref f).agrees s (Store.empty s.view) rfl
      rw [run_bind] at h
      rcases hr : (Store.resolveRef ref f).run s with ⟨e | target, s'⟩ <;>
        rw [hr] at h hkeeps hagrees
      · cases h
      · have hhop : Hop s.view f target := ⟨ref, href, hagrees.symm⟩
        dsimp only at h
        split at h
        · cases h
        · obtain ⟨hreach, hend⟩ := ih h
          rw [hkeeps] at hreach
          exact ⟨.head hhop hreach, hend⟩

theorem resolve_run_eq_ok_iff {s : Store} :
    ((resolve f).run s).1 = .ok g ↔ ∃ c, ((resolveChain f).run s).1 = .ok c ∧ c.target = g := by
  unfold resolve
  rw [run_bind]
  rcases (resolveChain f).run s with ⟨e | c, s'⟩
  · constructor
    · intro h
      cases h
    · rintro ⟨c, hc, -⟩
      cases hc
  · constructor
    · intro h
      exact ⟨c, rfl, Except.ok.inj h⟩
    · rintro ⟨c', hc, rfl⟩
      cases hc
      rfl

/-- References lead hop by hop to a fragment that is none. -/
theorem LeadsTo.hops (h : LeadsTo view f g) :
    Relation.ReflTransGen (Hop view) f g ∧ g.ref = none := by
  obtain ⟨c, hc, rfl⟩ := resolve_run_eq_ok_iff.1 h
  exact hops_of_followRefs hc

/-- Where references end is in reach. -/
theorem LeadsTo.reaches (h : LeadsTo view f g) : Reaches view f g := by
  have hhops := h.hops.1
  clear h
  induction hhops with
  | refl => exact .refl
  | tail _ hh ih => exact ih.hop hh

/-- Where references from something in reach end is in reach. -/
theorem Reaches.leads {h : Fragment} (hg : Reaches view f g) (hlead : LeadsTo view g h) :
    Reaches view f h :=
  hg.trans hlead.reaches

/-- References from a fragment end at one fragment only. -/
theorem LeadsTo.unique {g' : Fragment} (h : LeadsTo view f g) (h' : LeadsTo view f g') : g = g' :=
  Except.ok.inj (h.symm.trans h')

/-- A reference to another place that is no reference leads there. -/
theorem LeadsTo.of_hop (h : Hop view f g) (hg : g.ref = none) (hne : g.location ≠ f.location) :
    LeadsTo view f g := by
  obtain ⟨ref, href, hrun⟩ := h
  have hfirst : (Store.resolveRef ref f).run (Store.empty view) =
      (.ok g, ((Store.resolveRef ref f).run (Store.empty view)).2) := Prod.ext hrun rfl
  have hnew : [f.location].contains g.location = false := by
    rw [List.contains_eq_mem, decide_eq_false_iff_not, List.mem_singleton]
    exact hne
  have hchain : ((resolveChain f).run (Store.empty view)).1 =
      .ok ⟨[f.location] ++ [g.location], g⟩ := by
    unfold resolveChain hopLimit followRefs
    rw [href]
    dsimp only
    rw [run_bind_ok hfirst, hnew, if_neg Bool.false_ne_true]
    unfold followRefs
    rw [hg]
    rfl
  exact resolve_run_eq_ok_iff.2 ⟨_, hchain, rfl⟩

/-! ## Finite closures -/

/-- What is reached along a relation that leads to finitely many smaller things is finite. -/
theorem finite_reflTransGen {α : Type} {r : α → α → Prop} (size : α → Nat)
    (hsize : ∀ {a b}, r a b → size b < size a) (hfinite : ∀ a, {b | r a b}.Finite) (a : α) :
    {b | Relation.ReflTransGen r a b}.Finite := by
  induction hn : size a using Nat.strong_induction_on generalizing a with
  | _ n ih =>
    have hcover : {b | Relation.ReflTransGen r a b} ⊆
        insert a (⋃ c ∈ {c | r a c}, {b | Relation.ReflTransGen r c b}) := by
      intro b hb
      rcases Relation.ReflTransGen.cases_head hb with rfl | ⟨c, hc, hb⟩
      · exact Set.mem_insert _ _
      · exact Set.mem_insert_of_mem _ (Set.mem_biUnion hc hb)
    refine Set.Finite.subset (Set.Finite.insert a ?_) hcover
    exact (hfinite a).biUnion fun c hc => ih (size c) (hn ▸ hsize hc) c rfl

/-! ## Parts of JSON -/

/-- A value is an item or a member of another one. -/
inductive Json.HasPart : Json → Json → Prop
  /-- An item of a list. -/
  | item {items : List Json} {x : Json} : x ∈ items → HasPart (.arr items) x
  /-- A member of an object. -/
  | member {members : List (String × Json)} {key : String} {x : Json} : (key, x) ∈ members →
      HasPart (.obj members) x

namespace Json

variable {j x : Json}

theorem HasPart.sizeOf_lt (h : j.HasPart x) : sizeOf x < sizeOf j := by
  cases h with
  | item hx =>
    have := List.sizeOf_lt_of_mem hx
    simp only [arr.sizeOf_spec]
    omega
  | member hx =>
    have := List.sizeOf_lt_of_mem hx
    simp only [obj.sizeOf_spec, Prod.mk.sizeOf_spec] at this ⊢
    omega

/-- Induction over JSON values; the parts of a container are its items or the values of its
members. -/
@[elab_as_elim]
theorem induct {motive : Json → Prop} (parts : ∀ j, (∀ x, j.HasPart x → motive x) → motive j)
    (j : Json) : motive j :=
  parts j fun x _ => induct parts x
termination_by sizeOf j
decreasing_by exact HasPart.sizeOf_lt ‹_›

/-- A value lies within another one, at any depth. -/
def Within (j : Json) : Json → Prop := Relation.ReflTransGen HasPart j

mutual

/-- A value and all values within it. -/
def inner : Json → List Json
  | .arr items => .arr items :: innerItems items
  | .obj members => .obj members :: innerMembers members
  | j => [j]

/-- The items of a list and all values within them. -/
def innerItems : List Json → List Json
  | [] => []
  | x :: xs => inner x ++ innerItems xs

/-- The members of an object and all values within them. -/
def innerMembers : List (String × Json) → List Json
  | [] => []
  | (_, x) :: ms => inner x ++ innerMembers ms

end

theorem self_mem_inner (j : Json) : j ∈ j.inner := by
  cases j <;> exact List.mem_cons_self

theorem inner_subset_innerItems {items : List Json} (h : x ∈ items) :
    x.inner ⊆ innerItems items := by
  induction items with
  | nil => cases h
  | cons y ys ih =>
    rcases List.mem_cons.1 h with rfl | h
    · exact List.subset_append_left _ _
    · exact List.Subset.trans (ih h) (List.subset_append_right _ _)

theorem inner_subset_innerMembers {members : List (String × Json)} {key : String}
    (h : (key, x) ∈ members) : x.inner ⊆ innerMembers members := by
  induction members with
  | nil => cases h
  | cons p ps ih =>
    rcases List.mem_cons.1 h with rfl | h
    · exact List.subset_append_left _ _
    · exact List.Subset.trans (ih h) (List.subset_append_right _ _)

theorem HasPart.inner_subset (h : j.HasPart x) : x.inner ⊆ j.inner := by
  cases h with
  | item hx => exact List.Subset.trans (inner_subset_innerItems hx) (List.subset_cons_self _ _)
  | member hx => exact List.Subset.trans (inner_subset_innerMembers hx) (List.subset_cons_self _ _)

/-- Whatever lies within a value is listed. -/
theorem Within.mem_inner (h : j.Within x) : x ∈ j.inner := by
  have hsub : x.inner ⊆ j.inner := by
    induction h with
    | refl => exact List.Subset.refl _
    | tail _ hx ih => exact List.Subset.trans hx.inner_subset ih
  exact hsub x.self_mem_inner

theorem hasPart_of_get? {keyword : String} (h : j.get? keyword = some x) : j.HasPart x := by
  cases j with
  | obj members => exact .member (Entries.mem_of_get? h)
  | _ => cases h

theorem hasPart_of_step {segment : String} (h : j.step segment = .ok x) : j.HasPart x := by
  cases j with
  | arr items =>
    unfold step at h
    dsimp only at h
    split at h
    · cases h
    · split at h <;> cases h
      rename_i hx
      unfold itemAt? at hx
      split at hx
      · exact .item (List.mem_of_getElem? hx)
      · split at hx
        · exact .item (List.mem_of_getElem? hx)
        · cases hx
  | obj members =>
    unfold step at h
    dsimp only at h
    split at h <;> cases h
    rename_i hx
    exact .member (Entries.mem_of_get? hx)
  | _ => cases h

end Json

/-! ## Parts of fragments -/

namespace Fragment

/-- The content of a part lies within the content of the whole, and the part stands in the same
document. -/
theorem HasPart.within (h : f.HasPart g) :
    Relation.TransGen Json.HasPart f.content g.content ∧ g.document = f.document := by
  cases h with
  | @property name g hp =>
    unfold properties members at hp
    split at hp
    · rename_i ms hget
      obtain ⟨p, hmem, he⟩ := List.mem_map.1 hp
      cases he
      exact ⟨.tail (.single (Json.hasPart_of_get? hget)) (.member hmem), rfl⟩
    · cases hp
  | branch hb =>
    unfold branches at hb
    split at hb
    · rename_i items hget
      obtain ⟨i, hi, rfl⟩ := List.mem_mapIdx.1 hb
      exact ⟨.tail (.single (Json.hasPart_of_get? hget)) (.item (List.getElem_mem hi)), rfl⟩
    · cases hb
  | items hget => exact ⟨.single (Json.hasPart_of_get? hget), rfl⟩

theorem HasPart.sizeOf_lt (h : f.HasPart g) : sizeOf g.content < sizeOf f.content := by
  have hlt : ∀ {x}, Relation.TransGen Json.HasPart f.content x → sizeOf x < sizeOf f.content := by
    intro x hx
    induction hx with
    | single hx => exact hx.sizeOf_lt
    | tail _ hx ih => exact hx.sizeOf_lt.trans ih
  exact hlt h.within.1

/-- The properties, the branches and the items. -/
def parts (f : Fragment) : List Fragment :=
  f.properties.map Prod.snd ++ (f.branches ++
    match f.get? "items" with
    | some (.obj ms) => [f.part "items" (.obj ms)]
    | _ => [])

theorem HasPart.mem_parts (h : f.HasPart g) : g ∈ f.parts := by
  cases h with
  | property hp => exact List.mem_append_left _ (List.mem_map_of_mem hp)
  | branch hb => exact List.mem_append_right _ (List.mem_append_left _ hb)
  | items hi =>
    refine List.mem_append_right _ (List.mem_append_right _ ?_)
    rw [hi]
    exact List.mem_singleton_self _

theorem finite_hasPart (f : Fragment) : {g | f.HasPart g}.Finite :=
  (List.finite_toSet f.parts).subset fun _ h => h.mem_parts

theorem within_of_child {segments : List String} (h : f.child segments = .ok g) :
    f.content.Within g.content ∧ g.document = f.document := by
  induction segments generalizing f with
  | nil =>
    cases h
    exact ⟨.refl, rfl⟩
  | cons segment rest ih =>
    unfold child at h
    split at h
    · cases h
    · rename_i x hx
      obtain ⟨hw, hd⟩ := ih h
      exact ⟨.head (Json.hasPart_of_step hx) hw, hd⟩

end Fragment

/-! ## Targets of references -/

/-- The URI of the document that a reference names, from the URI of the document where it
stands. -/
def referenceUri (base : String) (document : List Char) : Except Uri.Fault String :=
  if document.isEmpty then .ok base else Uri.join base (String.ofList document)

/-- A reference is read and joined, then its fragment is asked for; a failure of that is told from
the place of the reference. -/
theorem run_resolveRef (ref : String) (base : Fragment) (s : Store) :
    ((Store.resolveRef ref base).run s).1 = match Uri.splitFragment ref.toList with
      | .error fault => .error (.uri fault)
      | .ok (document, escaped) => match referenceUri base.document document with
        | .error fault => .error (.uri fault)
        | .ok uri =>
          (((Store.fragment uri (String.ofList (Uri.unescape escaped))).run s).1).mapError
            (Store.retell ref base.location) := by
  have htell (uri pointer : String) : ((tryCatch (Store.fragment uri pointer)
        fun e => throw (Store.retell ref base.location e) : Resolving Fragment).run s).1 =
      (((Store.fragment uri pointer).run s).1).mapError (Store.retell ref base.location) := by
    rw [run_tryCatch]
    rcases (Store.fragment uri pointer).run s with ⟨e | g, s'⟩
    · rfl
    · rfl
  unfold Store.resolveRef
  cases Uri.splitFragment ref.toList with
  | error fault => rfl
  | ok p =>
    dsimp only
    unfold referenceUri
    by_cases hempty : p.1.isEmpty = true
    · rw [if_pos hempty, if_pos hempty]
      exact htell base.document _
    · rw [if_neg hempty, if_neg hempty]
      cases Uri.join base.document (String.ofList p.1) with
      | error fault => rfl
      | ok uri => exact htell uri _

/-- A reference leads to a fragment exactly when its two parts are a URI and a pointer to it. -/
theorem resolveRef_run_eq_ok_iff {ref : String} {base : Fragment} {s : Store} :
    ((Store.resolveRef ref base).run s).1 = .ok g ↔ ∃ document pointer uri,
      Uri.splitFragment ref.toList = .ok (document, pointer) ∧
      referenceUri base.document document = .ok uri ∧
      ((Store.fragment uri (String.ofList (Uri.unescape pointer))).run s).1 = .ok g := by
  rw [run_resolveRef]
  constructor
  · intro h
    split at h
    · cases h
    · rename_i document pointer hsplit
      split at h
      · cases h
      · rename_i uri huri
        cases hrun : ((Store.fragment uri (String.ofList (Uri.unescape pointer))).run s).1 with
        | error e =>
          rw [hrun] at h
          cases h
        | ok g' =>
          rw [hrun] at h
          cases h
          exact ⟨document, pointer, uri, hsplit, huri, hrun⟩
  · rintro ⟨document, pointer, uri, hsplit, huri, hrun⟩
    rw [hsplit]
    dsimp only
    rw [huri]
    dsimp only
    rw [hrun]
    rfl

/-- What a reference leads to depends on the document where it stands, not on its place there. -/
theorem Hop.congr {f' : Fragment} (h : Hop view f g) (hr : f.ref = f'.ref)
    (hd : f.document = f'.document) : Hop view f' g := by
  obtain ⟨ref, href, hg⟩ := h
  refine ⟨ref, hr ▸ href, ?_⟩
  rw [resolveRef_run_eq_ok_iff] at hg ⊢
  rw [← hd]
  exact hg

/-- A reference leads to one fragment only. -/
theorem Hop.unique {g' : Fragment} (h : Hop view f g) (h' : Hop view f g') : g = g' := by
  obtain ⟨ref, href, hg⟩ := h
  obtain ⟨ref', href', hg'⟩ := h'
  cases href.symm.trans href'
  exact Except.ok.inj (hg.symm.trans hg')

/-- References end after one hop when it leads to no reference. -/
theorem LeadsTo.eq_of_hop (h : LeadsTo view f g) {t : Fragment} (hh : Hop view f t)
    (ht : t.ref = none) : g = t := by
  obtain ⟨hhops, hg⟩ := h.hops
  rcases Relation.ReflTransGen.cases_head hhops with rfl | ⟨m, hm, hrest⟩
  · obtain ⟨ref, href, -⟩ := hh
    rw [hg] at href
    cases href
  · cases hm.unique hh
    rcases Relation.ReflTransGen.cases_head hrest with rfl | ⟨_, ⟨ref, href, -⟩, -⟩
    · rfl
    · rw [ht] at href
      cases href

/-- The target of a reference lies within a document that can be had. -/
theorem Hop.exists_document (h : Hop view f g) :
    ∃ root, view g.document = .content root ∧ root.Within g.content := by
  obtain ⟨ref, -, hg⟩ := h
  obtain ⟨document, pointer, uri, -, -, hg⟩ := resolveRef_run_eq_ok_iff.1 hg
  rw [run_fragment] at hg
  split at hg
  · rename_i root hview
    split at hg
    · rename_i g' hf
      cases hg
      obtain ⟨hw, hd⟩ := Fragment.within_of_child hf
      exact ⟨root, hd ▸ hview, hw⟩
    · cases hg
  · cases hg
  · cases hg

/-! ## What is in reach is finite -/

/-- The contents that can be met from a fragment: its own and those of the documents, with all that
lies within. -/
def contentsFrom (view : String → Fetch) (f : Fragment) : Set Json :=
  ⋃ j ∈ insert f.content {j | ∃ uri, view uri = .content j}, {x | j.Within x}

/-- The documents where fragments met from a fragment stand. -/
def documentsFrom (view : String → Fetch) (f : Fragment) : Set String :=
  insert f.document {uri | ∃ j, view uri = .content j}

theorem Reaches.mem_from (h : Reaches view f g) :
    g.content ∈ contentsFrom view f ∧ g.document ∈ documentsFrom view f := by
  induction h with
  | refl =>
    exact ⟨Set.mem_biUnion (Set.mem_insert _ _) Relation.ReflTransGen.refl, Set.mem_insert _ _⟩
  | part _ hp ih =>
    obtain ⟨hw, hd⟩ := hp.within
    obtain ⟨j, hj, hjw⟩ := Set.mem_iUnion₂.1 ih.1
    exact ⟨Set.mem_biUnion hj (hjw.trans hw.to_reflTransGen), hd ▸ ih.2⟩
  | hop _ hr _ =>
    obtain ⟨root, hroot, hw⟩ := hr.exists_document
    exact ⟨Set.mem_biUnion (Set.mem_insert_of_mem _ ⟨_, hroot⟩) hw,
      Set.mem_insert_of_mem _ ⟨root, hroot⟩⟩

/-- Every fragment in reach is a part of the first one or of the target of a reference. -/
theorem Reaches.exists_head (h : Reaches view f g) :
    ∃ a, (a = f ∨ ∃ b, Reaches view f b ∧ Hop view b a) ∧
      Relation.ReflTransGen Fragment.HasPart a g := by
  induction h with
  | refl => exact ⟨f, .inl rfl, .refl⟩
  | part _ hp ih =>
    obtain ⟨a, ha, hw⟩ := ih
    exact ⟨a, ha, hw.tail hp⟩
  | @hop g h hg hr _ => exact ⟨h, .inr ⟨g, hg, hr⟩, .refl⟩

/-- When finitely many documents can be had, finitely many references are met. -/
theorem finite_targets (hview : {uri | ∃ j, view uri = .content j}.Finite) (f : Fragment) :
    {a | ∃ b, Reaches view f b ∧ Hop view b a}.Finite := by
  have hroots : {j | ∃ uri, view uri = .content j}.Finite := by
    refine (hview.biUnion (t := fun uri => {j | view uri = .content j}) fun uri _ => ?_).subset ?_
    · refine Set.Subsingleton.finite fun j hj j' hj' => ?_
      cases hj.symm.trans hj'
      rfl
    · rintro j ⟨uri, hj⟩
      exact Set.mem_biUnion (s := {uri | ∃ j, view uri = .content j}) ⟨j, hj⟩ hj
  have hcontents : (contentsFrom view f).Finite :=
    (hroots.insert _).biUnion fun j _ =>
      (List.finite_toSet j.inner).subset fun _ hx => hx.mem_inner
  have hdocuments : (documentsFrom view f).Finite := hview.insert _
  -- A reference is known by the content that bears it and the document where it stands.
  refine ((hcontents.prod hdocuments).biUnion
    (t := fun p => {a | Hop view ⟨p.1, p.2, ""⟩ a}) fun p _ => ?_).subset ?_
  · exact Set.Subsingleton.finite fun a ha a' ha' => ha.unique ha'
  · rintro a ⟨b, hb, ha⟩
    exact Set.mem_biUnion (x := (b.content, b.document)) hb.mem_from (ha.congr rfl rfl)

/-- When finitely many documents can be had, finitely many fragments are in reach. -/
theorem finite_reaches (hview : {uri | ∃ j, view uri = .content j}.Finite) (f : Fragment) :
    {g | Reaches view f g}.Finite := by
  refine (((finite_targets hview f).insert f).biUnion
    (t := fun a => {g | Relation.ReflTransGen Fragment.HasPart a g}) fun a _ =>
      finite_reflTransGen (fun g => sizeOf g.content) Fragment.HasPart.sizeOf_lt
        Fragment.finite_hasPart a).subset ?_
  intro g hg
  obtain ⟨a, ha, hw⟩ := hg.exists_head
  exact Set.mem_biUnion (s := insert f _) ha hw

/-- Only one document can be had. -/
def onlyDocument (uri : String) (content : Json) (asked : String) : Fetch :=
  if asked = uri then .content content else .unavailable ""

theorem eq_of_onlyDocument {uri asked : String} {content j : Json}
    (h : onlyDocument uri content asked = .content j) : asked = uri ∧ j = content := by
  unfold onlyDocument at h
  split at h
  · cases h
    exact ⟨‹_›, rfl⟩
  · cases h

theorem finite_onlyDocument (uri : String) (content : Json) :
    {asked | ∃ j, onlyDocument uri content asked = .content j}.Finite :=
  (Set.finite_singleton uri).subset fun _ ⟨_, h⟩ => (eq_of_onlyDocument h).1

/-! ## Levels -/

/-- The fragments some levels below a fragment. -/
def Fragment.level : Nat → Fragment → List Fragment
  | 0, f => [f]
  | n + 1, f => (level n f).flatMap parts

section NoDocuments

variable (hview : ∀ uri j, view uri ≠ .content j)

include hview

/-- Where no documents can be had, what is in reach is no larger. -/
theorem Reaches.sizeOf_le (h : Reaches view f g) : sizeOf g.content ≤ sizeOf f.content := by
  induction h with
  | refl => exact le_rfl
  | part _ hp ih => exact hp.sizeOf_lt.le.trans ih
  | hop _ hr _ =>
    obtain ⟨root, hroot, -⟩ := hr.exists_document
    exact absurd hroot (hview _ _)

/-- Where no documents can be had, only parts are in reach. -/
theorem Reaches.exists_level (h : Reaches view f g) : ∃ n, g ∈ f.level n := by
  induction h with
  | refl => exact ⟨0, List.mem_singleton_self f⟩
  | @part g h _ hp ih =>
    obtain ⟨n, hn⟩ := ih
    exact ⟨n + 1, List.mem_flatMap.2 ⟨g, hn, hp.mem_parts⟩⟩
  | hop _ hr _ =>
    obtain ⟨root, hroot, -⟩ := hr.exists_document
    exact absurd hroot (hview _ _)

/-- Below a level without fragments there are none. -/
theorem Reaches.mem_levels {n : Nat} (hlast : (f.level n).isEmpty = true) (h : Reaches view f g) :
    g ∈ (List.range n).flatMap fun i => f.level i := by
  have hempty (i : Nat) : f.level (n + i) = [] := by
    induction i with
    | zero => exact List.isEmpty_iff.1 hlast
    | succ i ih =>
      show (f.level (n + i)).flatMap Fragment.parts = []
      rw [ih]
      rfl
  obtain ⟨i, hi⟩ := h.exists_level hview
  refine List.mem_flatMap.2 ⟨i, List.mem_range.2 ?_, hi⟩
  by_contra hle
  obtain ⟨k, rfl⟩ := Nat.exists_eq_add_of_le (Nat.not_lt.1 hle)
  rw [hempty k] at hi
  cases hi

/-- Fragments are known by their locations when they have different ones down to a level where there
are none. -/
theorem coherent_of_levels {n : Nat} (hlast : (f.level n).isEmpty = true)
    (hnodup : (((List.range n).flatMap fun i => f.level i).map Fragment.location).Nodup) :
    Coherent view f :=
  fun _ _ hg hh hl =>
    List.inj_on_of_nodup_map hnodup (hg.mem_levels hview hlast) (hh.mem_levels hview hlast) hl

end NoDocuments

end ShapeSum
