import ShapeSum.CommandLine.Run
import ShapeSum.Files.Tree
import ShapeSum.Proofs.Decode.Deciding
import ShapeSum.Proofs.Generation.Completing
import ShapeSum.Proofs.Report.Summaries

/-!
# How runs end

What a run promises is a code: 2 when it does not get as far as its task, or when the task
finds no input of the right kind; else 0 when all went well and 1 when some object was not
matched (`Promised`).  It keeps the promise unless it is broken off, and what breaks it
off is listed in full (`Breaks`): settings that are no object, a failure of the generation
that is not reported, a path that no input can have, or a directory that the description
cannot be written in.  Decoding never does, since the models of a generation that succeeds
are complete.
-/

namespace ShapeSum.CommandLine

variable {files : Files} {directory : String} {i : Invocation} {u : UnionType} {types : Types}
  {task : Task} {path : String} {code : Nat} {b : Break}

/-! ## What is promised -/

/-- The file that a task reads its input from. -/
def Task.input? : Task → Option String
  | .describe _ => none
  | .decode path => some path
  | .check path => some path

/-- The state that the generation of a run starts from. -/
def freshState (files : Files) (uri : String) (root : Json) : Generation :=
  { store := (Store.empty (fileLoader files)).add uri root }

/-- The generation of a run: of the union at its pointer into a schema, under its name. -/
def generation (files : Files) (directory : String) (i : Invocation) (root : Json) (c : Config) :
    Except Failure TypeId × Generation :=
  let uri := Path.toUri (Path.resolve directory i.schema)
  (unionAt c uri i.pointer i.name).run (freshState files uri root)

/-- A run has settings and a schema. -/
def Reads (files : Files) (directory : String) (i : Invocation) (c : Config) (root : Json) : Prop :=
  readConfig files (i.config.map Path.tidy) = .ok c ∧
    files.readJson (Path.resolve directory i.schema) = .ok root

/-- A run gets as far as its task, with a union among the types that were generated. -/
def Reaches (files : Files) (directory : String) (i : Invocation) (u : UnionType) (types : Types) :
    Prop :=
  ∃ c root id gen, Reads files directory i c root ∧
    generation files directory i root c = (.ok id, gen) ∧
    gen.types.union? id = some u ∧ gen.types = types

/-- What a task promises about a union. -/
inductive Pledge (files : Files) (u : UnionType) (types : Types) : Task → Nat → Prop
  /-- The union is described. -/
  | described (outputDir : Option String) : Pledge files u types (.describe outputDir) 0
  /-- There is no input. -/
  | unread {task : Task} {path : String} {f : JsonFileFault} : task.input? = some path →
      files.readJson (Path.tidy path) = .error f → Pledge files u types task 2
  /-- What should be decoded is no object. -/
  | noObject {path : String} {data : Json} : files.readJson (Path.tidy path) = .ok data →
      (∀ members, data ≠ .obj members) → Pledge files u types (.decode path) 2
  /-- The object is matched. -/
  | matched {path : String} {members : List (String × Json)} :
      files.readJson (Path.tidy path) = .ok (.obj members) →
      ownVerdict types u (.obj members) = .matched → Pledge files u types (.decode path) 0
  /-- The object is not matched. -/
  | unmatched {path : String} {members : List (String × Json)} :
      files.readJson (Path.tidy path) = .ok (.obj members) →
      ownVerdict types u (.obj members) ≠ .matched → Pledge files u types (.decode path) 1
  /-- What should be checked is no array. -/
  | noArray {path : String} {data : Json} : files.readJson (Path.tidy path) = .ok data →
      (∀ items, data ≠ .arr items) → Pledge files u types (.check path) 2
  /-- Every item is matched. -/
  | allMatched {path : String} {items : List Json} :
      files.readJson (Path.tidy path) = .ok (.arr items) →
      (∀ item ∈ items, ownVerdict types u item = .matched) → Pledge files u types (.check path) 0
  /-- Some item is not matched. -/
  | someUnmatched {path : String} {items : List Json} {item : Json} :
      files.readJson (Path.tidy path) = .ok (.arr items) → item ∈ items →
      ownVerdict types u item ≠ .matched → Pledge files u types (.check path) 1

/-- What a run promises. -/
inductive Promised (files : Files) (directory : String) (i : Invocation) : Nat → Prop
  /-- It does not get as far as its task. -/
  | unprepared : (∀ u types, ¬Reaches files directory i u types) → Promised files directory i 2
  /-- It gets there. -/
  | prepared {u : UnionType} {types : Types} {code : Nat} : Reaches files directory i u types →
      Pledge files u types i.task code → Promised files directory i code

/-- What breaks a run off. -/
inductive Breaks (files : Files) (directory : String) (i : Invocation) : Break → Prop
  /-- The settings are no object. -/
  | settings {path text : String} {j : Json} : i.config = some path →
      files.read (Path.tidy path) = .ok text → Json.parseStored text = .ok j →
      (∀ members, j ≠ .obj members) → Breaks files directory i (.settings j.kind)
  /-- The generation fails otherwise than by a fault that is reported. -/
  | generation {c : Config} {root : Json} {e : Failure} {gen : Generation} :
      Reads files directory i c root → generation files directory i root c = (.error e, gen) →
      failureMessage? e = none → Breaks files directory i (.generation e)
  /-- The path of the input is none. -/
  | badPath {u : UnionType} {types : Types} {path : String} : Reaches files directory i u types →
      i.task.input? = some path → files.readJson (Path.tidy path) = .error (.file .badPath) →
      Breaks files directory i .badPath
  /-- The description cannot be written. -/
  | output {u : UnionType} {types : Types} {dir : String} {b : Break} :
      Reaches files directory i u types → i.task = .describe (some dir) →
      outputFault? files (Path.tidy dir) (Path.inside (Path.tidy dir) "union.json") = some b →
      Breaks files directory i b

/-! ## Generations of runs -/

theorem idle_of_unionAt {c : Config} {uri pointer : String} {name : Option String} {id : TypeId}
    {s s' : Generation} (h : (unionAt c uri pointer name).run s = (.ok id, s')) (hs : s.Idle) :
    s'.Idle := by
  have hQ := outward_idle { config := c }
  obtain ⟨root, s₁, hroot, h⟩ := exists_of_run_bind h
  obtain ⟨f, s₂, hf, h⟩ := exists_of_run_bind h
  have hs₁ : s₁.Idle := carriesOver_onStore hQ (transparent_document uri) _ _ _ hroot hs
  have hs₂ : s₂.Idle := carriesOver_onStore hQ (transparent_fragment uri pointer) _ _ _ hf hs₁
  exact idle_of_generate h hs₂

/-- A union that is generated is there. -/
theorem exists_union_of_unionAt {c : Config} {uri pointer : String} {name : Option String}
    {id : TypeId} {s s' : Generation} (h : (unionAt c uri pointer name).run s = (.ok id, s'))
    (hs : s.unions = []) : ∃ u, s'.types.union? id = some u := by
  obtain ⟨root, s₁, hroot, h⟩ := exists_of_run_bind h
  obtain ⟨f, s₂, hf, h⟩ := exists_of_run_bind h
  have hs₂ : s₂.unions = [] := by
    rw [Generating.run_onStore] at hroot hf
    obtain ⟨-, rfl⟩ := Prod.mk.inj hroot
    obtain ⟨-, rfl⟩ := Prod.mk.inj hf
    exact hs
  obtain ⟨-, -, hpost⟩ := upholds_generate (upkeep_view { config := c } s₂.store.view)
    ((name.filter (!·.isEmpty)).getD (defaultName uri root pointer)) f s₂ rfl
  rw [h] at hpost
  obtain ⟨target, -, hkept | ⟨-, u, hu, -⟩⟩ := hpost id rfl
  · rw [hs₂] at hkept
    cases hkept
  · exact ⟨u, hu⟩

/-- The models that a run has generated are complete. -/
theorem Reaches.isComplete (h : Reaches files directory i u types) (id : TypeId) :
    types.isComplete id = true := by
  obtain ⟨c, root, _, gen, -, hgen, -, rfl⟩ := h
  have hstart (uri : String) : (freshState files uri root).Idle :=
    ⟨rfl, nofun, fun hm => nomatch hm⟩
  exact Types.Resolved.isComplete (idle_of_unionAt hgen (hstart _)).resolved id

/-- No item breaks a batch off. -/
theorem Reaches.not_breaksOff (h : Reaches files directory i u types) (item : Json)
    (typeName : String) : ¬BreaksOff types u item typeName := by
  rintro ⟨v, hv⟩
  unfold ownOutcome at hv
  split at hv
  · have hnone := undefined?_dispatch h.isComplete u
    unfold Dispatch.undefined? at hnone
    rename_i members
    have hmembers := hnone (Value.ofMembers members)
    rw [hv] at hmembers
    cases hmembers
  · cases hv

/-! ## Tasks -/

section Tasks

variable {s : Setting}

theorem readInput_of_ok {data : Json} (h : s.files.readJson path = .ok data) :
    readInput s path = .ok data := by
  unfold readInput
  rw [h]

theorem exists_readInput_of_error {f : JsonFileFault} (h : s.files.readJson path = .error f) :
    ∃ r, readInput s path = .error r ∧
      (f = .file .badPath → r.ending = .broken .badPath) ∧
      (f ≠ .file .badPath → r.ending = .exit 2) := by
  unfold readInput
  rw [h]
  by_cases hbad : f = .file .badPath
  · subst hbad
    exact ⟨_, rfl, fun _ => rfl, fun hne => absurd rfl hne⟩
  · split
    · rename_i he
      cases he
    · rename_i he
      cases he
      exact absurd rfl hbad
    · exact ⟨_, rfl, fun h => absurd h hbad, fun _ => rfl⟩

/-- A task that has no input stops there. -/
theorem ending_perform_of_error {f : JsonFileFault} (hinput : task.input? = some path)
    (h : s.files.readJson (Path.tidy path) = .error f) :
    (f = .file .badPath → (perform s task).ending = .broken .badPath) ∧
      (f ≠ .file .badPath → (perform s task).ending = .exit 2) := by
  obtain ⟨r, hr, hending⟩ := exists_readInput_of_error h
  have hperform : perform s task = r := by
    cases task with
    | describe outputDir => cases hinput
    | decode input =>
      cases hinput
      unfold perform
      dsimp only
      rw [hr]
    | check input =>
      cases hinput
      unfold perform
      dsimp only
      rw [hr]
  rw [hperform]
  exact hending

theorem perform_decode {data : Json} (h : s.files.readJson (Path.tidy path) = .ok data) :
    perform s (.decode path) = decode s data := by
  unfold perform
  dsimp only
  rw [readInput_of_ok h]

theorem perform_check {data : Json} (h : s.files.readJson (Path.tidy path) = .ok data) :
    perform s (.check path) = checkAll s data := by
  unfold perform
  dsimp only
  rw [readInput_of_ok h]

/-- The decoding of an object that comes to a verdict. -/
theorem ending_decode {members : List (String × Json)}
    (h : ∀ n, ¬BreaksOff s.types s.union (.obj members) n) :
    (decode s (.obj members)).ending =
      .exit (if ownVerdict s.types s.union (.obj members) = .matched then 0 else 1) := by
  have hok : (DecodeReport.ofItem s.types s.union (.obj members)).ok = true ↔
      ownVerdict s.types s.union (.obj members) = .matched := by
    rw [DecodeReport.ok, verdict_ofItem, beq_iff_eq]
  unfold decode
  dsimp only
  rw [reportOn_eq_ok_iff.2 ⟨h, rfl⟩]
  exact congrArg Ending.exit (if_congr hok rfl rfl)

/-- The decoding of items that all come to verdicts. -/
theorem ending_checkAll {items : List Json}
    (h : ∀ item ∈ items, ∀ n, ¬BreaksOff s.types s.union item n) :
    (checkAll s (.arr items)).ending =
      .exit (if (check s.types s.union items).ok then 0 else 1) := by
  unfold checkAll
  dsimp only
  rw [checkEach_eq_ok h]

/-- A task does what it promises, unless its input or output is in the way. -/
theorem ending_perform (hnone : ∀ item n, ¬BreaksOff s.types s.union item n)
    (h : Pledge s.files s.union s.types task code)
    (hpath : ∀ path, task.input? = some path →
      s.files.readJson (Path.tidy path) ≠ .error (.file .badPath))
    (houtput : ∀ dir b, task = .describe (some dir) →
      outputFault? s.files (Path.tidy dir) (Path.inside (Path.tidy dir) "union.json") ≠ some b) :
    (perform s task).ending = .exit code := by
  cases h with
  | described outputDir =>
    cases outputDir with
    | none => rfl
    | some dir =>
      have hfree := Option.eq_none_iff_forall_ne_some.2 fun b => houtput dir b rfl
      unfold perform describe
      dsimp only
      rw [hfree]
  | @unread _ path f hinput hread =>
    refine (ending_perform_of_error hinput hread).2 ?_
    rintro rfl
    exact hpath _ hinput hread
  | @noObject path data hread hkind =>
    rw [perform_decode hread]
    cases data with
    | obj members => exact absurd rfl (hkind members)
    | _ => rfl
  | @matched path members hread hmatched =>
    rw [perform_decode hread, ending_decode (hnone _), if_pos hmatched]
  | @unmatched path members hread hmatched =>
    rw [perform_decode hread, ending_decode (hnone _), if_neg hmatched]
  | @noArray path data hread hkind =>
    rw [perform_check hread]
    cases data with
    | arr items => exact absurd rfl (hkind items)
    | _ => rfl
  | @allMatched path items hread hall =>
    have hok : (check s.types s.union items).ok = true := (tallies_check ..).ok_iff.2 hall
    rw [perform_check hread, ending_checkAll fun item _ => hnone item, if_pos hok]
  | @someUnmatched path items item hread hitem hmatched =>
    have hok : ¬(check s.types s.union items).ok = true := fun hok =>
      hmatched ((tallies_check ..).ok_iff.1 hok item hitem)
    rw [perform_check hread, ending_checkAll fun item _ => hnone item, if_neg hok]

end Tasks

/-- A task has something to promise. -/
theorem exists_pledge (files : Files) (u : UnionType) (types : Types) (task : Task) :
    ∃ code, Pledge files u types task code := by
  cases task with
  | describe outputDir => exact ⟨0, .described outputDir⟩
  | decode path =>
    cases hread : files.readJson (Path.tidy path) with
    | error f => exact ⟨2, .unread rfl hread⟩
    | ok data =>
      by_cases hobj : ∃ members, data = .obj members
      · obtain ⟨members, rfl⟩ := hobj
        by_cases hmatched : ownVerdict types u (.obj members) = .matched
        · exact ⟨0, .matched hread hmatched⟩
        · exact ⟨1, .unmatched hread hmatched⟩
      · exact ⟨2, .noObject hread (not_exists.1 hobj)⟩
  | check path =>
    cases hread : files.readJson (Path.tidy path) with
    | error f => exact ⟨2, .unread rfl hread⟩
    | ok data =>
      by_cases harr : ∃ items, data = .arr items
      · obtain ⟨items, rfl⟩ := harr
        by_cases hall : ∀ item ∈ items, ownVerdict types u item = .matched
        · exact ⟨0, .allMatched hread hall⟩
        · simp only [not_forall] at hall
          obtain ⟨item, hitem, hmatched⟩ := hall
          exact ⟨1, .someUnmatched hread hitem hmatched⟩
      · exact ⟨2, .noArray hread (not_exists.1 harr)⟩

/-- It promises one thing only. -/
theorem Pledge.unique {code' : Nat} (h : Pledge files u types task code)
    (h' : Pledge files u types task code') : code = code' := by
  cases h <;> cases h' <;> grind [Task.input?]

/-! ## Runs -/

theorem Reaches.unique {u' : UnionType} {types' : Types} (h : Reaches files directory i u types)
    (h' : Reaches files directory i u' types') : u = u' ∧ types = types' := by
  obtain ⟨c, root, id, gen, ⟨hc, hroot⟩, hgen, hu, rfl⟩ := h
  obtain ⟨c', root', id', gen', ⟨hc', hroot'⟩, hgen', hu', rfl⟩ := h'
  cases hc.symm.trans hc'
  cases hroot.symm.trans hroot'
  cases hgen.symm.trans hgen'
  exact ⟨Option.some.inj (hu.symm.trans hu'), rfl⟩

/-- A text that holds JSON of another kind than an object. -/
theorem parse_of_ofText_eq_kind {text k : String} (h : Config.ofText text = .error (.kind k)) :
    ∃ j, Json.parseStored text = .ok j ∧ (∀ members, j ≠ .obj members) ∧ k = j.kind := by
  unfold Config.ofText at h
  split at h
  · cases h
  · split at h <;> cases h
  · rename_i j hkind hj
    cases h
    exact ⟨j, hj, hkind, rfl⟩

theorem ofText_eq_kind {text : String} {j : Json} (h : Json.parseStored text = .ok j)
    (hkind : ∀ members, j ≠ .obj members) : Config.ofText text = .error (.kind j.kind) := by
  unfold Config.ofText
  rw [h]
  cases j with
  | obj members => exact absurd rfl (hkind members)
  | _ => rfl

theorem readConfig_of_kind {text : String} {j : Json} (hconfig : i.config = some path)
    (hread : files.read (Path.tidy path) = .ok text) (hj : Json.parseStored text = .ok j)
    (hkind : ∀ members, j ≠ .obj members) :
    readConfig files (i.config.map Path.tidy) = .error (.break_ (.settings j.kind)) := by
  rw [hconfig]
  unfold readConfig
  dsimp only [Option.map_some]
  rw [hread]
  dsimp only
  rw [ofText_eq_kind hj hkind]

/-- Settings break a run off by being no object. -/
theorem breaks_of_readConfig (h : readConfig files (i.config.map Path.tidy) = .error (.break_ b)) :
    Breaks files directory i b := by
  cases hconfig : i.config with
  | none =>
    rw [hconfig] at h
    cases h
  | some path =>
    rw [hconfig] at h
    unfold readConfig at h
    dsimp only [Option.map_some] at h
    split at h
    · cases h
    · rename_i text hread
      split at h
      · cases h
      · cases h
      · cases h
      · rename_i k hk
        cases h
        obtain ⟨j, hj, hkind, rfl⟩ := parse_of_ofText_eq_kind hk
        exact .settings hconfig hread hj hkind

/-- The run up to the task, by what it reads. -/
theorem invoke_of_reads {c : Config} {root : Json} (h : Reads files directory i c root) :
    (invoke files directory i).ending =
      (invokeOn files (Path.resolve directory i.schema) root c i).ending := by
  unfold invoke
  dsimp only
  rw [h.1, h.2]

theorem generateFrom_of_ok {c : Config} {root : Json} {id : TypeId} {gen : Generation}
    (hgen : generation files directory i root c = (.ok id, gen))
    (hu : gen.types.union? id = some u) :
    generateFrom files (Path.toUri (Path.resolve directory i.schema)) root c i = (.ok u, gen) := by
  unfold generation freshState at hgen
  unfold generateFrom
  dsimp only at hgen ⊢
  rw [hgen]
  dsimp only
  rw [hu]

theorem generateFrom_of_error {c : Config} {root : Json} {e : Failure} {gen : Generation}
    (hgen : generation files directory i root c = (.error e, gen)) :
    generateFrom files (Path.toUri (Path.resolve directory i.schema)) root c i =
      (.error (obstacleOf e), gen) := by
  unfold generation freshState at hgen
  unfold generateFrom
  dsimp only at hgen ⊢
  rw [hgen]

theorem ending_of_generation_eq_ok {c : Config} {root : Json} {id : TypeId} {gen : Generation}
    (hreads : Reads files directory i c root)
    (hgen : generation files directory i root c = (.ok id, gen))
    (hu : gen.types.union? id = some u) : (invoke files directory i).ending =
      (perform ⟨files, u, gen.types, i.quiet, i.verbose⟩ i.task).ending := by
  rw [invoke_of_reads hreads]
  unfold invokeOn
  rw [generateFrom_of_ok hgen hu]

theorem ending_of_generation_eq_error {c : Config} {root : Json} {e : Failure} {gen : Generation}
    (hreads : Reads files directory i c root)
    (hgen : generation files directory i root c = (.error e, gen)) :
    (invoke files directory i).ending = (stopped (obstacleOf e)).ending := by
  rw [invoke_of_reads hreads]
  unfold invokeOn
  rw [generateFrom_of_error hgen]

/-- A run that gets as far as its task carries it out. -/
theorem Reaches.ending_invoke (h : Reaches files directory i u types) :
    (invoke files directory i).ending =
      (perform ⟨files, u, types, i.quiet, i.verbose⟩ i.task).ending := by
  obtain ⟨c, root, id, gen, hreads, hgen, hu, rfl⟩ := h
  exact ending_of_generation_eq_ok hreads hgen hu

theorem ending_of_readConfig_eq_error {o : Obstacle}
    (h : readConfig files (i.config.map Path.tidy) = .error o) :
    (invoke files directory i).ending = (stopped o).ending := by
  unfold invoke
  dsimp only
  rw [h]

/-- What breaks a run off does so. -/
theorem Breaks.ending_invoke (h : Breaks files directory i b) :
    (invoke files directory i).ending = .broken b := by
  cases h with
  | @settings path text j hconfig hread hj hkind =>
    rw [ending_of_readConfig_eq_error (readConfig_of_kind hconfig hread hj hkind)]
    rfl
  | @generation c root e gen hreads hgen hmessage =>
    rw [ending_of_generation_eq_error hreads hgen, obstacleOf, hmessage]
    rfl
  | @badPath u types path hreach hinput hread =>
    rw [hreach.ending_invoke]
    let s : Setting := ⟨files, u, types, i.quiet, i.verbose⟩
    exact (ending_perform_of_error (s := s) hinput hread).1 rfl
  | @output u types dir _ hreach htask hfault =>
    rw [hreach.ending_invoke, htask]
    unfold perform describe
    dsimp only
    rw [hfault]

/-- A run that does not get as far as its task ends with 2, unless it is broken off. -/
theorem ending_of_not_reaches (h : ∀ u types, ¬Reaches files directory i u types)
    (hbreaks : ∀ b, ¬Breaks files directory i b) :
    (invoke files directory i).ending = .exit 2 := by
  cases hc : readConfig files (i.config.map Path.tidy) with
  | error o =>
    rw [ending_of_readConfig_eq_error hc]
    cases o with
    | message m => rfl
    | break_ b => exact absurd (breaks_of_readConfig hc) (hbreaks b)
  | ok c =>
    cases hroot : files.readJson (Path.resolve directory i.schema) with
    | error f =>
      unfold invoke
      dsimp only
      rw [hc, hroot]
      rfl
    | ok root =>
      have hreads : Reads files directory i c root := ⟨hc, hroot⟩
      rcases hgen : generation files directory i root c with ⟨r, gen⟩
      cases r with
      | ok id =>
        obtain ⟨u, hu⟩ := exists_union_of_unionAt hgen rfl
        exact absurd ⟨c, root, id, gen, hreads, hgen, hu, rfl⟩ (h u gen.types)
      | error e =>
        rw [ending_of_generation_eq_error hreads hgen, obstacleOf]
        cases hm : failureMessage? e with
        | some m => rfl
        | none => exact absurd (.generation hreads hgen hm) (hbreaks (.generation e))

/-- A run that is not broken off keeps its promise. -/
theorem Promised.ending_invoke (h : Promised files directory i code)
    (hbreaks : ∀ b, ¬Breaks files directory i b) :
    (invoke files directory i).ending = .exit code := by
  cases h with
  | unprepared hnot => exact ending_of_not_reaches hnot hbreaks
  | @prepared u types _ hreach hpledge =>
    rw [hreach.ending_invoke]
    exact ending_perform hreach.not_breaksOff hpledge
      (fun path hinput hread => hbreaks .badPath (.badPath hreach hinput hread))
      (fun dir b htask hfault => hbreaks b (.output hreach htask hfault))

theorem exists_promised (files : Files) (directory : String) (i : Invocation) :
    ∃ code, Promised files directory i code := by
  by_cases h : ∃ u types, Reaches files directory i u types
  · obtain ⟨u, types, hreach⟩ := h
    obtain ⟨code, hpledge⟩ := exists_pledge files u types i.task
    exact ⟨code, .prepared hreach hpledge⟩
  · exact ⟨2, .unprepared fun u types hreach => h ⟨u, types, hreach⟩⟩

theorem Promised.unique {code' : Nat} (h : Promised files directory i code)
    (h' : Promised files directory i code') : code = code' := by
  cases h with
  | unprepared hnot =>
    cases h' with
    | unprepared _ => rfl
    | prepared hreach _ => exact absurd hreach (hnot _ _)
  | prepared hreach hpledge =>
    cases h' with
    | unprepared hnot => exact absurd hreach (hnot _ _)
    | prepared hreach' hpledge' =>
      obtain ⟨rfl, rfl⟩ := hreach.unique hreach'
      exact hpledge.unique hpledge'

/-- A schema of one kind of object. -/
def plainSchema : Json :=
  .obj [("oneOf", .arr [.obj [("type", .str "object"),
    ("properties", .obj [("a", .obj [("type", .str "string")])])]])]

/-- A directory with a schema and with settings that are an array. -/
def listedSettings : Files :=
  FileTree.find ⟨["home"],
    [(["home", "s.json"], plainSchema.compact), (["home", "c.json"], "[]")]⟩

/-- The description of the union of this schema with these settings. -/
def listedRun : Invocation where
  schema := "s.json"
  pointer := ""
  name := none
  config := some "c.json"
  quiet := false
  verbose := false
  task := .describe none

end ShapeSum.CommandLine
