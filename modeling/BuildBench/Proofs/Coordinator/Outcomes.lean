import BuildBench.Proofs.Coordinator.Unrun
import BuildBench.Proofs.Run.Directory
import BuildBench.Proofs.Run.Launches
import BuildBench.Proofs.Run.Reservation
import BuildBench.Proofs.Text.Order

set_option autoImplicit false

/-! The outcomes of an entry. Main statement: when the suites can be listed, the handling of an entry
ends with one outcome for each topology that each suite names, in order, whatever becomes of any
run. -/

namespace BuildBench.Definition

open BuildBench.Files

/-- The definition files of a directory: its entries with the names of such files, in the order of
their names, that are files. -/
structure Listing (tree : Tree) (directory : String) (entries names : List String) : Prop where
  listed : tree.listDirectory directory = .ok entries
  chosen : names.Perm (entries.filter fun name =>
    hasDefinitionName name && tree.isFile (joinPath directory name))
  ordered : names.Pairwise (· ≤ ·)

theorem listing_of_definitionFiles {tree : Tree} {directory : String} {files : List String}
    (listed : definitionFiles tree directory = .ok files) :
    ∃ entries names, Listing tree directory entries names ∧
      files = names.map (joinPath directory) := by
  unfold definitionFiles at listed
  cases entered : tree.listDirectory directory with
  | error cause =>
      rw [entered] at listed
      cases listed
  | ok entries =>
      rw [entered] at listed
      let named := entries.filter hasDefinitionName
      let ordered := named.mergeSort fun left right => decide (left ≤ right)
      have same := (List.mergeSort_perm named fun left right => decide (left ≤ right)).filter
        fun name => tree.isFile (joinPath directory name)
      rw [List.filter_filter] at same
      refine ⟨entries, ordered.filter fun name => tree.isFile (joinPath directory name), ?_, ?_⟩
      · refine ⟨entered, ?_, (Text.pairwise_inOrder named).filter _⟩
        simpa only [Bool.and_comm] using same
      · rw [← Except.ok.inj listed, List.filter_map]
        rfl

theorem Catalog.name_of_get? {catalog : Catalog} {name : String} {topology : Topology}
    (found : catalog.get? name = some topology) : topology.name = name := by
  have same : (topology.name == name) = true := by
    have held := List.find?_some found
    exact held
  exact eq_of_beq same

end BuildBench.Definition

namespace BuildBench.Coordinator

open BuildBench.Definition BuildBench.Entry BuildBench.Run

variable {σ τ : Type} {setup : Setup σ τ}

/-! ### Single runs -/

/-- The outcome of the run of a suite on a topology of that name. Only a topology that the catalog
lacks is unknown. -/
structure Answers (catalog : Catalog) (suite : Suite) (name : String) (outcome : Outcome) :
    Prop where
  suite : outcome.suite = suite.name
  topology : outcome.topology = name
  unknown : ∀ missing, outcome.result = .error (.unknownTopology missing) ↔
    missing = name ∧ catalog.get? name = none

theorem slotAt_answers (collaborators : Collaborators σ τ) (settings : Settings) (build : Build)
    (suite : Suite) (catalog : Catalog) (position : Nat) (name : String) (bench : Bench σ τ) :
    Answers catalog suite name
      ((slotAt catalog position name).perform collaborators settings build suite bench).1 := by
  unfold slotAt
  cases found : catalog.get? name with
  | none =>
      refine ⟨rfl, rfl, fun missing => ?_⟩
      change (Except.error (Run.Error.unknownTopology name) : Except Run.Error Report) = _ ↔ _
      rw [Except.error.injEq, Run.Error.unknownTopology.injEq, found]
      exact ⟨fun same => ⟨same.symm, rfl⟩, fun same => same.1.symm⟩
  | some topology =>
      let job : Job := { build, suite, topology }
      let slices := (plan topology suite.client position).slices
      have known := (Pass.perform_reserves collaborators settings job slices
        (Slot.retryDeferred collaborators.host bench).2).2
      obtain ⟨owned, named⟩ := Pass.perform_names collaborators settings job slices
        (Slot.retryDeferred collaborators.host bench).2
      refine ⟨owned, named.trans (Catalog.name_of_get? found), fun missing => ?_⟩
      rw [found]
      exact iff_of_false (known missing) fun same => by cases same.2

theorem slotAt_unknown (collaborators : Collaborators σ τ) (settings : Settings) (build : Build)
    (suite : Suite) {catalog : Catalog} {name : String} (missing : catalog.get? name = none)
    (position : Nat) (bench : Bench σ τ) :
    let after := ((slotAt catalog position name).perform collaborators settings build suite bench).2
    after.calls = bench.calls ∧ after.files = bench.files ∧ after.sink = bench.sink ∧
      after.ledger = bench.ledger := by
  unfold slotAt
  rw [missing]
  have reported := Action.report_makes .topologyUnknown bench
  exact ⟨reported.calls.trans (List.append_nil _), rfl, rfl, rfl⟩

/-! ### What was made -/

/-- From one bench to another the runs of a suite were made, one for each topology that is named. -/
inductive Setup.RunsMade (setup : Setup σ τ) (build : Build) (suite : Suite) :
    List String → Bench σ τ → List Outcome → Bench σ τ → Prop
  | nil (bench : Bench σ τ) : RunsMade setup build suite [] bench [] bench
  | cons {name : String} {rest : List String} {before last : Bench σ τ} {outcomes : List Outcome}
      (position : Nat)
      (later : RunsMade setup build suite rest
        ((slotAt setup.catalog position name).perform setup.collaborators setup.settings build suite
          before).2 outcomes last) :
      RunsMade setup build suite (name :: rest) before
        (((slotAt setup.catalog position name).perform setup.collaborators setup.settings build
          suite before).1 :: outcomes) last

/-- From one bench to another each file was loaded when its turn came, and the runs of each suite
were made before the next file was loaded. -/
inductive Setup.FilesMade (setup : Setup σ τ) (build : Build) :
    List (String × Except Definition.Error Suite) → Bench σ τ → List Outcome → Bench σ τ → Prop
  | nil (bench : Bench σ τ) : FilesMade setup build [] bench [] bench
  | passedOver {path : String} {error : Definition.Error}
      {rest : List (String × Except Definition.Error Suite)} {before last : Bench σ τ}
      {outcomes : List Outcome} (failed : (setup.loadSuite path before).1 = .error error)
      (later : FilesMade setup build rest
        (Action.report .suiteSkipped (setup.loadSuite path before).2).2 outcomes last) :
      FilesMade setup build ((path, .error error) :: rest) before outcomes last
  | suite {path : String} {suite : Suite} {rest : List (String × Except Definition.Error Suite)}
      {before middle last : Bench σ τ} {made outcomes : List Outcome}
      (loaded : (setup.loadSuite path before).1 = .ok suite)
      (runs : setup.RunsMade build suite suite.topologies (setup.loadSuite path before).2 made
        middle)
      (later : FilesMade setup build rest middle outcomes last) :
      FilesMade setup build ((path, .ok suite) :: rest) before (made ++ outcomes) last

/-- The runs that a file asks for, if it defines a suite. -/
def wanted : String × Except Definition.Error Suite → List (Suite × String)
  | (_, .ok suite) => suite.topologies.map (suite, ·)
  | (_, .error _) => []

def AnswerAll (catalog : Catalog) : List (Suite × String) → List Outcome → Prop :=
  List.Forall₂ fun run outcome => Answers catalog run.1 run.2 outcome

theorem Setup.RunsMade.answers {build : Build} {suite : Suite} {names : List String}
    {before last : Bench σ τ} {outcomes : List Outcome}
    (made : setup.RunsMade build suite names before outcomes last) :
    AnswerAll setup.catalog (names.map (suite, ·)) outcomes := by
  induction made with
  | nil bench => exact .nil
  | cons position later ih => exact .cons (slotAt_answers _ _ _ _ _ position _ _) ih

theorem Setup.FilesMade.answers {build : Build}
    {loads : List (String × Except Definition.Error Suite)} {before last : Bench σ τ}
    {outcomes : List Outcome} (made : setup.FilesMade build loads before outcomes last) :
    AnswerAll setup.catalog (loads.flatMap wanted) outcomes := by
  induction made with
  | nil bench => exact .nil
  | passedOver failed later ih => exact ih
  | suite loaded runs later ih => exact List.rel_append runs.answers ih

theorem performAll_made (build : Build) (suite : Suite) (position : Nat) (names : List String)
    (before : Bench σ τ) :
    setup.RunsMade build suite names before
      (Slot.performAll setup.collaborators setup.settings build suite
        (slotsFrom setup.catalog suite.client position names) before).1
      (Slot.performAll setup.collaborators setup.settings build suite
        (slotsFrom setup.catalog suite.client position names) before).2 := by
  induction names generalizing position before with
  | nil => exact .nil before
  | cons name rest ih =>
      rw [slotsFrom_cons]
      exact .cons position (ih _ _)

theorem runFiles_made (build : Build) (files : List String) (before : Bench σ τ) :
    ∃ loads, loads.map Prod.fst = files ∧
      setup.FilesMade build loads before (setup.runFiles build files before).1
        (setup.runFiles build files before).2 := by
  induction files generalizing before with
  | nil => exact ⟨[], rfl, .nil before⟩
  | cons path rest ih =>
      obtain ⟨loads, same, later⟩ := ih (setup.runFile build path before).2
      have whole : setup.runFiles build (path :: rest) before =
          ((setup.runFile build path before).1 ++
            (setup.runFiles build rest (setup.runFile build path before).2).1,
            (setup.runFiles build rest (setup.runFile build path before).2).2) := rfl
      rw [whole]
      unfold Setup.runFile at later ⊢
      rw [Action.bind_apply] at later ⊢
      cases loaded : (setup.loadSuite path before).1 with
      | error error =>
          simp only [loaded] at later ⊢
          exact ⟨(path, .error error) :: loads, congrArg (path :: ·) same, .passedOver loaded later⟩
      | ok suite =>
          simp only [loaded] at later ⊢
          exact ⟨(path, .ok suite) :: loads, congrArg (path :: ·) same,
            .suite loaded (performAll_made build suite 0 suite.topologies _) later⟩

/-! ### Suites that nobody touches -/

theorem inspect_ok {ε α : Type} {host : Host σ} {request : FileRequest}
    {refusal : Files.IoError → ε} {reading : Files.Tree → Except ε α} {bench : Bench σ τ} {value : α}
    (read : (Action.inspect host request refusal reading bench).1 = .ok value) :
    reading bench.files = .ok value := by
  unfold Action.inspect at read
  rw [Action.bind_apply] at read
  cases refused : (Action.onHost (host.refuse request) bench).1 with
  | some cause =>
      rw [refused] at read
      cases read
  | none =>
      rw [refused] at read
      exact read

theorem inspect_admitted {ε α : Type} {host : Host σ} {request : FileRequest}
    {refusal : Files.IoError → ε} {reading : Files.Tree → Except ε α} {bench : Bench σ τ}
    (admitted : (host.refuse request bench.host).1 = none) :
    (Action.inspect host request refusal reading bench).1 = reading bench.files := by
  have answered : (Action.onHost (host.refuse request) bench).1 = none := admitted
  unfold Action.inspect
  rw [Action.bind_apply, answered]
  rfl

theorem retryAll_keepsFiles (host : Host σ) (stops : List Cpu.PendingStop) :
    Action.KeepsFiles (Action.retryAll host stops : Action σ τ Unit) := by
  induction stops with
  | nil => exact .pure ()
  | cons stop rest ih =>
      have retried : Action.KeepsFiles (Action.retryStop host stop : Action σ τ Unit) := by
        refine (Action.KeepsFiles.stop host stop.handle).bind fun answer => ?_
        cases answer with
        | ok value => exact fun _ => rfl
        | error error => exact fun _ => rfl
      exact retried.bind fun _ => ih

theorem retryDeferred_keepsFiles (host : Host σ) :
    Action.KeepsFiles (Slot.retryDeferred host : Action σ τ Unit) := by
  intro bench
  unfold Slot.retryDeferred
  rw [Action.bind_apply, Action.get_apply]
  cases bench.ledger.awaitsStops with
  | true =>
      exact retryAll_keepsFiles host bench.ledger.deferred
        { bench with ledger := bench.ledger.withoutDeferred }
  | false => rfl

theorem slot_files (tidy : setup.host.Tidy) (build : Build) (suite : Suite) (slot : Slot)
    {bench : Bench σ τ} (rooted : bench.files.Rooted) :
    (slot.perform setup.collaborators setup.settings build suite bench).2.files = bench.files := by
  cases slot with
  | unknown name => rfl
  | planned topology position =>
      have kept := retryDeferred_keepsFiles setup.host bench
      have restored := Pass.perform_files setup.collaborators tidy setup.settings
        { build, suite, topology } (plan topology suite.client position).slices
        (kept.symm ▸ rooted : (Slot.retryDeferred setup.host bench).2.files.Rooted)
      exact restored.trans kept

theorem Setup.RunsMade.files {build : Build} {suite : Suite} {names : List String}
    {before last : Bench σ τ} {outcomes : List Outcome} (tidy : setup.host.Tidy)
    (made : setup.RunsMade build suite names before outcomes last) (rooted : before.files.Rooted) :
    last.files = before.files := by
  induction made with
  | nil bench => rfl
  | @cons name rest before last outcomes position later ih =>
      have kept := slot_files tidy build suite (slotAt setup.catalog position name) rooted
      exact (ih (kept.symm ▸ rooted)).trans kept

theorem loadSuite_files (setup : Setup σ τ) (path : String) (bench : Bench σ τ) :
    (setup.loadSuite path bench).2.files = bench.files := by
  unfold Setup.loadSuite
  exact Action.KeepsFiles.inspect setup.host _ _ _ bench

/-- When every run leaves the files as it found them, what is loaded is what was there from the
beginning. -/
theorem Setup.FilesMade.undisturbed {build : Build}
    {loads : List (String × Except Definition.Error Suite)} {before last : Bench σ τ}
    {outcomes : List Outcome} (tidy : setup.host.Tidy)
    (made : setup.FilesMade build loads before outcomes last) (rooted : before.files.Rooted)
    (admitted : ∀ load ∈ loads, ∀ state, (setup.host.refuse (.read load.1) state).1 = none) :
    ∀ load ∈ loads, load.2 = Suite.load before.files load.1 := by
  have reads (path : String) (bench : Bench σ τ)
      (open_ : ∀ state, (setup.host.refuse (.read path) state).1 = none) :
      (setup.loadSuite path bench).1 = Suite.load bench.files path :=
    inspect_admitted (open_ bench.host)
  induction made with
  | nil bench =>
      intro load member
      cases member
  | @passedOver path error rest before last outcomes failed later ih =>
      have kept : (Action.report .suiteSkipped (setup.loadSuite path before).2).2.files =
          before.files := loadSuite_files setup path before
      have others := ih (kept.symm ▸ rooted) fun load member =>
        admitted load (List.mem_cons_of_mem _ member)
      rw [kept] at others
      intro load member
      rcases List.mem_cons.mp member with rfl | later
      · exact failed.symm.trans (reads path before (admitted _ List.mem_cons_self))
      · exact others load later
  | @suite path suite rest before middle last made outcomes loaded runs later ih =>
      have opened := loadSuite_files setup path before
      have kept : middle.files = before.files :=
        (runs.files tidy (opened.symm ▸ rooted)).trans opened
      have others := ih (kept.symm ▸ rooted) fun load member =>
        admitted load (List.mem_cons_of_mem _ member)
      rw [kept] at others
      intro load member
      rcases List.mem_cons.mp member with rfl | later
      · exact loaded.symm.trans (reads path before (admitted _ List.mem_cons_self))
      · exact others load later

/-! ### When others meddle -/

/-- These files were listed at some time, and some of them were loaded at some time each. -/
structure Setup.Loads (setup : Setup σ τ) (loads : List (String × Except Definition.Error Suite))
    (rest : List String) : Prop where
  listed : ∃ bench, (setup.suiteFiles bench).1 = .ok (loads.map Prod.fst ++ rest)
  loaded : ∀ load ∈ loads, ∃ bench, (setup.loadSuite load.1 bench).1 = load.2

theorem Setup.Loads.next {loads : List (String × Except Definition.Error Suite)} {path : String}
    {rest : List String} (before : setup.Loads loads (path :: rest)) (bench : Bench σ τ) :
    setup.Loads (loads ++ [(path, (setup.loadSuite path bench).1)]) rest where
  listed := by
    obtain ⟨first, listed⟩ := before.listed
    refine ⟨first, ?_⟩
    rw [listed, List.map_append, List.append_assoc]
    rfl
  loaded := by
    intro load member
    rcases List.mem_append.mp member with earlier | own
    · exact before.loaded load earlier
    · rw [List.mem_singleton.mp own]
      exact ⟨bench, rfl⟩

/-- The report on a build has an outcome for each run that the suites ask for. -/
def Setup.Tells (setup : Setup σ τ) (build : Build) (iteration : Iteration) : Prop :=
  ∃ loads outcomes, setup.Loads loads [] ∧
    AnswerAll setup.catalog (loads.flatMap wanted) outcomes ∧
    iteration = .processed { id := build.id, gitHash := build.gitHash, outcomes }

def Worker.Foretells (setup : Setup σ τ) (delivery : Delivery) (build : Build)
    (worker : Worker σ τ) : Prop :=
  match worker.stage with
  | .received received =>
      received = delivery ∧ worker.state.finished.contains delivery.id = false
  | .described described => described = build
  | .amidFiles described rest outcomes =>
      described = build ∧ ∃ loads, setup.Loads loads rest ∧
        AnswerAll setup.catalog (loads.flatMap wanted) outcomes
  | .amidSlots described suite slots rest outcomes =>
      described = build ∧ ∃ loads path made names position,
        setup.Loads (loads ++ [(path, .ok suite)]) rest ∧ suite.topologies = made ++ names ∧
        slots = slotsFrom setup.catalog suite.client position names ∧
        AnswerAll setup.catalog (loads.flatMap wanted ++ made.map (suite, ·)) outcomes
  | .closing _ iteration | .ended (.ok iteration) => setup.Tells build iteration
  | .ended (.error error) =>
      ∃ cause, error = .suites setup.settings.suitesDirectory cause
  | _ => False

theorem step_foretells {delivery : Delivery} {fields : Fields} {build : Build}
    (body : delivery.body = .fields fields) (decoded : Build.decode delivery.id fields = .ok build)
    {worker : Worker σ τ} (foretells : worker.Foretells setup delivery build) :
    (setup.next worker).Foretells setup delivery build := by
  obtain ⟨stage, state⟩ := worker
  unfold Worker.Foretells Setup.next
  dsimp only
  cases stage with
  | received received =>
      obtain ⟨rfl, unknown⟩ := foretells
      have met : (setup.step (.received received) state).1.2 = .described build := by
        change (Setup.meet received state).1.2 = _
        unfold Setup.meet
        rw [Work.bind_apply, Work.get_apply]
        simp only [unknown, body, decoded]
        rfl
      rw [met]
  | described described =>
      obtain rfl := foretells
      have surveyed : setup.step (.described described) state = setup.survey described state := rfl
      rw [surveyed]
      rcases survey_cases setup state described with ⟨error, same⟩ | ⟨files, listed, same⟩
      · rw [same]
        exact ⟨error, rfl⟩
      · rw [same]
        exact ⟨rfl, [], ⟨⟨state.bench, listed⟩, fun load member => by cases member⟩, .nil⟩
  | amidFiles described files outcomes =>
      obtain ⟨rfl, loads, loaded, answers⟩ := foretells
      cases files with
      | nil => exact ⟨loads, outcomes, loaded, answers, rfl⟩
      | cons path rest =>
          have next := loaded.next state.bench
          have turned : setup.step (.amidFiles described (path :: rest) outcomes) state =
            setup.turnTo described path rest outcomes state := rfl
          rw [turned]
          rcases turnTo_cases setup state described path rest outcomes with
            ⟨error, failed, same⟩ | ⟨suite, opened, same⟩
          · rw [same]
            rw [failed] at next
            refine ⟨rfl, _, next, ?_⟩
            rw [List.flatMap_append]
            exact (List.append_nil _).symm ▸ answers
          · rw [same]
            rw [opened] at next
            refine ⟨rfl, loads, path, [], suite.topologies, 0, next, rfl, rfl, ?_⟩
            exact (List.append_nil _).symm ▸ answers
  | amidSlots described suite slots files outcomes =>
      obtain ⟨rfl, loads, path, made, names, position, loaded, topologies, rfl, answers⟩ :=
        foretells
      cases names with
      | nil =>
          refine ⟨rfl, _, loaded, ?_⟩
          rw [List.append_nil] at topologies
          rw [List.flatMap_append, List.flatMap_singleton, wanted, topologies]
          exact answers
      | cons name rest =>
          rw [slotsFrom_cons]
          refine ⟨rfl, loads, path, made ++ [name], rest, _, loaded, ?_, rfl, ?_⟩
          · rw [topologies, List.append_assoc]
            rfl
          · rw [List.map_append, ← List.append_assoc]
            exact List.rel_append answers (.cons (slotAt_answers _ _ _ _ _ position _ _) .nil)
  | closing id iteration => exact foretells
  | ended result => exact foretells
  | _ => exact foretells.elim

theorem path_foretells {delivery : Delivery} {fields : Fields} {build : Build} {state : State σ τ}
    {last : Worker σ τ} (unknown : state.finished.contains delivery.id = false)
    (body : delivery.body = .fields fields) (decoded : Build.decode delivery.id fields = .ok build)
    (path : setup.Path ⟨.received delivery, state⟩ last) : last.Foretells setup delivery build := by
  induction path with
  | refl => exact ⟨rfl, unknown⟩
  | step path ih => exact step_foretells body decoded ih
  | meddle path host sink files ih => exact ih

/-! ### Main result -/

/-- An entry that is not known yet and describes a build, at a coordinator that can list its suites.
The files that are listed are those with the names of definitions, in the order of their names. The
handling ends with a report. For each file in turn, and for each topology that a suite in it names,
there is one outcome, with the names of the two; it says that the topology is unknown exactly if the
catalog lacks it, and then no one was called. As long as every file reads as it did at the beginning,
and so if runs only touch what they made, the outcomes are those that the files at the beginning ask
for. And whatever others do between any two steps, the handling ends without a report only if the
suites could not be listed then. -/
theorem outcomes_answer (setup : Setup σ τ) {delivery : Delivery} {fields : Fields} {build : Build}
    {files : List String} (state : State σ τ)
    (unknown : state.finished.contains delivery.id = false) (body : delivery.body = .fields fields)
    (decoded : Build.decode delivery.id fields = .ok build)
    (listed : (setup.suiteFiles state.bench).1 = .ok files) :
    (∃ entries names,
      Listing state.bench.files setup.settings.suitesDirectory entries names ∧
      files = names.map (Files.joinPath setup.settings.suitesDirectory)) ∧
    (∃ loads outcomes last, loads.map Prod.fst = files ∧
      (setup.treat delivery state).1 =
        .ok (.processed { id := delivery.id, gitHash := build.gitHash, outcomes }) ∧
      setup.FilesMade build loads (setup.suiteFiles state.bench).2 outcomes last ∧
      AnswerAll setup.catalog (loads.flatMap wanted) outcomes ∧
      ((∀ load ∈ loads, load.2 = Suite.load state.bench.files load.1) →
        AnswerAll setup.catalog
          (files.flatMap fun path => wanted (path, Suite.load state.bench.files path)) outcomes) ∧
      (setup.host.Tidy → state.bench.files.Rooted →
        (∀ path ∈ files, ∀ host, (setup.host.refuse (.read path) host).1 = none) →
        ∀ load ∈ loads, load.2 = Suite.load state.bench.files load.1)) ∧
    (∀ (suite : Suite) name position (bench : Bench σ τ), setup.catalog.get? name = none →
      let after := ((slotAt setup.catalog position name).perform setup.collaborators setup.settings
        build suite bench).2
      after.calls = bench.calls ∧ after.files = bench.files ∧ after.sink = bench.sink ∧
        after.ledger = bench.ledger) ∧
    ∀ result last, setup.Path ⟨.received delivery, state⟩ ⟨.ended result, last⟩ →
      (∃ cause, result = .error (.suites setup.settings.suitesDirectory cause)) ∨
        ∃ iteration, result = .ok iteration ∧ setup.Tells build iteration := by
  refine ⟨listing_of_definitionFiles (inspect_ok listed), ?_, ?_, ?_⟩
  · obtain ⟨loads, same, made⟩ := runFiles_made build files (setup.suiteFiles state.bench).2
    have kept : (setup.suiteFiles state.bench).2.files = state.bench.files := by
      unfold Setup.suiteFiles
      exact Action.KeepsFiles.inspect setup.host _ _ _ state.bench
    refine ⟨loads, _, _, same, ?_, made, made.answers, ?_, ?_⟩
    · rw [treat_unknown unknown]
      unfold Setup.treatFresh
      simp only [body, decoded, benchmark_listed listed, decode_id decoded]
    · intro reads
      have asked : files.flatMap (fun path => wanted (path, Suite.load state.bench.files path)) =
          loads.flatMap wanted := by
        rw [← same, List.flatMap_map]
        refine List.flatMap_congr fun load member => ?_
        rw [← reads load member]
      rw [asked]
      exact made.answers
    · intro tidy rooted admitted
      rw [← kept] at rooted ⊢
      refine made.undisturbed tidy rooted fun load member => ?_
      exact admitted load.1 (same ▸ List.mem_map_of_mem member)
  · intro suite name position bench missing
    exact slotAt_unknown setup.collaborators setup.settings build suite missing position bench
  · intro result last path
    have foretells := path_foretells unknown body decoded path
    cases result with
    | error error =>
        obtain ⟨cause, rfl⟩ := foretells
        exact Or.inl ⟨cause, rfl⟩
    | ok iteration => exact Or.inr ⟨iteration, rfl, foretells⟩

/-! A rehearsal with one suite. -/

def suiteText : String :=
  "\x7bname: a, redis-topologies: [one, missing]\x7d"

def suiteTree : Files.Tree where
  entries :=
    [(["test-suites"], .directory),
      (["test-suites", "a.yml"], .file Files.Tree.plainMode (Text.Utf8.encodeString suiteText))]
  origin := []

def suiteOfText : Suite where
  name := "a"
  description := none
  topologies := ["one", "missing"]
  parameters := []
  client := .default
  source := "test-suites/a.yml"

theorem suiteTree_finds :
    suiteTree.find "test-suites" = .ok (["test-suites"], .directory) ∧
    suiteTree.find "test-suites/a.yml" = .ok (["test-suites", "a.yml"],
      .file Files.Tree.plainMode (Text.Utf8.encodeString suiteText)) := by
  have directory : Files.steps "test-suites" = ["test-suites"] := by decide
  have file : Files.steps "test-suites/a.yml" = ["test-suites", "a.yml"] := by decide
  have toDirectory : suiteTree.walk .target 40 [] ["test-suites"] = .ok ["test-suites"] := by cbv
  have toFile : suiteTree.walk .target 40 [] ["test-suites", "a.yml"] =
      .ok ["test-suites", "a.yml"] := by cbv
  constructor
  · have resolved : suiteTree.resolve "test-suites" .target = .ok ["test-suites"] := by
      unfold Files.Tree.resolve
      rw [directory]
      exact toDirectory
    rw [Files.Tree.find, resolved]
    rfl
  · have resolved : suiteTree.resolve "test-suites/a.yml" .target =
        .ok ["test-suites", "a.yml"] := by
      unfold Files.Tree.resolve
      rw [file]
      exact toFile
    rw [Files.Tree.find, resolved]
    rfl

theorem suiteTree_listed :
    definitionFiles suiteTree "test-suites" = .ok ["test-suites/a.yml"] := by
  have entries : suiteTree.listDirectory "test-suites" = .ok ["a.yml"] := by
    rw [Files.Tree.listDirectory, suiteTree_finds.1]
    rfl
  have file : suiteTree.isFile "test-suites/a.yml" = true := by
    rw [Files.Tree.isFile, suiteTree_finds.2]
  have named : hasDefinitionName "a.yml" = true := by decide
  have joined : Files.joinPath "test-suites" "a.yml" = "test-suites/a.yml" := by decide
  simp [definitionFiles, entries, named, joined, file]

theorem suiteTree_loaded : Suite.load suiteTree "test-suites/a.yml" = .ok suiteOfText := by
  have decoded : Text.Utf8.decodeString (Text.Utf8.encodeString suiteText) = .ok suiteText := by cbv
  have read : Suite.ofText "test-suites/a.yml" suiteText = .ok suiteOfText := by decide +kernel
  rw [Suite.load, Files.Tree.readText, Files.Tree.content, suiteTree_finds.2]
  simp only [decoded, read]

theorem suiteTree_rooted : suiteTree.Rooted := by
  unfold Files.Tree.Rooted
  decide

def Setup.withSuite (cpus : Nat) : Setup Rehearsal.Script Unit where
  collaborators := { host := Pass.litteringHost, sink := none }
  settings := .usual "/work" "bench" cpus
  catalog := Slot.rehearsedCatalog

def suiteDelivery : Delivery where
  id := ⟨1, 0⟩
  body := .fields (.ofList [("git_hash", [48]), ("build_image", [105])])

/-- In a rehearsal with one suite both of its topologies have their outcomes, although the catalog
lacks one of them. -/
theorem outcomes_answer_rehearsed :
    let state := (Setup.withSuite 8).start .start () suiteTree .undelivered
    ∃ outcomes, ((Setup.withSuite 8).treat suiteDelivery state).1 =
        .ok (.processed { id := ⟨1, 0⟩, gitHash := "0", outcomes }) ∧
      AnswerAll Slot.rehearsedCatalog [(suiteOfText, "one"), (suiteOfText, "missing")] outcomes := by
  intro state
  obtain ⟨-, ⟨loads, outcomes, last, same, ended, -, -, answers, undisturbed⟩, -⟩ :=
    outcomes_answer (Setup.withSuite 8) state rfl rfl
      (show Build.decode suiteDelivery.id _ = .ok _ by cbv) suiteTree_listed
  refine ⟨outcomes, ended, ?_⟩
  have asked := answers (undisturbed Pass.litteringHost_tidy suiteTree_rooted fun _ _ _ => rfl)
  rw [List.flatMap_singleton] at asked
  have loaded : Suite.load state.bench.files "test-suites/a.yml" = .ok suiteOfText :=
    suiteTree_loaded
  rw [loaded] at asked
  exact asked

end BuildBench.Coordinator
