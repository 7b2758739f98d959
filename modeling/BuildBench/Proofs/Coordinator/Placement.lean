import BuildBench.Proofs.Coordinator.Overlap
import BuildBench.Proofs.Coordinator.Redelivery
import BuildBench.Proofs.Entry.Decoding
import BuildBench.Proofs.Run.Placement

set_option autoImplicit false

/-! The artifacts of an entry. Main statement: in whatever run of an entry a database is launched,
it finds the artifacts that the entry declares, each with the bytes of the field of its name, and
nothing else; and an entry that lacks one of them launches nothing. -/

namespace BuildBench.Coordinator

open BuildBench.Definition BuildBench.Entry BuildBench.Run

variable {σ τ : Type} {setup : Setup σ τ}

/-! ### What an entry declares and delivers -/

/-- The names of the artifacts that the fields of an entry declare. -/
def declaredArtifacts (fields : Fields) : List String :=
  match Build.readText fields .buildArtifacts with
  | .ok declared => Build.chooseArtifacts declared
  | .error _ => []

/-- The bytes in the field of a name. What describes the build is no payload. -/
def payloadField? (fields : Fields) (name : String) : Option Bytes :=
  if name ∈ Metadata.names then none else fields.get? name

theorem decode_artifacts {id : Id} {fields : Fields} {build : Build}
    (decoded : Build.decode id fields = .ok build) :
    build.artifacts = declaredArtifacts fields ∧ build.payload? = payloadField? fields := by
  unfold Build.decode at decoded
  simp only [bind, Except.bind, pure, Except.pure] at decoded
  unfold declaredArtifacts
  repeat' split at decoded
  all_goals cases decoded
  rename_i declared
  rw [declared]
  refine ⟨rfl, ?_⟩
  funext name
  exact get?_without fields Metadata.names name

/-! ### Steps and runs -/

theorem step_adds {kind : Event → Prop} {worker : Worker σ τ}
    (requests : ∀ event, event.isRequest = true → kind event)
    (runs : ∀ build suite slot rest files outcomes,
      worker.stage = .amidSlots build suite (slot :: rest) files outcomes →
      worker.bench.Adds kind
        (slot.perform setup.collaborators setup.settings build suite worker.bench).2) :
    worker.bench.Adds kind (setup.next worker).bench := by
  obtain ⟨stage, state⟩ := worker
  rcases setup.step_bench state stage with
    ⟨build, suite, slot, rest, files, outcomes, due, ran⟩ | ⟨made, other, listed, calls, -⟩
  · have adds := runs build suite slot rest files outcomes due
    rw [Worker.bench] at adds
    rw [← ran] at adds
    exact adds
  · exact ⟨made, calls, fun event member => requests event (listed.requests other event member)⟩

/-- Steps of a worker, each of them on files that form a tree, while others may do what they can. -/
inductive Setup.RootedPath (setup : Setup σ τ) (first : Worker σ τ) : Worker σ τ → Prop
  | refl : RootedPath setup first first
  | step {worker : Worker σ τ} (path : RootedPath setup first worker)
      (rooted : worker.bench.files.Rooted) : RootedPath setup first (setup.next worker)
  | meddle {worker : Worker σ τ} (path : RootedPath setup first worker) (host : σ) (sink : τ)
      (files : Files.Tree) : RootedPath setup first (meddled worker host sink files)

theorem Setup.RootedPath.path {first last : Worker σ τ} (rooted : setup.RootedPath first last) :
    setup.Path first last := by
  induction rooted with
  | refl => exact .refl
  | step path rooted ih => exact ih.step
  | meddle path host sink files ih => exact ih.meddle host sink files

theorem Setup.RootedPath.stepTo {first worker after : Worker σ τ}
    (path : setup.RootedPath first worker) (rooted : worker.bench.files.Rooted)
    (reaches : setup.next worker = after) : setup.RootedPath first after :=
  reaches ▸ path.step rooted

section Entries

variable {delivery : Delivery} {fields : Fields} {state : State σ τ} {worker : Worker σ τ}

/-- The build at hand has the artifacts that its entry declares and delivers. -/
theorem path_artifacts (body : delivery.body = .fields fields) {build : Build} {suite : Suite}
    {slots : List Slot} {files : List String} {outcomes : List Outcome}
    (path : setup.Path ⟨.received delivery, state⟩ worker)
    (due : worker.stage = .amidSlots build suite slots files outcomes) :
    build.artifacts = declaredArtifacts fields ∧ build.payload? = payloadField? fields := by
  have stems := path_stems path
  rw [due] at stems
  obtain ⟨described, same, decoded⟩ := stems
  rw [body] at same
  cases same
  exact decode_artifacts decoded

theorem path_places (suffixes : ∀ host, '/' ∉ (setup.host.directorySuffix host).1.toList)
    (body : delivery.body = .fields fields)
    (path : setup.RootedPath ⟨.received delivery, state⟩ worker) :
    state.bench.Adds
      (Event.LaunchesWith (InPlace (declaredArtifacts fields) (payloadField? fields)
        setup.settings.layout.serverArtifact)) worker.bench := by
  induction path with
  | refl => exact .nothing rfl
  | step path rooted ih =>
      refine ih.trans (step_adds ?_ ?_)
      · intro event request
        cases event with
        | launchDatabase spec files answer => cases request
        | _ => trivial
      · intro build suite slot rest files outcomes due
        obtain ⟨declared, delivered⟩ := path_artifacts body path.path due
        rw [← declared, ← delivered]
        refine slot.perform_adds (fun handle answer => trivial) fun topology slices => ?_
        refine Pass.perform_places suffixes _ _ _ ?_
        rw [retryDeferred_keepsFiles]
        exact rooted
  | meddle path host sink files ih => exact ih

theorem path_undeliverable (body : delivery.body = .fields fields)
    (undeliverable : ¬Deliverable (declaredArtifacts fields) (payloadField? fields)
      setup.settings.layout.serverArtifact)
    (path : setup.Path ⟨.received delivery, state⟩ worker) :
    state.bench.Adds (fun event => event.isLaunch = false) worker.bench := by
  induction path with
  | refl => exact .nothing rfl
  | step path ih =>
      refine ih.trans (step_adds ?_ ?_)
      · intro event request
        cases event <;> first | rfl | cases request
      · intro build suite slot rest files outcomes due
        obtain ⟨declared, delivered⟩ := path_artifacts body path due
        rw [← declared, ← delivered] at undeliverable
        exact slot.perform_adds (fun handle answer => rfl) fun topology slices =>
          Pass.perform_undeliverable slices undeliverable
  | meddle path host sink files ih => exact ih

end Entries

/-! ### Undisturbed handlings -/

open Work

/-- Runs on a tidy host leave the files as they found them, and nothing else touches the files. -/
theorem next_files (tidy : setup.host.Tidy) {worker : Worker σ τ}
    (rooted : worker.bench.files.Rooted) :
    (setup.next worker).bench.files = worker.bench.files := by
  obtain ⟨stage, state⟩ := worker
  have acts {α : Type} {action : Action σ τ α} (keeps : action.KeepsFiles) :
      Keeps (fun state => state.bench.files) (Setup.act action) := fun state => keeps state.bench
  cases stage with
  | resting => exact claim_keeps acts setup state
  | claimed delivery =>
      cases delivery with
      | some delivery => rfl
      | none => rfl
  | answered answer =>
      cases answer with
      | error error => rfl
      | ok delivery => cases delivery <;> rfl
  | received delivery => exact meet_keeps acts delivery state
  | described build => exact survey_keeps acts setup build state
  | amidFiles build files outcomes =>
      cases files with
      | nil => rfl
      | cons path rest => exact turnTo_keeps acts setup build path rest outcomes state
  | amidSlots build suite slots files outcomes =>
      cases slots with
      | nil => rfl
      | cons slot rest => exact slot_files tidy build suite slot rooted
  | closing id iteration => exact acknowledge_keeps acts setup.host id state
  | repeating id => exact acknowledge_keeps acts setup.host id state
  | ended result => rfl

/-- When nobody disturbs the handling of an entry and its sandboxes are tidy, the files form a tree
at each step if they do in the beginning. -/
theorem rootedPath_treat (tidy : setup.host.Tidy) (delivery : Delivery) {state : State σ τ}
    (rooted : state.bench.files.Rooted) :
    setup.RootedPath ⟨.received delivery, state⟩
      ⟨.ended (setup.treat delivery state).1, (setup.treat delivery state).2⟩ := by
  -- The steps keep the files, and with them that they form a tree.
  let first : Worker σ τ := ⟨.received delivery, state⟩
  let holds (worker : Worker σ τ) : Prop :=
    setup.RootedPath first worker ∧ worker.bench.files = first.bench.files
  have kept (worker : Worker σ τ) (here : holds worker) : holds (setup.next worker) := by
    obtain ⟨path, same⟩ := here
    have still : worker.bench.files.Rooted := same.symm ▸ rooted
    exact ⟨path.step still, (next_files tidy still).trans same⟩
  have begun : holds ⟨.received delivery, state⟩ := ⟨.refl, rfl⟩
  exact (setup.kept_treat kept begun).1

/-! ### Main result -/

/-- Whenever a database is launched for an entry, the directory that it is given holds exactly the
artifacts that the entry declares, each an executable file with the bytes of the field of its name.
The server is among them, and the database is started from it. If a declared name is not that of one
file in a directory, or has no payload, or if the server is not declared, nothing is launched. -/
theorem artifacts_in_place (setup : Setup σ τ)
    (suffixes : ∀ host, '/' ∉ (setup.host.directorySuffix host).1.toList) :
    ∀ delivery fields state, delivery.body = .fields fields →
      (∀ worker, setup.RootedPath ⟨.received delivery, state⟩ worker →
        ∃ made, worker.bench.calls = state.bench.calls ++ made ∧
          ∀ spec files answer, .launchDatabase spec files answer ∈ made →
            InPlace (declaredArtifacts fields) (payloadField? fields)
              setup.settings.layout.serverArtifact spec files) ∧
      ((∃ name ∈ declaredArtifacts fields, ¬IsPlainName name ∨ payloadField? fields name = none) ∨
          setup.settings.layout.serverArtifact ∉ declaredArtifacts fields →
        ∀ worker, setup.Path ⟨.received delivery, state⟩ worker →
          ∃ made, worker.bench.calls = state.bench.calls ++ made ∧
            ∀ event ∈ made, event.isLaunch = false) ∧
      (setup.host.Tidy → state.bench.files.Rooted →
        setup.RootedPath ⟨.received delivery, state⟩
          ⟨.ended (setup.treat delivery state).1, (setup.treat delivery state).2⟩) := by
  intro delivery fields state body
  refine ⟨?_, ?_, fun tidy => rootedPath_treat tidy delivery⟩
  · intro worker path
    obtain ⟨made, calls, each⟩ := path_places suffixes body path
    exact ⟨made, calls, fun spec files answer launched => each _ launched⟩
  · intro lacks worker path
    refine path_undeliverable body ?_ path
    intro deliverable
    rcases lacks with ⟨name, declared, stray | unsent⟩ | undeclared
    · exact stray (deliverable.plain name declared)
    · obtain ⟨data, sent⟩ := deliverable.delivered name declared
      rw [unsent] at sent
      cases sent
    · exact undeclared deliverable.server

/-! A rehearsal with one artifact. -/

def servedFields : Fields :=
  .ofList [("git_hash", [48]), ("build_image", [105]), ("redis-server", [])]

def servedDelivery : Delivery where
  id := ⟨1, 0⟩
  body := .fields servedFields

def servedBuild : Build where
  id := ⟨1, 0⟩
  gitHash := "0"
  buildImage := "i"
  runImage := "i"
  artifacts := ["redis-server"]
  payloads := .ofList [("redis-server", [])]

theorem servedFields_decode : Build.decode servedDelivery.id servedFields = .ok servedBuild := by
  decide +kernel

/-- The ledger of a rehearsal while its first run goes on. -/
def servedLedger : Cpu.Ledger :=
  { Cpu.Ledger.ofPool 8 with live := [Cpu.sliceAt 0 1] }

def servedJob : Job :=
  { build := servedBuild, suite := suiteOfText, topology := Pass.rehearsedJob.topology }

theorem servedJob_isServed : Pass.IsServed servedJob :=
  ⟨rfl, rfl, _, rfl⟩

/-- The first run of an entry, on a host that follows some script and with a work directory. -/
theorem suiteTree_runs {delivery : Delivery} {fields : Fields} {build : Build}
    (body : delivery.body = .fields fields) (decoded : Build.decode delivery.id fields = .ok build)
    (script : Rehearsal.Script) (cursor : Cursor) :
    let setup := Setup.withSuite 8
    let state := setup.start .start () suiteTree cursor
    ∃ worker bench,
      setup.RootedPath ⟨.received delivery, state⟩ worker ∧
      worker.bench = (Pass.perform setup.collaborators setup.settings
        { servedJob with build }
        (.ok ⟨Cpu.sliceAt 0 1, none⟩) bench).2 ∧
      bench.host = script ∧ bench.files = Pass.workTree ∧ bench.calls = [] ∧
      bench.ledger = .ofPool 8 := by
  intro setup state
  have unknown : state.finished.contains delivery.id = false := rfl
  have listed : (setup.suiteFiles state.bench).1 = .ok ["test-suites/a.yml"] := suiteTree_listed
  have loaded : (setup.loadSuite "test-suites/a.yml" (setup.suiteFiles state.bench).2).1 =
      .ok suiteOfText := suiteTree_loaded
  have due : slots setup.catalog suiteOfText =
      [.planned Pass.rehearsedJob.topology 0, .unknown "missing"] := by decide
  have planned : (plan Pass.rehearsedJob.topology suiteOfText.client 0).slices =
      .ok ⟨Cpu.sliceAt 0 1, none⟩ := by decide
  let opened := (setup.loadSuite "test-suites/a.yml" (setup.suiteFiles state.bench).2).2
  let bench : Bench Rehearsal.Script Unit := { opened with host := script, files := Pass.workTree }
  have surveys := setup.suiteFiles_makes state.bench
  have opens := setup.loadSuite_makes "test-suites/a.yml" (setup.suiteFiles state.bench).2
  have calls : bench.calls = [] := by
    have calls := opens.calls
    rw [surveys.calls] at calls
    exact calls
  have ledger : bench.ledger = .ofPool 8 := opens.ledger.trans surveys.ledger
  have settled : bench.ledger.deferred = [] := by
    rw [ledger]
    rfl
  have begun : setup.RootedPath ⟨.received delivery, state⟩ _ :=
    Setup.RootedPath.refl.stepTo suiteTree_rooted (next_described unknown body decoded)
  have listing := begun.stepTo suiteTree_rooted (next_surveyed listed)
  have opening := listing.stepTo suiteTree_rooted (next_opened loaded)
  rw [due] at opening
  have ran := (opening.meddle script () Pass.workTree).step Pass.workTree_rooted
  refine ⟨_, bench, ran, ?_, rfl, rfl, calls, ledger⟩
  have performs := Slot.perform_settled setup.collaborators setup.settings build suiteOfText
    Pass.rehearsedJob.topology 0 settled
  rw [planned] at performs
  exact next_ran.trans (congrArg Prod.snd performs)

/-- That run launches a database if the build delivers its server. -/
theorem suiteTree_launches {delivery : Delivery} {fields : Fields} {build : Build}
    (body : delivery.body = .fields fields) (decoded : Build.decode delivery.id fields = .ok build)
    (served : Pass.IsServed { servedJob with build }) :
    let setup := Setup.withSuite 8
    ∃ worker spec answer,
      setup.RootedPath ⟨.received delivery, setup.start .start () suiteTree .undelivered⟩ worker ∧
      .launchDatabase spec Pass.stockedTree answer ∈ worker.bench.calls := by
  intro setup
  obtain ⟨worker, bench, path, ran, -, files, calls, ledger⟩ :=
    suiteTree_runs body decoded .start .undelivered
  have reserved : (Slices.mk (Cpu.sliceAt 0 1) none).inOrder.foldlM Cpu.Ledger.reserve
      bench.ledger = .ok servedLedger := by
    rw [ledger]
    rfl
  obtain ⟨made, spec, -, launches⟩ := Pass.workTree_launches rfl served reserved files
  have launched := (congrArg Bench.calls ran).trans launches
  rw [calls] at launched
  refine ⟨worker, spec, (Rehearsal.launchDatabase (bench.host, Pass.stockedTree)).1, path, ?_⟩
  rw [launched]
  exact List.mem_cons_self

theorem servedDelivery_runs (script : Rehearsal.Script) (cursor : Cursor) :
    let setup := Setup.withSuite 8
    let state := setup.start .start () suiteTree cursor
    ∃ worker bench,
      setup.RootedPath ⟨.received servedDelivery, state⟩ worker ∧
      worker.bench = (Pass.perform setup.collaborators setup.settings servedJob
        (.ok ⟨Cpu.sliceAt 0 1, none⟩) bench).2 ∧
      bench.host = script ∧ bench.files = Pass.workTree ∧ bench.calls = [] ∧
      bench.ledger = .ofPool 8 :=
  suiteTree_runs rfl servedFields_decode script cursor

theorem artifacts_in_place_rehearsed :
    let setup := Setup.withSuite 8
    let state := setup.start .start () suiteTree .undelivered
    (∃ worker spec files answer, setup.RootedPath ⟨.received servedDelivery, state⟩ worker ∧
      .launchDatabase spec files answer ∈ worker.bench.calls ∧
      InPlace ["redis-server"] (payloadField? servedFields) "redis-server" spec files) ∧
    (∀ worker, setup.Path ⟨.received suiteDelivery, state⟩ worker →
      ∀ event ∈ worker.bench.calls, event.isLaunch = false) ∧
    setup.RootedPath ⟨.received servedDelivery, state⟩
      ⟨.ended (setup.treat servedDelivery state).1, (setup.treat servedDelivery state).2⟩ := by
  intro setup state
  have tidy : setup.host.Tidy := Pass.litteringHost_tidy
  have served := artifacts_in_place setup tidy.suffix servedDelivery servedFields state rfl
  have unserved := artifacts_in_place setup tidy.suffix suiteDelivery _ state rfl
  refine ⟨?_, ?_, served.2.2 tidy suiteTree_rooted⟩
  · obtain ⟨worker, spec, answer, path, launched⟩ :=
      suiteTree_launches rfl servedFields_decode servedJob_isServed
    obtain ⟨made, added, inPlace⟩ := served.1 worker path
    refine ⟨worker, spec, Pass.stockedTree, answer, path, launched, ?_⟩
    rw [added] at launched
    exact inPlace spec Pass.stockedTree answer launched
  · intro worker path event member
    obtain ⟨made, calls, quiet⟩ :=
      unserved.2.1 (Or.inl ⟨"redis-server", List.mem_cons_self, Or.inr rfl⟩) worker path
    rw [calls] at member
    exact quiet event member

end BuildBench.Coordinator
