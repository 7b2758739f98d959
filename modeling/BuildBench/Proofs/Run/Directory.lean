import BuildBench.Proofs.Run.Files
import BuildBench.Proofs.Run.Lifecycle

set_option autoImplicit false

/-! The directory of a run. Main statement: wherever the steps of a pass stop, all files outside the
run's directory stay as they are, and in the end that directory is gone. -/

namespace BuildBench.Run

open BuildBench.Definition BuildBench.Entry BuildBench.Files

variable {σ τ : Type}

/-! ### The steps -/

/-- The files of a run are those from before it, but for the run's directory. -/
def Scene.Lodges (before : Tree) (scene : Scene σ τ) : Prop :=
  match scene.held.directory with
  | none => scene.bench.files = before
  | some path => ∃ place, Nest before path place scene.bench.files

/-- The run has not made a directory. -/
structure Scene.Unlodged (before : Tree) (scene : Scene σ τ) : Prop where
  directory : scene.held.directory = none
  files : scene.bench.files = before

/-- The run has made its directory. -/
structure Scene.Lodged (before : Tree) (path : String) (scene : Scene σ τ) : Prop where
  directory : scene.held.directory = some path
  nest : ∃ place, Nest before path place scene.bench.files

namespace Scene

variable {before : Tree} {path : String} {scene : Scene σ τ}

theorem Unlodged.lodges (unlodged : scene.Unlodged before) : scene.Lodges before := by
  rw [Lodges, unlodged.directory]
  exact unlodged.files

theorem Lodged.lodges (lodged : scene.Lodged before path) : scene.Lodges before := by
  rw [Lodges, lodged.directory]
  exact lodged.nest

theorem Unlodged.act {α : Type} {action : Action σ τ α} (unlodged : scene.Unlodged before)
    (keeps : action.KeepsFiles) :
    Scene.Unlodged before { scene with bench := (action scene.bench).2 } where
  directory := unlodged.directory
  files := by rw [keeps, unlodged.files]

theorem Lodged.act {α : Type} {action : Action σ τ α} (lodged : scene.Lodged before path)
    (keeps : action.KeepsNest before path) :
    Scene.Lodged before path { scene with bench := (action scene.bench).2 } where
  directory := lodged.directory
  nest := by
    obtain ⟨place, nest⟩ := lodged.nest
    exact ⟨place, keeps _ place nest⟩

end Scene

namespace Pass

section Steps

variable {before : Tree} {directory : String} {scene : Scene σ τ}

theorem reserveSlices_lodges (granted : Slices) (unlodged : scene.Unlodged before) :
    Step.Ends (reserveSlices granted) scene (fun _ => Scene.Unlodged before)
      fun _ => Scene.Unlodged before := by
  have reserved := unlodged.act (.reserve granted.database)
  refine Step.Ends.act_bind (Step.Ends.take_bind (fun _ _ => ?_) fun _ _ => reserved)
  have held : Scene.Unlodged before { scene with
      bench := (Action.reserve granted.database scene.bench).2
      held := { scene.held with databaseSlice := some granted.database } } :=
    ⟨reserved.directory, reserved.files⟩
  refine Step.Ends.hold_bind ?_
  cases granted.client with
  | none => exact Step.Ends.pure held
  | some slice =>
      have again := held.act (.reserve slice)
      refine Step.Ends.act_bind (Step.Ends.take_bind (fun _ _ => ?_) fun _ _ => again)
      exact Step.Ends.hold ⟨again.directory, again.files⟩

/-- The directory is made where nothing stood, or nothing is made. -/
theorem makeDirectory_nests {host : Host σ}
    (suffixes : ∀ state, '/' ∉ (host.directorySuffix state).1.toList) (rooted : before.Rooted)
    (pass : Pass) (unlodged : scene.Unlodged before) :
    Step.Ends (makeDirectory host pass) scene
      (fun directory after => Scene.Lodged before directory after ∧
        before.makeDirectory directory = .ok after.bench.files)
      fun _ => Scene.Unlodged before := by
  let suffix := (host.directorySuffix scene.bench.host).1
  let named : Bench σ τ := (Action.onHost host.directorySuffix scene.bench).2
  let path := joinPath pass.settings.workRoot (directoryMark ++ suffix)
  have plain : '/' ∉ (directoryMark ++ suffix).toList := by
    rw [String.toList_append, List.mem_append, not_or]
    exact ⟨by decide, suffixes _⟩
  have isName : IsName (directoryMark ++ suffix) := by
    apply isName_of_hyphen
    rw [String.toList_append, List.mem_append]
    exact Or.inl (by decide)
  obtain ⟨isOpen, names, steps⟩ :=
    steps_joinPath_plain pass.settings.workRoot isName.ne_empty plain
  have files : named.files = before := unlodged.files
  refine Step.Ends.act_bind (Step.Ends.act_bind ?_)
  change Step.Ends (Step.take .directory (Action.makeDirectory host path named).1 >>= _)
    { bench := (Action.makeDirectory host path named).2, held := scene.held } _ _
  -- Either the files are as before, or the directory was made and nothing stood in its place.
  rcases Action.change_files host (.makeDirectory path) (·.makeDirectory path) named with
    ⟨cause, answer, same, _⟩ | ⟨answer, made⟩
  · refine Step.Ends.take_bind ?_ ?_
    · intro value given
      cases answer.symm.trans given
    · intro error _given
      exact ⟨unlodged.directory, same.trans files⟩
  · rw [files] at made
    refine Step.Ends.take_bind ?_ ?_
    · intro value _given
      refine Step.Ends.hold_bind (Step.Ends.pure ⟨⟨rfl, ?_⟩, made⟩)
      exact Nest.make rooted isOpen ⟨names, _, steps, isName⟩ made
    · intro error given
      cases answer.symm.trans given

theorem makeDirectory_lodges {host : Host σ} (tidy : host.Tidy) (rooted : before.Rooted)
    (pass : Pass) (unlodged : scene.Unlodged before) :
    Step.Ends (makeDirectory host pass) scene (fun directory => Scene.Lodged before directory)
      fun _ => Scene.Lodges before :=
  (makeDirectory_nests tidy.suffix rooted pass unlodged).weaken (fun _ _ made => made.1)
    fun _ _ => Scene.Unlodged.lodges

theorem placeArtifacts_lodges (host : Host σ) (pass : Pass)
    (lodged : scene.Lodged before directory) :
    Step.Ends (placeArtifacts host pass directory) scene
      (fun _ => Scene.Lodged before directory) fun _ => Scene.Lodged before directory := by
  have placed := lodged.act
    (.putInPlace host pass.job.build pass.job.build.artifacts)
  refine Step.Ends.act_bind (Step.Ends.take_bind (fun _ _ => ?_) fun _ _ => placed)
  dsimp only
  split
  · exact Step.Ends.pure placed
  · exact Step.Ends.throw placed

theorem launchDatabase_lodges {host : Host σ} (tidy : host.Tidy) (pass : Pass) (slice : Cpu.Slice)
    (lodged : scene.Lodged before directory) :
    Step.Ends (launchDatabase host pass directory slice) scene
      (fun _ => Scene.Lodged before directory) fun _ => Scene.Lodged before directory := by
  have launched := lodged.act
    (.launchDatabase tidy (databaseSpec pass directory slice) rfl)
  refine Step.Ends.act_bind (Step.Ends.take_bind (fun handle _ => ?_) fun _ _ => launched)
  have noted : Scene.Lodged before directory
      { bench := (Action.launchDatabase host (databaseSpec pass directory slice) scene.bench).2
        held := { scene.held with database := some handle } } :=
    ⟨launched.directory, launched.nest⟩
  have asked := noted.act (.of_files
    (.awaitReady host pass.settings.layout.host pass.settings.layout.port))
  exact Step.Ends.hold_bind (Step.Ends.act_bind
    (Step.Ends.take (fun _ _ => asked) fun _ _ => asked))

theorem clientSpec_mount {pass : Pass} {tool : Tool} {slice : Option Cpu.Slice}
    {spec : Sandbox.Spec} (prepared : clientSpec pass tool directory slice = .ok spec) :
    spec.mount.host = directory := by
  unfold clientSpec at prepared
  dsimp only at prepared
  split at prepared
  · cases prepared
  · rw [← Except.ok.inj prepared]

theorem launchClient_lodges {host : Host σ} (tidy : host.Tidy) (pass : Pass) {spec : Sandbox.Spec}
    (mounted : spec.mount.host = directory) (lodged : scene.Lodged before directory) :
    Step.Ends (launchClient host pass spec) scene
      (fun _ => Scene.Lodged before directory) fun _ => Scene.Lodged before directory := by
  have launched := lodged.act (.launchClient tidy spec mounted)
  have noted : Scene.Lodged before directory
      { bench := (Action.launchClient host spec scene.bench).2
        held := { scene.held with client := some .completed } } :=
    ⟨launched.directory, launched.nest⟩
  refine Step.Ends.act_bind (Step.Ends.hold_bind
    (Step.Ends.take_bind (fun output _ => ?_) fun _ _ => noted))
  dsimp only
  split
  · have reported := noted.act (.of_files (.report .shortBenchmark))
    exact Step.Ends.act_bind (Step.Ends.act_bind
      (Step.Ends.pure (reported.act (.of_files (.shutdown host _ _)))))
  · exact Step.Ends.act_bind (Step.Ends.pure (noted.act (.of_files (.shutdown host _ _))))

theorem collectResults_lodges (host : Host σ) (pass : Pass) (tool : Tool) (stdout : String)
    (lodged : scene.Lodged before directory) :
    Step.Ends (collectResults host tool (joinPath directory pass.outputFile) stdout) scene
      (fun _ => Scene.Lodged before directory) fun _ => Scene.Lodged before directory := by
  have isName : IsName (firstName pass.outputFile) := isName_resultsName _ _ _ _
  have stored := lodged.act (.storeResults host isName tool stdout)
  refine Step.Ends.act_bind (Step.Ends.take_bind (fun _ _ => ?_) fun _ _ => stored)
  let path := joinPath directory pass.outputFile
  have read := stored.act (.of_files (.inspect host (.read path) id (·.content path)))
  exact Step.Ends.act_bind (Step.Ends.take (fun _ _ => read) fun _ _ => read)

end Steps

/-- Wherever the steps of a pass stop, only the run's directory differs from the files before. -/
theorem carryOut_lodges {host : Host σ} (tidy : host.Tidy) (pass : Pass)
    (slices : Except Cpu.Error Slices) (bench : Bench σ τ) (rooted : bench.files.Rooted) :
    Scene.Lodges bench.files (carryOut host pass slices { bench, held := .nothing }).2 := by
  apply Step.Ends.last
  have untouched : Scene.Unlodged bench.files { bench, held := Held.nothing } := ⟨rfl, rfl⟩
  refine Step.Ends.take_bind (fun granted _ => ?_) fun _ _ => untouched.lodges
  refine Step.Ends.bind _ ((reserveSlices_lodges granted untouched).weaken (fun _ _ => id)
    fun _ _ => Scene.Unlodged.lodges) ?_
  intro _ reserved unlodged
  refine Step.Ends.take_bind (fun tool _ => ?_) fun _ _ => unlodged.lodges
  refine Step.Ends.bind _ (makeDirectory_lodges tidy rooted pass unlodged) ?_
  intro directory made lodged
  refine Step.Ends.bind _ ((placeArtifacts_lodges host pass lodged).weaken (fun _ _ => id)
    fun _ _ => Scene.Lodged.lodges) ?_
  intro _ placed lodged
  refine Step.Ends.bind _ ((launchDatabase_lodges tidy pass granted.database lodged).weaken
    (fun _ _ => id) fun _ _ => Scene.Lodged.lodges) ?_
  intro _ started lodged
  refine Step.Ends.take_bind (fun spec prepared => ?_) fun _ _ => lodged.lodges
  refine Step.Ends.bind _ ((launchClient_lodges tidy pass (clientSpec_mount prepared)
    lodged).weaken (fun _ _ => id) fun _ _ => Scene.Lodged.lodges) ?_
  intro output measured lodged
  refine Step.Ends.bind _ ((collectResults_lodges host pass tool output.stdout lodged).weaken
    (fun _ _ => id) fun _ _ => Scene.Lodged.lodges) ?_
  intro results last lodged
  exact Step.Ends.pure lodged.lodges

/-! ### Giving back -/

theorem settle_keepsFiles (host : Host σ) (handle : Option Sandbox.Handle)
    (slice : Option Cpu.Slice) :
    Action.KeepsFiles (settle host handle slice : Action σ τ Unit) := by
  cases handle with
  | none => exact fun _ => rfl
  | some handle =>
      refine (Action.KeepsFiles.stop host handle).bind fun answer => ?_
      cases answer with
      | ok value => exact fun _ => rfl
      | error error => exact fun _ => rfl

theorem removeDirectory_files (host : Host σ) (path : String) (bench : Bench σ τ) :
    (removeDirectory host (some path) bench).2.files =
      (Action.removeDirectory host path bench).2.files := by
  unfold removeDirectory
  dsimp only
  rw [Action.bind_apply]
  cases (Action.removeDirectory host path bench).1 <;> rfl

theorem closing_keepsFiles (collaborators : Collaborators σ τ) (pass : Pass)
    (result : Except Error Report) :
    Action.KeepsFiles (closing collaborators pass result) := by
  have pushes := Action.KeepsFiles.push collaborators (pass.summary (pass.outcome result))
  cases result with
  | ok report => exact pushes.bind fun _ => .pure _
  | error error => exact (Action.KeepsFiles.report _).bind fun _ => pushes.bind fun _ => .pure _

/-- Giving back what a run holds gives back the files from before it. -/
theorem giveBack_files {host : Host σ} (tidy : host.Tidy) {before : Tree} {scene : Scene σ τ}
    (lodges : scene.Lodges before) : (giveBack host scene.held scene.bench).2.files = before := by
  let settled : Bench σ τ := (settle host scene.held.client scene.held.clientSlice
    (settle host scene.held.database scene.held.databaseSlice scene.bench).2).2
  have kept : settled.files = scene.bench.files := by
    rw [settle_keepsFiles, settle_keepsFiles]
  change (removeDirectory host scene.held.directory settled).2.files = before
  cases made : scene.held.directory with
  | none =>
      rw [Scene.Lodges, made] at lodges
      exact kept.trans lodges
  | some path =>
      rw [Scene.Lodges, made] at lodges
      obtain ⟨place, nest⟩ := lodges
      rw [← kept] at nest
      rcases Action.change_files host (.removeDirectory path) (·.removeDirectory path) settled with
        ⟨cause, _, _, refused | failed⟩ | ⟨answer, removed⟩
      · rw [tidy.removes] at refused
        cases refused
      · rw [nest.remove] at failed
        cases failed
      · rw [nest.remove] at removed
        rw [removeDirectory_files]
        exact (Except.ok.inj removed).symm

theorem perform_files (collaborators : Collaborators σ τ) (tidy : collaborators.host.Tidy)
    (settings : Settings) (job : Job) (slices : Except Cpu.Error Slices) {bench : Bench σ τ}
    (rooted : bench.files.Rooted) :
    (perform collaborators settings job slices bench).2.files = bench.files := by
  let pass := (opening collaborators.host settings job bench).1
  let opened := (opening collaborators.host settings job bench).2
  have lodges := carryOut_lodges tidy pass slices opened rooted
  have closed := closing_keepsFiles collaborators pass
    (runToEnd collaborators.host pass slices opened).1
    (runToEnd collaborators.host pass slices opened).2
  exact closed.trans (giveBack_files tidy lodges)

/-- A pass, whatever everybody answers and whatever the names of its commit, suite and artifacts
are. Wherever its steps stop, nothing outside the run's directory differs from the files before, and
that directory stands where nothing stood. In the end the work root lists what it listed before, and
all files are as they were. -/
theorem perform_restores_files (collaborators : Collaborators σ τ)
    (tidy : collaborators.host.Tidy) (settings : Settings) (job : Job)
    (slices : Except Cpu.Error Slices) (bench : Bench σ τ) (rooted : bench.files.Rooted) :
    let pass := (opening collaborators.host settings job bench).1
    let opened := (opening collaborators.host settings job bench).2
    let ended := (perform collaborators settings job slices bench).2
    Scene.Lodges bench.files
      (carryOut collaborators.host pass slices { bench := opened, held := .nothing }).2 ∧
    ended.files.listDirectory settings.workRoot = bench.files.listDirectory settings.workRoot ∧
    ended.files = bench.files := by
  intro pass opened ended
  have lodges := carryOut_lodges tidy pass slices opened rooted
  have restored : ended.files = bench.files := by
    have closed := closing_keepsFiles collaborators pass
      (runToEnd collaborators.host pass slices opened).1
      (runToEnd collaborators.host pass slices opened).2
    exact closed.trans (giveBack_files tidy lodges)
  refine ⟨lodges, ?_, restored⟩
  rw [restored]

/-- A host whose clients leave a file in the directory that they are given. -/
def litteringHost : Host Rehearsal.Script :=
  { Rehearsal.host ⟨0, 0⟩ with
    directorySuffix := return "000000"
    launchClient := fun spec (script, files) =>
      let left :=
        match files.find spec.mount.host with
        | .ok (place, .directory) => files.put (place ++ ["results"]) (.file Tree.plainMode [])
        | _ => files
      let plan := Rehearsal.ClientPlan.usual
      (.ok { stdout := plan.stdout, duration := plan.duration }, script, left) }

theorem litteringHost_tidy : litteringHost.Tidy where
  suffix := by
    intro state
    change '/' ∉ "000000".toList
    decide
  removes := by
    intro path state
    rfl
  database := by
    intro spec state tree place found contents
    have kept : (litteringHost.launchDatabase spec (state, tree)).2.2 = tree := by
      change (Rehearsal.launchDatabase (state, tree)).2.2 = tree
      unfold Rehearsal.launchDatabase
      dsimp only
      split
      · rfl
      · split <;> rfl
    rw [kept]
    exact ⟨rfl, contents⟩
  client := by
    intro spec state tree place found contents
    have left : (litteringHost.launchClient spec (state, tree)).2.2 =
        tree.put (place ++ ["results"]) (.file Tree.plainMode []) := by
      change (match tree.find spec.mount.host with
        | .ok (place, .directory) => tree.put (place ++ ["results"]) (.file Tree.plainMode [])
        | _ => tree) = _
      rw [found]
    rw [left]
    exact .put contents _ _ _

def workTree : Tree where
  entries := [(["work"], .directory), (["work", "kept"], .file Tree.plainMode [])]
  origin := []

theorem workTree_rooted : workTree.Rooted := by
  unfold Tree.Rooted
  decide

theorem workTree_lists : workTree.listDirectory "/work" = .ok ["kept"] := by
  have passable : Tree.Passable "/work" := ⟨by decide, by decide, by decide⟩
  have taken : steps "/work" = ["work"] := by decide
  have found : workTree.find "/work" = .ok (["work"], .directory) := by
    rw [Tree.find, Tree.resolve_eq_walk passable, taken,
      Tree.walk_through_directory ⟨by decide, by decide⟩ (by decide) (by decide) (by decide),
      Tree.walk]
    rfl
  rw [Tree.listDirectory, found]
  rfl

/-- A commit and a suite whose names point out of every directory. -/
def escapingJob : Job :=
  { rehearsedJob with
    build :=
      { rehearsedJob.build with
        gitHash := "../../kept"
        artifacts := [Build.defaultArtifact]
        payloads := Fields.empty.insert Build.defaultArtifact [] }
    suite := { rehearsedJob.suite with name := "/../kept" } }

theorem perform_restores_files_rehearsed :
    let slices := (plan escapingJob.topology escapingJob.suite.client 0).slices
    let bench : Bench Rehearsal.Script Unit := .start .start () workTree 8
    let ended := (perform { host := litteringHost, sink := none } (.usual "/work" "bench" 8)
      escapingJob slices bench).2
    ended.files.listDirectory "/work" = .ok ["kept"] ∧ ended.files = workTree := by
  intro slices bench ended
  obtain ⟨_, listed, same⟩ := perform_restores_files { host := litteringHost, sink := none }
    litteringHost_tidy (.usual "/work" "bench" 8) escapingJob slices bench workTree_rooted
  exact ⟨listed.trans workTree_lists, same⟩

end Pass

end BuildBench.Run
