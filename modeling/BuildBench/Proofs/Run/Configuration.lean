import BuildBench.Proofs.Coordinator.Placement
import BuildBench.Proofs.Definition.Parameters
import BuildBench.Proofs.Run.ResultFile

set_option autoImplicit false

/-! How the database of a run is configured. Main statement: a run starts it with all parameters
that its suite's document declares, in their order, but for those that the command line itself sets;
and its port is the one at which it is awaited, measured, and shut down. -/

namespace BuildBench.Run

open BuildBench.Definition BuildBench.Files

variable {σ τ : Type}

/-! ### What the sandboxes are told -/

/-- What is fixed about a call by the layout and the parameters of a suite. The database is told all
parameters in order, but for those of three names, and everyone else where to find it. -/
def Event.Configured (layout : Layout) (parameters : List (String × String)) : Event → Prop
  | .launchDatabase spec _ _ =>
      spec.mount.target = layout.databaseMount ∧
      spec.command =
        [spec.mount.pathInside layout.serverArtifact, "--protected-mode", "no",
          "--port", toString layout.port, "--dir", layout.databaseMount] ++
        (parameters.filter fun parameter =>
          parameter.1 ∉ ["port", "protected-mode", "dir"]).flatMap
            fun parameter => ["--" ++ parameter.1, parameter.2]
  | .launchClient spec _ _ =>
      ∃ program hostOption portOption others,
        (hostOption, portOption) ∈ [("-h", "-p"), ("--server", "--port")] ∧
        spec.command =
          program :: hostOption :: layout.host :: portOption :: toString layout.port :: others
  | .awaitReady host port _ => host = layout.host ∧ port = layout.port
  | .shutdown host port _ => host = layout.host ∧ port = layout.port
  | _ => True

theorem Pass.databaseSpec_command (pass : Pass) (directory : String) (slice : Cpu.Slice) :
    (databaseSpec pass directory slice).command =
      [(databaseSpec pass directory slice).mount.pathInside pass.settings.layout.serverArtifact,
        "--protected-mode", "no", "--port", toString pass.settings.layout.port,
        "--dir", pass.settings.layout.databaseMount] ++
      (pass.job.suite.parameters.filter fun parameter =>
        parameter.1 ∉ ["port", "protected-mode", "dir"]).flatMap
          fun parameter => ["--" ++ parameter.1, parameter.2] := by
  have allowed : (fun parameter : String × String =>
      !Sandbox.fixedParameters.contains parameter.1) =
        fun parameter => decide (parameter.1 ∉ ["port", "protected-mode", "dir"]) := by
    funext parameter
    rw [List.contains_eq_mem, ← decide_not]
    rfl
  change Sandbox.serverArguments _ _ _ _ = _
  rw [Sandbox.serverArguments, allowed]
  rfl

theorem Pass.perform_configures (collaborators : Collaborators σ τ) (settings : Settings)
    (job : Job) (slices : Except Cpu.Error Slices) (bench : Bench σ τ) :
    bench.Adds (Event.Configured settings.layout job.suite.parameters)
      (perform collaborators settings job slices bench).2 := by
  refine (perform_canMake collaborators settings job slices bench).weaken ?_
  intro event canMake
  cases canMake with
  | launchDatabase directory slice files answer =>
      exact ⟨rfl, databaseSpec_command _ directory slice⟩
  | launchClient prepared files answer =>
      rename_i tool directory slice spec
      obtain ⟨program, extra, command⟩ := clientSpec_command prepared
      cases tool with
      | redisBenchmark => exact ⟨program, "-h", "-p", _, List.mem_cons_self, command⟩
      | memtierBenchmark =>
          exact ⟨program, "--server", "--port", _, List.mem_cons_of_mem _ List.mem_cons_self,
            command⟩
  | awaitReady answer => exact ⟨rfl, rfl⟩
  | shutdown answer => exact ⟨rfl, rfl⟩
  | stop handle answer => trivial
  | push outcome answer => trivial

/-! ### Main result -/

/-- A document is a suite exactly if every parameter in it has a name and a value that have texts,
and otherwise the first one that has not is what is wrong. The suite has the texts of all its
parameters in order, and with these, and at the port where everyone looks for it, the database of
each of its runs is started. -/
theorem parameters_reach_database {source text : String} {draft : Suite.Draft}
    (read : Yaml.Reading.run (Suite.readDraft source) text = some draft) :
    ((∃ suite, Suite.ofText source text = .ok suite) ↔
      ∀ entry ∈ draft.configuration,
        (∃ name, entry.1.Says name) ∧ ∃ value, entry.2.Says value) ∧
    (∀ error, Suite.ofText source text = .error error →
      ∃ defect, error = .invalidParameters defect ∧
        Suite.FirstMisnamed draft.configuration defect) ∧
    ∀ suite, Suite.ofText source text = .ok suite →
      List.Forall₂ Suite.Declares draft.configuration suite.parameters ∧
      ∀ (σ τ : Type) (collaborators : Collaborators σ τ) (settings : Settings)
        (build : Entry.Build) (topology : Topology) (slices : Except Cpu.Error Slices)
        (bench : Bench σ τ),
        bench.Adds (Event.Configured settings.layout suite.parameters)
          (Pass.perform collaborators settings { build, suite, topology } slices bench).2 := by
  rw [Suite.ofText_of_read read]
  refine ⟨Suite.ofDraft_succeeds_iff draft, fun error => Suite.ofDraft_eq_error, ?_⟩
  intro suite drafted
  refine ⟨Suite.ofDraft_parameters drafted, ?_⟩
  intro σ τ collaborators settings build topology slices bench
  exact Pass.perform_configures collaborators settings { build, suite, topology } slices bench

/-! A suite whose document has one text twice as a name, and a parameter of a name that is set. -/

def configuredText : String :=
  "\x7bname: s, dbconfig: \x7bconfiguration-parameters: " ++
    "\x7b1: a, port: 7000, \x221\x22: 2, appendonly: true\x7d\x7d\x7d"

def configuredSuite : Suite where
  name := "s"
  description := none
  topologies := []
  parameters := [("1", "a"), ("port", "7000"), ("1", "2"), ("appendonly", "yes")]
  client := .default
  source := "s.yml"

def configuredJob : Job :=
  { Coordinator.servedJob with suite := configuredSuite }

def configuredBench : Bench Rehearsal.Script Unit :=
  .start .start () Pass.workTree 8

theorem configuredJob_launches :
    ∃ made spec answer,
      (Pass.perform { host := Pass.litteringHost, sink := none } (.usual "/work" "bench" 8)
        configuredJob (.ok ⟨Cpu.sliceAt 0 1, none⟩) configuredBench).2.calls =
          .launchDatabase spec Pass.stockedTree answer :: made := by
  have served : Pass.IsServed configuredJob := ⟨rfl, rfl, _, rfl⟩
  have reserved : (Slices.mk (Cpu.sliceAt 0 1) none).inOrder.foldlM Cpu.Ledger.reserve
      configuredBench.ledger = .ok Coordinator.servedLedger := rfl
  obtain ⟨made, spec, -, launches⟩ := Pass.workTree_launches rfl served reserved rfl
  exact ⟨made, spec, _, launches⟩

def unnamedText : String :=
  "\x7bname: s, dbconfig: \x7bconfiguration-parameters: \x7bsave: [a], port: 7000\x7d\x7d\x7d"

theorem parameters_reach_database_rehearsed :
    (∃ spec files answer,
      .launchDatabase spec files answer ∈
        (Pass.perform { host := Pass.litteringHost, sink := none } (.usual "/work" "bench" 8)
          configuredJob (.ok ⟨Cpu.sliceAt 0 1, none⟩) configuredBench).2.calls ∧
      spec.command = ["/mnt/redis/redis-server", "--protected-mode", "no", "--port", "6379",
        "--dir", "/mnt/redis/", "--1", "a", "--1", "2", "--appendonly", "yes"]) ∧
    ∃ draft, Yaml.Reading.run (Suite.readDraft "s.yml") unnamedText = some draft ∧
      Suite.FirstMisnamed draft.configuration (.value "save") := by
  constructor
  · have isRead : (Yaml.Reading.run (Suite.readDraft "s.yml") configuredText).isSome := by
      decide +kernel
    have loaded : Suite.ofText "s.yml" configuredText = .ok configuredSuite := by decide +kernel
    obtain ⟨draft, read⟩ := Option.isSome_iff_exists.mp isRead
    obtain ⟨-, configures⟩ := (parameters_reach_database read).2.2 configuredSuite loaded
    obtain ⟨made, spec, answer, launches⟩ := configuredJob_launches
    obtain ⟨added, calls, each⟩ := configures _ _ _ _ configuredJob.build configuredJob.topology _ _
    have same : added = _ := calls.symm.trans launches
    obtain ⟨target, command⟩ := each (.launchDatabase spec Pass.stockedTree answer) (by
      rw [same]
      exact List.mem_cons_self)
    refine ⟨spec, Pass.stockedTree, answer, ?_, ?_⟩
    · rw [launches]
      exact List.mem_cons_self
    · rw [command, Sandbox.Mount.pathInside, target]
      decide
  · have isRead : (Yaml.Reading.run (Suite.readDraft "s.yml") unnamedText).isSome := by
      decide +kernel
    have refused : Suite.ofText "s.yml" unnamedText =
        .error (.invalidParameters (.value "save")) := by
      decide +kernel
    obtain ⟨draft, read⟩ := Option.isSome_iff_exists.mp isRead
    obtain ⟨defect, same, first⟩ := (parameters_reach_database read).2.1 _ refused
    cases same
    exact ⟨draft, read, first⟩

end BuildBench.Run
