import BuildBench.Proofs.Run.Calls
import BuildBench.Proofs.Run.Step

set_option autoImplicit false

/-! The way of a pass that succeeds. Main statement: a pass succeeds exactly when every one of its
steps does, each on the bench that the steps before it left. -/

namespace BuildBench.Run

open BuildBench.Definition BuildBench.Entry BuildBench.Files

variable {σ τ : Type}

namespace Pass

def directoryPath (pass : Pass) (suffix : String) : String :=
  joinPath pass.settings.workRoot (directoryMark ++ suffix)

/-- What follows the run of the client. Nothing here can make the run fail. -/
def quit (host : Host σ) (pass : Pass) (output : Sandbox.ClientRun) : Action σ τ Unit := do
  if output.duration < pass.settings.stableDuration then Action.report .shortBenchmark
  Action.shutdown host pass.settings.layout.host pass.settings.layout.port

/-- Every step of a pass succeeds, from a bench on. -/
structure Walk (host : Host σ) (pass : Pass) (slices : Except Cpu.Error Slices)
    (bench : Bench σ τ) where
  granted : Slices
  allocated : slices = .ok granted
  ledger : Cpu.Ledger
  reserved : (granted.database :: granted.client.toList).foldlM Cpu.Ledger.reserve bench.ledger =
    .ok ledger
  tool : Tool
  supported : Tool.ofName? pass.job.suite.client.tool = some tool
  suffix : String
  named : Bench σ τ
  gotSuffix : Action.Gives (.onHost host.directorySuffix) { bench with ledger } suffix named
  made : Bench σ τ
  madeDirectory : Action.Gives (.makeDirectory host (pass.directoryPath suffix)) named (.ok ()) made
  artifacts : List (String × String)
  placed : Bench σ τ
  placedArtifacts : Action.Gives (putInPlace (Action.writeProgram host) pass.job.build
    pass.job.build.artifacts (pass.directoryPath suffix)) made (.ok artifacts) placed
  hasServer : ∃ artifact ∈ artifacts, artifact.1 = pass.settings.layout.serverArtifact
  handle : Sandbox.Handle
  started : Bench σ τ
  startedDatabase : Action.Gives (.launchDatabase host
    (pass.databaseSpec (pass.directoryPath suffix) granted.database)) placed (.ok handle) started
  answering : Bench σ τ
  isReady : Action.Gives
    (.awaitReady host pass.settings.layout.host pass.settings.layout.port) started (.ok ()) answering
  spec : Sandbox.Spec
  prepared : pass.clientSpec tool (pass.directoryPath suffix) granted.client = .ok spec
  output : Sandbox.ClientRun
  measured : Bench σ τ
  ranClient : Action.Gives (.launchClient host spec) answering (.ok output) measured
  stored : Bench σ τ
  storedResults : Action.Gives (storeResults (Action.writeFile host) tool
    (joinPath (pass.directoryPath suffix) pass.outputFile) output.stdout)
    (pass.quit host output measured).2 (.ok ()) stored
  content : Except IoError Bytes
  read : Bench σ τ
  readResults : Action.Gives
    (.content host (joinPath (pass.directoryPath suffix) pass.outputFile)) stored content read
  results : Json.Value
  isDocument : documentOf (joinPath (pass.directoryPath suffix) pass.outputFile) content =
    .ok results

def Walk.report {host : Host σ} {pass : Pass} {slices : Except Cpu.Error Slices}
    {bench : Bench σ τ} (walk : Walk host pass slices bench) : Report where
  databaseSlice := walk.granted.database
  clientSlice := walk.granted.client
  duration := walk.output.duration
  results := walk.results
  outputFile := pass.outputFile

/-! ### The steps -/

section Steps

variable {host : Host σ} {pass : Pass} {scene last : Scene σ τ}

theorem chooseTool_eq_ok {client : Client} {tool : Tool} :
    chooseTool client = .ok tool ↔ Tool.ofName? client.tool = some tool := by
  unfold chooseTool
  cases Tool.ofName? client.tool with
  | some known => rw [Except.ok.injEq, Option.some.injEq]
  | none =>
      constructor
      · intro chosen
        cases chosen
      · intro supported
        cases supported

theorem reserve_gives {slice : Cpu.Slice} {bench after : Bench σ τ} {value : Unit} :
    Action.Gives (.reserve slice) bench (.ok value) after ↔
      ∃ ledger, bench.ledger.reserve slice = .ok ledger ∧ { bench with ledger } = after := by
  unfold Action.Gives
  cases reserved : bench.ledger.reserve slice with
  | error error =>
      rw [Action.reserve_error reserved]
      constructor
      · intro given
        cases given
      · rintro ⟨_, same, _⟩
        cases same
  | ok ledger =>
      rw [Action.reserve_ok reserved]
      constructor
      · intro given
        exact ⟨ledger, rfl, congrArg Prod.snd given⟩
      · rintro ⟨_, same, rfl⟩
        cases same
        rfl

theorem reserveSlices_leads {granted : Slices} :
    Step.Leads (reserveSlices granted) scene () last ↔
      ∃ ledger,
        (granted.database :: granted.client.toList).foldlM Cpu.Ledger.reserve scene.bench.ledger =
          .ok ledger ∧
        { bench := { scene.bench with ledger }
          held := { scene.held with
            databaseSlice := some granted.database
            clientSlice := granted.client <|> scene.held.clientSlice } } = last := by
  obtain ⟨database, client⟩ := granted
  unfold reserveSlices
  simp only [Step.leads_act_bind, Step.leads_take_bind, Step.leads_hold_bind]
  cases client with
  | none =>
      simp only [Step.leads_pure, Option.toList_none, List.foldlM_cons, List.foldlM_nil]
      constructor
      · rintro ⟨_, bench, reserves, _, rfl, _, rfl⟩
        obtain ⟨ledger, reserved, rfl⟩ := reserve_gives.mp reserves
        exact ⟨ledger, by rw [reserved]; rfl, rfl⟩
      · rintro ⟨ledger, reserved, rfl⟩
        rw [bind_pure] at reserved
        exact ⟨_, _, reserve_gives.mpr ⟨ledger, reserved, rfl⟩, (), rfl, trivial, rfl⟩
  | some slice =>
      simp only [Step.leads_act_bind, Step.leads_take_bind, Option.toList_some, List.foldlM_cons,
        List.foldlM_nil]
      constructor
      · rintro ⟨_, bench, reserves, _, rfl, _, after, reservesAgain, _, rfl, led⟩
        obtain ⟨first, reserved, rfl⟩ := reserve_gives.mp reserves
        obtain ⟨second, reservedAgain, rfl⟩ := reserve_gives.mp reservesAgain
        refine ⟨second, ?_, congrArg Prod.snd led⟩
        rw [reserved]
        exact (bind_pure _).trans reservedAgain
      · rintro ⟨ledger, reserved, rfl⟩
        cases first : scene.bench.ledger.reserve database with
        | error error => rw [first] at reserved; cases reserved
        | ok middle =>
            rw [first] at reserved
            exact ⟨_, _, reserve_gives.mpr ⟨middle, first, rfl⟩, (), rfl, _, _,
              reserve_gives.mpr ⟨ledger, (bind_pure _).symm.trans reserved, rfl⟩, (), rfl, rfl⟩

theorem makeDirectory_leads {directory : String} :
    Step.Leads (makeDirectory host pass) scene directory last ↔
      ∃ suffix named made,
        Action.Gives (.onHost host.directorySuffix) scene.bench suffix named ∧
        Action.Gives (.makeDirectory host (pass.directoryPath suffix)) named (.ok ()) made ∧
        pass.directoryPath suffix = directory ∧
        { bench := made, held := { scene.held with directory := some directory } } = last := by
  unfold makeDirectory
  simp only [Step.leads_act_bind, Step.leads_take_bind, Step.leads_hold_bind, Step.leads_pure]
  constructor
  · rintro ⟨suffix, named, gotSuffix, _, made, madeDirectory, _, rfl, rfl, rfl⟩
    exact ⟨suffix, named, made, gotSuffix, madeDirectory, rfl, rfl⟩
  · rintro ⟨suffix, named, made, gotSuffix, madeDirectory, rfl, rfl⟩
    exact ⟨suffix, named, gotSuffix, _, made, madeDirectory, (), rfl, rfl, rfl⟩

theorem placeArtifacts_leads {directory : String} :
    Step.Leads (placeArtifacts host pass directory) scene () last ↔
      ∃ artifacts placed,
        Action.Gives (putInPlace (Action.writeProgram host) pass.job.build
          pass.job.build.artifacts directory) scene.bench (.ok artifacts) placed ∧
        (∃ artifact ∈ artifacts, artifact.1 = pass.settings.layout.serverArtifact) ∧
        { scene with bench := placed } = last := by
  unfold placeArtifacts
  simp only [Step.leads_act_bind, Step.leads_take_bind]
  constructor
  · rintro ⟨_, placed, places, artifacts, rfl, led⟩
    split at led
    · rename_i found
      obtain ⟨artifact, member, same⟩ := List.any_eq_true.mp found
      obtain ⟨_, rfl⟩ := Step.leads_pure.mp led
      exact ⟨artifacts, placed, places, ⟨artifact, member, beq_iff_eq.mp same⟩, rfl⟩
    · cases led
  · rintro ⟨artifacts, placed, places, ⟨artifact, member, same⟩, rfl⟩
    have found : artifacts.any (·.1 == pass.settings.layout.serverArtifact) = true :=
      List.any_eq_true.mpr ⟨artifact, member, beq_iff_eq.mpr same⟩
    refine ⟨_, placed, places, artifacts, rfl, ?_⟩
    rw [if_pos found]
    rfl

theorem launchDatabase_leads {directory : String} {slice : Cpu.Slice} :
    Step.Leads (launchDatabase host pass directory slice) scene () last ↔
      ∃ handle started answering,
        Action.Gives (.launchDatabase host (pass.databaseSpec directory slice)) scene.bench
          (.ok handle) started ∧
        Action.Gives (.awaitReady host pass.settings.layout.host pass.settings.layout.port)
          started (.ok ()) answering ∧
        { bench := answering, held := { scene.held with database := some handle } } = last := by
  unfold launchDatabase
  simp only [Step.leads_act_bind, Step.leads_take_bind, Step.leads_hold_bind, Step.leads_take]
  constructor
  · rintro ⟨_, started, launched, handle, rfl, _, answering, isReady, rfl, rfl⟩
    exact ⟨handle, started, answering, launched, isReady, rfl⟩
  · rintro ⟨handle, started, answering, launched, isReady, rfl⟩
    exact ⟨_, started, launched, handle, rfl, _, answering, isReady, rfl, rfl⟩

theorem launchClient_leads {spec : Sandbox.Spec} {output : Sandbox.ClientRun} :
    Step.Leads (launchClient host pass spec) scene output last ↔
      ∃ measured, Action.Gives (.launchClient host spec) scene.bench (.ok output) measured ∧
        { bench := (pass.quit host output measured).2
          held := { scene.held with client := some .completed } } = last := by
  have quits (output : Sandbox.ClientRun) (after : Scene σ τ) :
      (do
        if output.duration < pass.settings.stableDuration then
          Step.act (Action.report .shortBenchmark)
        Step.act (Action.shutdown host pass.settings.layout.host pass.settings.layout.port)
        return output : Step σ τ Sandbox.ClientRun) after =
      (.ok output, { after with bench := (pass.quit host output after.bench).2 }) := by
    unfold quit
    split <;> rfl
  unfold launchClient
  simp only [Step.leads_act_bind, Step.leads_take_bind, Step.leads_hold_bind]
  constructor
  · rintro ⟨_, measured, ran, given, rfl, led⟩
    obtain ⟨rfl, rfl⟩ := Step.leads_pure.mp ((quits given _).symm.trans led)
    exact ⟨measured, ran, rfl⟩
  · rintro ⟨measured, ran, rfl⟩
    exact ⟨_, measured, ran, output, rfl, quits output _⟩

theorem collectResults_leads {tool : Tool} {path stdout : String} {results : Json.Value} :
    Step.Leads (collectResults host tool path stdout) scene results last ↔
      ∃ stored content read,
        Action.Gives (storeResults (Action.writeFile host) tool path stdout) scene.bench (.ok ())
          stored ∧
        Action.Gives (.content host path) stored content read ∧
        documentOf path content = .ok results ∧ { scene with bench := read } = last := by
  unfold collectResults
  simp only [Step.leads_act_bind, Step.leads_take_bind, Step.leads_take]
  constructor
  · rintro ⟨_, stored, stores, _, rfl, content, read, reads, isDocument, rfl⟩
    exact ⟨stored, content, read, stores, reads, isDocument, rfl⟩
  · rintro ⟨stored, content, read, stores, reads, isDocument, rfl⟩
    exact ⟨_, stored, stores, (), rfl, content, read, reads, isDocument, rfl⟩

end Steps

/-- The steps of a pass succeed exactly when there is a way through all of them. -/
theorem carryOut_leads {host : Host σ} {pass : Pass} {slices : Except Cpu.Error Slices}
    {bench : Bench σ τ} {report : Report} :
    (∃ last, Step.Leads (carryOut host pass slices) { bench, held := .nothing } report last) ↔
      ∃ walk : Walk host pass slices bench, walk.report = report := by
  unfold carryOut
  constructor
  · rintro ⟨last, led⟩
    obtain ⟨granted, allocated, led⟩ := Step.leads_take_bind.mp led
    obtain ⟨_, _, reserves, led⟩ := Step.leads_bind.mp led
    obtain ⟨ledger, reserved, rfl⟩ := reserveSlices_leads.mp reserves
    obtain ⟨tool, chosen, led⟩ := Step.leads_take_bind.mp led
    obtain ⟨_, _, makes, led⟩ := Step.leads_bind.mp led
    obtain ⟨suffix, named, made, gotSuffix, madeDirectory, rfl, rfl⟩ := makeDirectory_leads.mp makes
    obtain ⟨_, _, places, led⟩ := Step.leads_bind.mp led
    obtain ⟨artifacts, placed, placedArtifacts, hasServer, rfl⟩ := placeArtifacts_leads.mp places
    obtain ⟨_, _, launches, led⟩ := Step.leads_bind.mp led
    obtain ⟨handle, started, answering, startedDatabase, isReady, rfl⟩ :=
      launchDatabase_leads.mp launches
    obtain ⟨spec, prepared, led⟩ := Step.leads_take_bind.mp led
    obtain ⟨output, _, runs, led⟩ := Step.leads_bind.mp led
    obtain ⟨measured, ranClient, rfl⟩ := launchClient_leads.mp runs
    obtain ⟨results, _, collects, led⟩ := Step.leads_bind.mp led
    obtain ⟨stored, content, read, storedResults, readResults, isDocument, rfl⟩ :=
      collectResults_leads.mp collects
    obtain ⟨rfl, _⟩ := Step.leads_pure.mp led
    exact ⟨
      { granted, allocated, ledger, reserved, tool, supported := chooseTool_eq_ok.mp chosen, suffix
        named, gotSuffix, made, madeDirectory, artifacts, placed, placedArtifacts, hasServer, handle
        started, startedDatabase, answering, isReady, spec, prepared, output, measured, ranClient
        stored, storedResults, content, read, readResults, results, isDocument }, rfl⟩
  · rintro ⟨walk, rfl⟩
    let held : Held :=
      { databaseSlice := some walk.granted.database
        clientSlice := walk.granted.client <|> none
        database := some walk.handle
        client := some .completed
        directory := some (pass.directoryPath walk.suffix) }
    refine ⟨{ bench := walk.read, held }, Step.leads_take_bind.mpr ⟨_, walk.allocated, ?_⟩⟩
    refine Step.leads_bind.mpr ⟨_, _, reserveSlices_leads.mpr ⟨_, walk.reserved, rfl⟩, ?_⟩
    refine Step.leads_take_bind.mpr ⟨_, chooseTool_eq_ok.mpr walk.supported, ?_⟩
    refine Step.leads_bind.mpr ⟨_, _, makeDirectory_leads.mpr
      ⟨_, _, _, walk.gotSuffix, walk.madeDirectory, rfl, rfl⟩, ?_⟩
    refine Step.leads_bind.mpr ⟨_, _, placeArtifacts_leads.mpr
      ⟨_, _, walk.placedArtifacts, walk.hasServer, rfl⟩, ?_⟩
    refine Step.leads_bind.mpr ⟨_, _, launchDatabase_leads.mpr
      ⟨_, _, _, walk.startedDatabase, walk.isReady, rfl⟩, ?_⟩
    refine Step.leads_take_bind.mpr ⟨_, walk.prepared, ?_⟩
    refine Step.leads_bind.mpr ⟨_, _, launchClient_leads.mpr ⟨_, walk.ranClient, rfl⟩, ?_⟩
    refine Step.leads_bind.mpr ⟨_, _, collectResults_leads.mpr
      ⟨_, _, _, walk.storedResults, walk.readResults, walk.isDocument, rfl⟩, ?_⟩
    exact Step.leads_pure.mpr ⟨rfl, rfl⟩

end Pass

end BuildBench.Run
