import BuildBench.Run.Artifacts
import BuildBench.Run.Bench
import BuildBench.Run.Plan
import BuildBench.Run.Results
import BuildBench.Run.Settings
import BuildBench.Sandbox.ServerCommand

set_option autoImplicit false

/-! A pass: one suite on one topology for one build. The steps of a pass take things on the way:
CPUs, sandboxes, a directory. Whichever step fails, all that was taken is given back at the end. -/

namespace BuildBench.Run

open BuildBench.Definition BuildBench.Entry BuildBench.Files

/-- What a run has taken and must give back. -/
structure Held where
  databaseSlice : Option Cpu.Slice
  clientSlice : Option Cpu.Slice
  database : Option Sandbox.Handle
  /-- The client sandbox, which has exited. -/
  client : Option Sandbox.Handle
  directory : Option String
  deriving DecidableEq, Repr

/-- A run has taken nothing yet. -/
def Held.nothing : Held where
  databaseSlice := none
  clientSlice := none
  database := none
  client := none
  directory := none

/-- What a pass works for: a build, a suite, and a topology. -/
structure Job where
  build : Build
  suite : Suite
  topology : Topology
  deriving DecidableEq, Repr

structure Pass where
  settings : Settings
  job : Job
  runId : String
  started : Time.Moment

/-- A bench with a run on it. -/
structure Scene (σ τ : Type) where
  bench : Bench σ τ
  held : Held

/-- A step of a pass. What it did stays done when it fails. -/
abbrev Step (σ τ α : Type) := ExceptT Error (StateM (Scene σ τ)) α

namespace Step

variable {σ τ α : Type}

/-- Does something on the bench. -/
def act (action : Action σ τ α) : Step σ τ α :=
  fun scene =>
    let (answer, bench) := action scene.bench
    (.ok answer, { scene with bench })

/-- Takes an answer or fails with its error, worded for the run. -/
def take {ε : Type} (wording : ε → Error) : Except ε α → Step σ τ α
  | .ok value => pure value
  | .error error => throw (wording error)

/-- Notes what the run holds from now on. -/
def hold (change : Held → Held) : Step σ τ Unit :=
  fun scene => (.ok (), { scene with held := change scene.held })

end Step

namespace Pass

variable {σ τ : Type}

/-! ### Steps -/

def reserveSlices (slices : Slices) : Step σ τ Unit := do
  Step.take .cpu (← Step.act (Action.reserve slices.database))
  Step.hold fun held => { held with databaseSlice := some slices.database }
  match slices.client with
  | none => return ()
  | some slice =>
      Step.take .cpu (← Step.act (Action.reserve slice))
      Step.hold fun held => { held with clientSlice := some slice }

def chooseTool (client : Client) : Except Error Tool :=
  match Tool.ofName? client.tool with
  | some tool => .ok tool
  | none => .error (.unsupportedTool client.tool)

def directoryMark : String := "rbs-"

def makeDirectory (host : Host σ) (pass : Pass) : Step σ τ String := do
  let suffix ← Step.act (Action.onHost host.directorySuffix)
  let path := joinPath pass.settings.workRoot (directoryMark ++ suffix)
  Step.take .directory (← Step.act (Action.makeDirectory host path))
  Step.hold fun held => { held with directory := some path }
  return path

/-- Puts the artifacts of the build into the directory. The server must be among them. -/
def placeArtifacts (host : Host σ) (pass : Pass) (directory : String) : Step σ τ Unit := do
  let write := Action.writeProgram host
  let build := pass.job.build
  let placed ← Step.take .artifact
    (← Step.act (putInPlace write build build.artifacts directory))
  let server := pass.settings.layout.serverArtifact
  if placed.any (·.1 == server) then return () else throw (.missingServer server)

def databaseSpec (pass : Pass) (directory : String) (slice : Cpu.Slice) : Sandbox.Spec :=
  let layout := pass.settings.layout
  let mount : Sandbox.Mount := { host := directory, target := layout.databaseMount }
  { image := pass.job.build.runImage
    mount
    command := Sandbox.serverArguments (mount.pathInside layout.serverArtifact) layout.port
      layout.databaseMount pass.job.suite.parameters
    cpus := some slice }

def launchDatabase (host : Host σ) (pass : Pass) (directory : String) (slice : Cpu.Slice) :
    Step σ τ Unit := do
  let spec := databaseSpec pass directory slice
  let handle ← Step.take (.sandbox .database) (← Step.act (Action.launchDatabase host spec))
  Step.hold fun held => { held with database := some handle }
  let layout := pass.settings.layout
  Step.take .probe (← Step.act (Action.awaitReady host layout.host layout.port))

def outputFile (pass : Pass) : String :=
  resultsName pass.started pass.job.build.gitHash pass.job.suite.name pass.settings.deployment

/-- The client sandbox of the run, if the suite's arguments can be split. -/
def clientSpec (pass : Pass) (tool : Tool) (directory : String) (slice : Option Cpu.Slice) :
    Except Error Sandbox.Spec :=
  let layout := pass.settings.layout
  let client := pass.job.suite.client
  let mount : Sandbox.Mount := { host := directory, target := layout.clientMount }
  let invocation := tool.prepare client.arguments (client.binary.getD tool.usualProgram)
    layout.host layout.port (mount.pathInside pass.outputFile)
  match invocation with
  | .error error => .error (.tool error)
  | .ok invocation =>
      .ok {
        image := client.runImage.getD tool.usualImage
        mount
        command := invocation.arguments
        cpus := slice }

/-- Runs the client, reports if it took too little time, and shuts the database down. -/
def launchClient (host : Host σ) (pass : Pass) (spec : Sandbox.Spec) :
    Step σ τ Sandbox.ClientRun := do
  let answer ← Step.act (Action.launchClient host spec)
  Step.hold fun held => { held with client := some .completed }
  let output ← Step.take (.sandbox .client) answer
  if output.duration < pass.settings.stableDuration then
    Step.act (Action.report .shortBenchmark)
  let layout := pass.settings.layout
  Step.act (Action.shutdown host layout.host layout.port)
  return output

/-- Stores the results in the output of the client, and reads them back. -/
def collectResults (host : Host σ) (tool : Tool) (path stdout : String) :
    Step σ τ Json.Value := do
  Step.take .tool (← Step.act (storeResults (Action.writeFile host) tool path stdout))
  Step.take .results (documentOf path (← Step.act (Action.content host path)))

/-- All steps of a pass, in order. -/
def carryOut (host : Host σ) (pass : Pass) (slices : Except Cpu.Error Slices) :
    Step σ τ Report := do
  let slices ← Step.take .cpu slices
  reserveSlices slices
  let tool ← Step.take id (chooseTool pass.job.suite.client)
  let directory ← makeDirectory host pass
  placeArtifacts host pass directory
  launchDatabase host pass directory slices.database
  let spec ← Step.take id (clientSpec pass tool directory slices.client)
  let output ← launchClient host pass spec
  let results ← collectResults host tool (joinPath directory pass.outputFile) output.stdout
  return {
    databaseSlice := slices.database
    clientSlice := slices.client
    duration := output.duration
    results
    outputFile := pass.outputFile }

/-! ### Giving back -/

/-- Ends a sandbox, if there is one. Its slice goes back to the pool, unless the stop is not
confirmed: then the slice stays taken. -/
def settle (host : Host σ) (handle : Option Sandbox.Handle) (slice : Option Cpu.Slice) :
    Action σ τ Unit := do
  match handle with
  | none => Action.releaseAll slice.toList
  | some handle =>
      match ← Action.stop host handle with
      | .ok () => Action.releaseAll slice.toList
      | .error _ =>
          Action.report .stopFailed
          Action.defer handle slice.toList

/-- Removes the directory of the run, if there is one. That it fails is only reported. -/
def removeDirectory (host : Host σ) (directory : Option String) : Action σ τ Unit := do
  match directory with
  | none => return ()
  | some path =>
      match ← Action.removeDirectory host path with
      | .ok () => return ()
      | .error _ => Action.report .directoryKept

/-- Gives back all that a run holds: first the database, then the client, then the directory. -/
def giveBack (host : Host σ) (held : Held) : Action σ τ Unit := do
  settle host held.database held.databaseSlice
  settle host held.client held.clientSlice
  removeDirectory host held.directory

/-! ### The pass -/

/-- The steps of a pass, and then the giving back of what they took. -/
def runToEnd (host : Host σ) (pass : Pass) (slices : Except Cpu.Error Slices) :
    Action σ τ (Except Error Report) :=
  fun bench =>
    let (result, scene) := carryOut host pass slices { bench, held := .nothing }
    let ((), bench) := giveBack host scene.held scene.bench
    (result, bench)

def summary (pass : Pass) (outcome : Outcome) : Summary where
  runId := outcome.runId
  gitHash := pass.job.build.gitHash
  suite := outcome.suite
  topology := outcome.topology
  deployment := pass.settings.deployment
  runner := pass.settings.runner
  status := outcome.status
  started := pass.started.unixMilliseconds
  duration := outcome.report?.map (·.duration)
  results := outcome.report?.map (·.results)

def perform (collaborators : Collaborators σ τ) (settings : Settings) (job : Job)
    (slices : Except Cpu.Error Slices) : Action σ τ Outcome := do
  let host := collaborators.host
  let runId ← Action.onHost host.newRunId
  let started ← Action.onHost host.now
  let pass : Pass := { settings, job, runId, started }
  let result ← runToEnd host pass slices
  match result with
  | .ok _ => pure ()
  | .error _ => Action.report .runFailed
  let outcome : Outcome := { runId, suite := job.suite.name, topology := job.topology.name, result }
  Action.push collaborators (pass.summary outcome)
  return outcome

end Pass

end BuildBench.Run
