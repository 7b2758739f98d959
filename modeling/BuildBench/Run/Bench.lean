import BuildBench.Cpu.Ledger
import BuildBench.Run.Host

set_option autoImplicit false

/-! The bench on which runs are made: the states of those who do the work, the files, the CPU
ledger, and a journal of all that happened. Every call goes through an action that enters it into
the journal. -/

namespace BuildBench.Run

open BuildBench.Entry BuildBench.Files

/-- All that runs read and change. -/
structure Bench (σ τ : Type) where
  host : σ
  sink : τ
  files : Tree
  ledger : Cpu.Ledger
  /-- The oldest event comes first. -/
  journal : List Event

/-- A bench on which nothing has happened, with so many CPUs. -/
def Bench.start {σ τ : Type} (host : σ) (sink : τ) (files : Tree) (cpus : Nat) : Bench σ τ where
  host := host
  sink := sink
  files := files
  ledger := .ofPool cpus
  journal := []

/-- The bench with an empty journal. -/
def Bench.forget {σ τ : Type} (bench : Bench σ τ) : Bench σ τ :=
  { bench with journal := [] }

/-- Something done on a bench. -/
abbrev Action (σ τ α : Type) := StateM (Bench σ τ) α

namespace Action

variable {σ τ α : Type}

def enter (event : Event) : Action σ τ Unit :=
  modify fun bench => { bench with journal := bench.journal ++ [event] }

def report (notice : Notice) : Action σ τ Unit :=
  enter (.notice notice)

/-- Lets the host do something that leaves the files alone. -/
def onHost (step : StateM σ α) : Action σ τ α :=
  fun bench =>
    let (answer, host) := step bench.host
    (answer, { bench with host })

/-- Lets the host do something that may change files. -/
def onHostFiles (step : StateM (σ × Tree) α) : Action σ τ α :=
  fun bench =>
    let (answer, host, files) := step (bench.host, bench.files)
    (answer, { bench with host, files })

/-- Does something to the files. -/
def onFiles (step : StateM Tree α) : Action σ τ α :=
  fun bench =>
    let (answer, files) := step bench.files
    (answer, { bench with files })

def onSink (step : StateM τ α) : Action σ τ α :=
  fun bench =>
    let (answer, sink) := step bench.sink
    (answer, { bench with sink })

/-! ### Queue -/

def read (host : Host σ) (cursor : Cursor) :
    Action σ τ (Except QueueError (Option Delivery)) := do
  let answer ← onHost (host.read cursor)
  enter (.read cursor answer)
  return answer

/-- Asks the queue for an entry that another consumer left idle. -/
def takeOver (host : Host σ) (idle : Time.Duration) :
    Action σ τ (Except QueueError (Option Delivery)) := do
  let answer ← onHost (host.takeOver idle)
  enter (.takeOver idle answer)
  return answer

/-- Acknowledges an entry. That it fails is only reported. -/
def acknowledge (host : Host σ) (id : Id) : Action σ τ Unit := do
  let answer ← onHost (host.acknowledge id)
  enter (.acknowledge id answer)
  match answer with
  | .ok () => return ()
  | .error _ => report .acknowledgeFailed

/-! ### Sandboxes -/

def launchDatabase (host : Host σ) (spec : Sandbox.Spec) :
    Action σ τ (Except Sandbox.Error Sandbox.Handle) := do
  let files := (← get).files
  let answer ← onHostFiles (host.launchDatabase spec)
  enter (.launchDatabase spec files answer)
  return answer

def launchClient (host : Host σ) (spec : Sandbox.Spec) :
    Action σ τ (Except Sandbox.Error Sandbox.ClientRun) := do
  let files := (← get).files
  let answer ← onHostFiles (host.launchClient spec)
  enter (.launchClient spec files answer)
  return answer

def stop (host : Host σ) (handle : Sandbox.Handle) :
    Action σ τ (Except Sandbox.Error Unit) := do
  let answer ← onHost (host.stop handle)
  enter (.stop handle answer)
  return answer

def awaitReady (host : Host σ) (address : String) (port : Nat) :
    Action σ τ (Except ProbeError Unit) := do
  let answer ← onHost (host.awaitReady address port)
  enter (.awaitReady address port answer)
  return answer

/-- Tells a database to shut down. That it fails is only reported. -/
def shutdown (host : Host σ) (address : String) (port : Nat) : Action σ τ Unit := do
  let answer ← onHost (host.shutdown address port)
  enter (.shutdown address port answer)
  match answer with
  | .ok () => return ()
  | .error _ => report .shutdownFailed

/-! ### Metrics -/

/-- Tells the metrics store of a run, if there is a store. That it fails is only reported. -/
def push (collaborators : Collaborators σ τ) (summary : Summary) : Action σ τ Unit := do
  match collaborators.sink with
  | none => return ()
  | some sink =>
      let answer ← onSink (sink.push summary)
      enter (.push summary answer)
      match answer with
      | .ok () => return ()
      | .error _ => report .pushFailed

/-! ### Files -/

def inspect {ε : Type} (host : Host σ) (request : FileRequest) (refusal : IoError → ε)
    (reading : Tree → Except ε α) : Action σ τ (Except ε α) := do
  match ← onHost (host.refuse request) with
  | some cause => return .error (refusal cause)
  | none => return reading (← get).files

def change (host : Host σ) (request : FileRequest) (step : Tree → Except IoError Tree) :
    Action σ τ (Except IoError Unit) := do
  match ← onHost (host.refuse request) with
  | some cause => return .error cause
  | none => onFiles (Tree.attempt step)

def makeDirectory (host : Host σ) (path : String) : Action σ τ (Except IoError Unit) :=
  change host (.makeDirectory path) (·.makeDirectory path)

def removeDirectory (host : Host σ) (path : String) : Action σ τ (Except IoError Unit) :=
  change host (.removeDirectory path) (·.removeDirectory path)

def writeProgram (host : Host σ) (path : String) (data : Bytes) :
    Action σ τ (Except IoError Unit) :=
  change host (.write path) (·.writeFileWithMode path Tree.executableMode data)

def writeFile (host : Host σ) (path : String) (data : Bytes) :
    Action σ τ (Except IoError Unit) :=
  change host (.write path) (·.writeFile path Tree.plainMode data)

def content (host : Host σ) (path : String) : Action σ τ (Except IoError Bytes) :=
  inspect host (.read path) id (·.content path)

/-! ### CPUs -/

def reserve (slice : Cpu.Slice) : Action σ τ (Except Cpu.Error Unit) := do
  match (← get).ledger.reserve slice with
  | .error error => return .error error
  | .ok ledger =>
      modify fun bench => { bench with ledger }
      return .ok ()

def releaseAll (slices : List Cpu.Slice) : Action σ τ Unit :=
  modify fun bench => { bench with ledger := bench.ledger.releaseAll slices }

/-- Keeps slices until a sandbox is confirmed to have stopped. -/
def defer (handle : Sandbox.Handle) (slices : List Cpu.Slice) : Action σ τ Unit := do
  report .stopUnconfirmed
  modify fun bench => { bench with ledger := bench.ledger.defer handle slices }

/-- Takes the deferred stops out of the ledger. Their slices stay reserved. -/
def takeStops : Action σ τ (List Cpu.PendingStop) := do
  let deferred := (← get).ledger.deferred
  modify fun bench => { bench with ledger := bench.ledger.withoutDeferred }
  return deferred

/-- Stops a sandbox once more. Only when it is confirmed are its slices returned. -/
def retryStop (host : Host σ) (stop : Cpu.PendingStop) : Action σ τ Unit := do
  match ← Action.stop host stop.handle with
  | .ok () => releaseAll stop.slices
  | .error _ =>
      report .stopFailedAgain
      defer stop.handle stop.slices

/-- Stops deferred sandboxes once more, in the order in which they were deferred. -/
def retryAll (host : Host σ) : List Cpu.PendingStop → Action σ τ Unit
  | [] => return ()
  | stop :: rest => do
      retryStop host stop
      retryAll host rest

/-- Stops all deferred sandboxes once more. -/
def retryStops (host : Host σ) : Action σ τ Unit := do
  retryAll host (← takeStops)

end Action

end BuildBench.Run
