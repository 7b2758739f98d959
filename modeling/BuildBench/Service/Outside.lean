import BuildBench.Run.Host
import BuildBench.Sandbox.Docker
import BuildBench.Server.Probe
import BuildBench.Server.Series
import BuildBench.Server.Stream

set_option autoImplicit false

/-! What the program finds outside of itself, and how that is put together: the stream of build
events as the queue of a host, containers as its sandboxes, and time series as a metrics store. -/

namespace BuildBench.Service

open BuildBench.Entry BuildBench.Files BuildBench.Run BuildBench.Sandbox BuildBench.Server

/-- A network, a client of a container runtime, and a system. `σ` is the state of them all. -/
structure Outside (σ : Type) where
  network : Network σ
  /-- The same network to those who give up when an answer takes longer. -/
  bounded : Time.Duration → Network σ
  /-- The container client as it starts sandboxes, which see the files. -/
  launcher : Docker.Program (σ × Tree)
  /-- The container client as it stops them. -/
  stopper : Docker.Program σ
  pause : Time.Duration → StateM σ Unit
  now : StateM σ Time.Moment
  newRunId : StateM σ String
  directorySuffix : StateM σ String
  refuse : FileRequest → StateM σ (Option IoError)
  cancelled : StateM σ Bool

namespace Outside

variable {σ : Type}

def besideFiles {α : Type} (step : StateM σ α) : StateM (σ × Tree) α :=
  fun (state, files) =>
    let (answer, state) := step state
    (answer, state, files)

/-- Runs a client to its end and takes the time. -/
def launchClient (outside : Outside σ) (spec : Spec) :
    StateM (σ × Tree) (Except Sandbox.Error ClientRun) := do
  let before ← besideFiles outside.now
  let answer ← Docker.launchClient outside.launcher spec
  let after ← besideFiles outside.now
  return answer.map fun stdout => { stdout, duration := before.until after }

def host (outside : Outside σ) (settings : StreamSettings) : Host σ :=
  let stream : Stream σ := { network := outside.network, settings }
  let probe := ProbeSettings.usual
  let server := outside.bounded probe.timeout
  { read := stream.read
    acknowledge := stream.acknowledge
    takeOver := stream.takeOver
    launchDatabase := Docker.launchDatabase outside.launcher
    launchClient := outside.launchClient
    stop := Docker.stop outside.stopper
    awaitReady := awaitReady server (outside.pause probe.interval) probe
    shutdown := Server.shutdown server
    now := outside.now
    newRunId := outside.newRunId
    directorySuffix := outside.directorySuffix
    refuse := outside.refuse
    cancelled := outside.cancelled }

def sink (outside : Outside σ) (settings : SeriesSettings) : Sink σ :=
  let series : Series σ := { network := outside.network, settings }
  { push := series.push }

end Outside

/-- Nothing is outside: no server listens, and there is no container client. -/
def nothingOutside : Outside Unit where
  network := .unreachable IoError.notFound.message
  bounded := fun _ => .unreachable IoError.notFound.message
  launcher := fun _ => return .error IoError.notFound.message
  stopper := fun _ => return .error IoError.notFound.message
  pause := fun _ => return ()
  now := return { unixNanoseconds := 0, offset := 0 }
  newRunId := return ""
  directorySuffix := return ""
  refuse := fun _ => return none
  cancelled := return true

end BuildBench.Service
