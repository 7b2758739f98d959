import BuildBench.CommandLine.Startup
import BuildBench.Coordinator.Basic
import BuildBench.Service.Outside

set_option autoImplicit false

/-! The program from its start to its end: it starts up, connects to its servers, and lets a
coordinator run until the operator asks to stop. A metrics store that cannot be reached is done
without; without the stream of build events there is nothing to do. -/

namespace BuildBench.Service

open BuildBench.CommandLine BuildBench.Server

variable {σ : Type}

/-- What the program knows of the machine that it runs on. -/
structure Machine where
  cpuCount : Nat
  runner : String
  /-- Where runs make their directories if the operator does not choose a place. -/
  workRoot : String

/-- Connects to the stream of build events and makes sure that its group of consumers is there. -/
def connect (outside : Outside σ) (session : Session) : StateM σ (Except Ended Session) := do
  let stream : Stream σ := { network := outside.network, settings := session.choices.stream }
  let refusal :=
    match ← stream.connect with
    | .ok () => none
    | .error error => some error.message
  match session.connect refusal with
  | .error ended => return .error ended
  | .ok session =>
      match ← stream.makeGroup with
      | .ok () => return .ok session
      | .error error => return .error (session.ended (.group error.message))

/-- The metrics store, if the operator wants one and it can be reached. -/
def connectSink (outside : Outside σ) (session : Session) :
    StateM σ (Session × Option (Run.Sink σ)) := do
  if !session.choices.pushesResults then return (session, none)
  let settings := session.choices.series
  match ← Series.connect { network := outside.network, settings } with
  | .ok () => return (session, some (outside.sink settings))
  | .error _ =>
      let text := "time-series store unavailable; results will not be pushed"
      return (session.noted .warning text ["error"], none)

def setup (outside : Outside σ) (machine : Machine) (session : Session)
    (sink : Option (Run.Sink σ)) : Coordinator.Setup σ σ where
  collaborators := { host := outside.host session.choices.stream, sink }
  settings := session.choices.settings machine.workRoot machine.runner machine.cpuCount
  catalog := session.catalog

/-- Lets a coordinator run, for at most so many iterations. The metrics store has a copy of the
outside to itself, since what it is told changes nothing else. -/
def serve (outside : Outside σ) (machine : Machine) (session : Session) (iterations : Nat) :
    StateM σ Session := do
  let (session, sink) ← connectSink outside session
  let fields := ["consumer", "cpus", "suites", "work_root"]
  let session := session.noted .info "coordinator configured" fields
  let setup := setup outside machine session sink
  let state := setup.start (← get) (← get) session.files session.choices.start
  let (_, state) := setup.run iterations state
  set state.bench.host
  return { session with files := state.bench.files }.noted .info "shutdown complete" []

/-- The whole program. It ends in a session that has been served, or before. -/
def run (outside : Outside σ) (machine : Machine) (arguments : List String)
    (environment : List (String × String)) (files : Files.Tree) (iterations : Nat) :
    StateM σ (Except Ended Session) := do
  match start arguments environment files with
  | .error ended => return .error ended
  | .ok session =>
      match ← connect outside session with
      | .error ended => return .error ended
      | .ok session => return .ok (← serve outside machine session iterations)

end BuildBench.Service
