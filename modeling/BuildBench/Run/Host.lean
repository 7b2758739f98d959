import BuildBench.Entry.Delivery
import BuildBench.Files.Tree
import BuildBench.Run.Notice
import BuildBench.Run.Outcome

set_option autoImplicit false

/-! Those who do the work that is coordinated: a queue, a sandbox runtime, a readiness probe, a
clock, a file system, and a metrics store. Each is a function of a state of its own and may answer
with a failure at any time. The metrics store has a state apart from the others, since it is told
of the runs and takes no part in them. -/

namespace BuildBench.Run

open BuildBench.Entry BuildBench.Files

inductive FileRequest
  | list (path : String)
  | read (path : String)
  | write (path : String)
  | makeDirectory (path : String)
  | removeDirectory (path : String)
  deriving DecidableEq, Repr

/-- All who do the work, except the metrics store. `σ` is their common state. -/
structure Host (σ : Type) where
  read : Cursor → StateM σ (Except QueueError (Option Delivery))
  acknowledge : Id → StateM σ (Except QueueError Unit)
  takeOver : Time.Duration → StateM σ (Except QueueError (Option Delivery))
  /-- The sandboxes see the files, and the client leaves its results there. -/
  launchDatabase : Sandbox.Spec → StateM (σ × Tree) (Except Sandbox.Error Sandbox.Handle)
  launchClient : Sandbox.Spec → StateM (σ × Tree) (Except Sandbox.Error Sandbox.ClientRun)
  stop : Sandbox.Handle → StateM σ (Except Sandbox.Error Unit)
  awaitReady : String → Nat → StateM σ (Except ProbeError Unit)
  shutdown : String → Nat → StateM σ (Except ProbeError Unit)
  now : StateM σ Time.Moment
  newRunId : StateM σ String
  /-- Some text that no other directory name ends with. -/
  directorySuffix : StateM σ String
  /-- A reason to refuse a request that the files themselves would admit. -/
  refuse : FileRequest → StateM σ (Option IoError)
  cancelled : StateM σ Bool

structure Sink (τ : Type) where
  push : Summary → StateM τ (Except MetricsError Unit)

/-- All who are called upon. There need not be a metrics store. -/
structure Collaborators (σ τ : Type) where
  host : Host σ
  sink : Option (Sink τ)

/-- What happened: a call with its answer, or a notice. The files are those at the time of the
call. -/
inductive Event
  | read (cursor : Cursor) (answer : Except QueueError (Option Delivery))
  | takeOver (idle : Time.Duration) (answer : Except QueueError (Option Delivery))
  | acknowledge (id : Id) (answer : Except QueueError Unit)
  | launchDatabase (spec : Sandbox.Spec) (files : Tree)
      (answer : Except Sandbox.Error Sandbox.Handle)
  | launchClient (spec : Sandbox.Spec) (files : Tree)
      (answer : Except Sandbox.Error Sandbox.ClientRun)
  | stop (handle : Sandbox.Handle) (answer : Except Sandbox.Error Unit)
  | awaitReady (host : String) (port : Nat) (answer : Except ProbeError Unit)
  | shutdown (host : String) (port : Nat) (answer : Except ProbeError Unit)
  | push (summary : Summary) (answer : Except MetricsError Unit)
  | notice (notice : Notice)

end BuildBench.Run
