import BuildBench.Proofs.Run.Course

set_option autoImplicit false

/-! The end of a pass: sandboxes are stopped, their slices go back to the pool or stay with a
deferred stop, and the metrics store is told. Main statements: what is given back makes one stop for
each sandbox that is held, and what becomes of the slices depends on its answer alone. -/

namespace BuildBench.Cpu

open BuildBench.Sandbox (Handle)

/-- The stop that has to be made again: of a sandbox that was stopped without being confirmed. -/
def unconfirmed (handle : Option Handle) (slices : List Slice)
    (answer : Except Sandbox.Error Unit) : List PendingStop :=
  match handle, answer with
  | some handle, .error _ => [{ handle, slices }]
  | _, _ => []

namespace Ledger

/-- The slices of a sandbox go back to the pool, unless there was a sandbox to stop and its stop
was not confirmed. -/
def afterStop (ledger : Ledger) (handle : Option Handle) (slices : List Slice)
    (answer : Except Sandbox.Error Unit) : Ledger :=
  match handle, answer with
  | some handle, .error _ => ledger.defer handle slices
  | _, _ => ledger.releaseAll slices

theorem afterStop_deferred (ledger : Ledger) (handle : Option Handle) (slices : List Slice)
    (answer : Except Sandbox.Error Unit) :
    (ledger.afterStop handle slices answer).deferred =
      ledger.deferred ++ unconfirmed handle slices answer := by
  have released : (ledger.releaseAll slices).deferred = ledger.deferred ++ [] :=
    (releaseAll_deferred ledger slices).trans (List.append_nil _).symm
  cases handle with
  | none => exact released
  | some handle =>
      cases answer with
      | ok value => exact released
      | error error => rfl

theorem afterStop_live {ledger : Ledger} {slices rest : List Slice} (handle : Option Handle)
    (answer : Except Sandbox.Error Unit) (live : ledger.live.Perm (slices ++ rest)) :
    (ledger.afterStop handle slices answer).live.Perm
      ((unconfirmed handle slices answer).flatMap PendingStop.slices ++ rest) := by
  cases handle with
  | none => exact releaseAll_live live
  | some handle =>
      cases answer with
      | ok value => exact releaseAll_live live
      | error error =>
          change ledger.live.Perm ([_].flatMap PendingStop.slices ++ rest)
          rw [List.flatMap_singleton]
          exact live

/-- Stops were deferred in addition to those that were, and only their slices were kept. -/
structure Retains (before after : Ledger) (stops : List PendingStop) : Prop where
  deferred : after.deferred = before.deferred ++ stops
  live : after.live.Perm (before.live ++ stops.flatMap PendingStop.slices)

/-- What was taken for two sandboxes is given back after their stops. -/
theorem Takes.retains {before middle : Ledger} {slices others : List Slice}
    (takes : before.Takes middle (slices ++ others)) (first second : Option Handle)
    (answer other : Except Sandbox.Error Unit) :
    before.Retains ((middle.afterStop first slices answer).afterStop second others other)
      (unconfirmed first slices answer ++ unconfirmed second others other) where
  deferred := by
    rw [afterStop_deferred, afterStop_deferred, takes.deferred, List.append_assoc]
  live := by
    have taken : middle.live.Perm (slices ++ (others ++ before.live)) := by
      rw [takes.live, ← List.append_assoc slices]
      exact List.perm_append_comm
    have settled := (afterStop_live first answer taken).trans (List.perm_append_comm_assoc _ _ _)
    refine (afterStop_live second other settled).trans ?_
    rw [List.flatMap_append, ← List.append_assoc]
    exact List.perm_append_comm.trans (List.perm_append_comm.append_left _)

end Ledger

end BuildBench.Cpu

namespace BuildBench.Run

open BuildBench.Definition BuildBench.Entry BuildBench.Files

variable {σ τ : Type}

def stopCalls (handle : Option Sandbox.Handle) (answer : Except Sandbox.Error Unit) :
    List Event :=
  handle.toList.map (.stop · answer)

namespace Course

/-- What is to be stopped again after this course, given how the stop of its database was answered. -/
def databaseUnstopped (course : Course) (answer : Except Sandbox.Error Unit) :
    List Cpu.PendingStop :=
  Cpu.unconfirmed (course.database?.map Started.handle)
    (course.database?.bind (·.spec.cpus)).toList answer

def clientUnstopped (course : Course) (answer : Except Sandbox.Error Unit) :
    List Cpu.PendingStop :=
  Cpu.unconfirmed (course.clientSpec?.map fun _ => .completed)
    (course.clientSpec?.bind (·.cpus)).toList answer

def unstopped (course : Course) (databaseStop clientStop : Except Sandbox.Error Unit) :
    List Cpu.PendingStop :=
  course.databaseUnstopped databaseStop ++ course.clientUnstopped clientStop

end Course

namespace Action

/-- A stop was called for, and what becomes of the slices depends on its answer alone. -/
structure Stops (action : Action σ τ Unit) (bench : Bench σ τ) (handle : Option Sandbox.Handle)
    (slices : List Cpu.Slice) (answer : Except Sandbox.Error Unit) : Prop where
  calls : (action bench).2.calls = bench.calls ++ stopCalls handle answer
  ledger : (action bench).2.ledger = bench.ledger.afterStop handle slices answer

theorem releaseAll_stops (slices : List Cpu.Slice) (bench : Bench σ τ) :
    Stops (releaseAll slices) bench none slices (.ok ()) where
  calls := (List.append_nil _).symm
  ledger := rfl

/-- A sandbox is stopped, and a failure is reported before its slices are deferred. -/
theorem stop_stops (host : Host σ) (handle : Sandbox.Handle) (slices : List Cpu.Slice)
    (notice : Notice) (bench : Bench σ τ) :
    Stops (do
      match ← Action.stop host handle with
      | .ok () => releaseAll slices
      | .error _ =>
          report notice
          defer handle slices) bench (some handle) slices (Action.stop host handle bench).1 := by
  have stopped := Action.stop_makes host bench handle
  cases answer : (Action.stop host handle bench).1 with
  | ok value =>
      rw [answer] at stopped
      constructor
      · rw [bind_apply, answer]
        exact stopped.calls
      · rw [bind_apply, answer]
        change (Action.stop host handle bench).2.ledger.releaseAll slices = _
        rw [stopped.ledger]
        rfl
  | error error =>
      rw [answer] at stopped
      have noted : Makes (do report notice; report .stopUnconfirmed)
          (Action.stop host handle bench).2 [] :=
        (report_makes _ _).bind_quiet fun _ _ => report_makes _ _
      constructor
      · rw [bind_apply, answer]
        exact noted.calls.trans (by rw [stopped.calls]; simp [stopCalls])
      · rw [bind_apply, answer]
        change ((report notice >>= fun _ => report .stopUnconfirmed)
          (Action.stop host handle bench).2).2.ledger.defer handle slices = _
        rw [noted.ledger, stopped.ledger]
        rfl

theorem retryStop_stops (host : Host σ) (stop : Cpu.PendingStop) (bench : Bench σ τ) :
    Stops (retryStop host stop) bench (some stop.handle) stop.slices
      (Action.stop host stop.handle bench).1 :=
  stop_stops host stop.handle stop.slices .stopFailedAgain bench

/-- Retrying calls for stops and for nothing else. -/
theorem retryAll_calls (host : Host σ) (stops : List Cpu.PendingStop) (bench : Bench σ τ) :
    ∃ made, (retryAll host stops bench).2.calls = bench.calls ++ made ∧
      ∀ event ∈ made, ∃ handle answer, event = .stop handle answer := by
  induction stops generalizing bench with
  | nil => exact ⟨[], (List.append_nil _).symm, fun event member => by cases member⟩
  | cons stop rest ih =>
      have first := retryStop_stops host stop bench
      obtain ⟨made, calls, stops⟩ := ih (retryStop host stop bench).2
      refine ⟨_, calls.trans (by rw [first.calls, List.append_assoc]), ?_⟩
      intro event member
      rcases List.mem_append.mp member with own | later
      · obtain ⟨handle, _, rfl⟩ := List.mem_map.mp own
        exact ⟨handle, _, rfl⟩
      · exact stops event later

end Action

theorem Slot.retryDeferred_calls (host : Host σ) (bench : Bench σ τ) :
    ∃ made, (Slot.retryDeferred host bench).2.calls = bench.calls ++ made ∧
      ∀ event ∈ made, ∃ handle answer, event = .stop handle answer := by
  unfold Slot.retryDeferred
  rw [Action.bind_apply, Action.get_apply]
  cases bench.ledger.awaitsStops with
  | true =>
      exact Action.retryAll_calls host bench.ledger.deferred
        { bench with ledger := bench.ledger.withoutDeferred }
  | false => exact ⟨[], (List.append_nil _).symm, fun event member => by cases member⟩

namespace Pass

theorem settle_stops (host : Host σ) (handle : Option Sandbox.Handle) (slice : Option Cpu.Slice)
    (bench : Bench σ τ) :
    ∃ answer, Action.Stops (settle host handle slice) bench handle slice.toList answer := by
  cases handle with
  | none => exact ⟨_, Action.releaseAll_stops slice.toList bench⟩
  | some handle => exact ⟨_, Action.stop_stops host handle slice.toList .stopFailed bench⟩

theorem removeDirectory_makes (host : Host σ) (directory : Option String) (bench : Bench σ τ) :
    Action.Makes (removeDirectory host directory) bench [] := by
  cases directory with
  | none => exact Action.Makes.pure ()
  | some path =>
      refine (Action.change_makes host bench _ _).bind_quiet fun answer bench => ?_
      cases answer with
      | ok value => exact Action.Makes.pure ()
      | error cause => exact Action.report_makes _ _

/-- The database is stopped first, then the client. -/
theorem giveBack_stops (host : Host σ) (held : Held) (bench : Bench σ τ) :
    ∃ databaseStop clientStop,
      (giveBack host held bench).2.calls =
        bench.calls ++ stopCalls held.database databaseStop ++ stopCalls held.client clientStop ∧
      (giveBack host held bench).2.ledger =
        (bench.ledger.afterStop held.database held.databaseSlice.toList databaseStop).afterStop
          held.client held.clientSlice.toList clientStop := by
  obtain ⟨databaseStop, database⟩ :=
    settle_stops host held.database held.databaseSlice bench
  obtain ⟨clientStop, client⟩ := settle_stops host held.client held.clientSlice
    (settle host held.database held.databaseSlice bench).2
  have removed := removeDirectory_makes host held.directory
    (settle host held.client held.clientSlice
      (settle host held.database held.databaseSlice bench).2).2
  refine ⟨databaseStop, clientStop, ?_, ?_⟩
  · exact removed.calls.trans (by rw [client.calls, database.calls, List.append_nil])
  · exact removed.ledger.trans (by rw [client.ledger, database.ledger])

/-- What a run took is given back, but for the slices of sandboxes of its course that were stopped
without being confirmed. -/
theorem Stands.giveBack_retains {pass : Pass} {before : Bench σ τ} {course : Course}
    {scene : Scene σ τ} (host : Host σ) (stands : pass.Stands before course scene) :
    ∃ databaseStop clientStop,
      (giveBack host scene.held scene.bench).2.calls =
        before.calls ++ course.calls pass.settings.layout ++
          stopCalls (course.database?.map Started.handle) databaseStop ++
          stopCalls (course.clientSpec?.map fun _ => .completed) clientStop ∧
      before.ledger.Retains (giveBack host scene.held scene.bench).2.ledger
        (course.unstopped databaseStop clientStop) := by
  obtain ⟨databaseStop, clientStop, calls, ledger⟩ := giveBack_stops host scene.held scene.bench
  refine ⟨databaseStop, clientStop, ?_, ?_⟩
  · rw [calls, stands.calls, stands.database, stands.client]
  · have retains := stands.ledger.retains scene.held.database scene.held.client databaseStop
      clientStop
    rw [← ledger] at retains
    have database : Cpu.unconfirmed scene.held.database scene.held.databaseSlice.toList
        databaseStop = course.databaseUnstopped databaseStop := by
      rw [Course.databaseUnstopped, stands.database]
      cases started : course.database? with
      | none => rfl
      | some database =>
          rw [← stands.databaseCpus database.spec (course.databaseSpec_of_database started)]
          rfl
    have client : Cpu.unconfirmed scene.held.client scene.held.clientSlice.toList clientStop =
        course.clientUnstopped clientStop := by
      rw [Course.clientUnstopped, stands.client]
      cases asked : course.clientSpec? with
      | none => rfl
      | some spec =>
          rw [← stands.clientCpus spec asked]
          rfl
    rw [database, client] at retains
    exact retains

def opening (host : Host σ) (settings : Settings) (job : Job) : Action σ τ Pass := do
  let runId ← Action.onHost host.newRunId
  let started ← Action.onHost host.now
  return { settings, job, runId, started }

theorem opening_makes (host : Host σ) (settings : Settings) (job : Job) (bench : Bench σ τ) :
    Action.Makes (opening host settings job) bench [] :=
  (Action.onHost_makes _ _).bind_quiet fun _ _ =>
    (Action.onHost_makes _ _).bind_quiet fun _ _ => Action.Makes.pure _

def outcome (pass : Pass) (result : Except Error Report) : Outcome :=
  { runId := pass.runId, suite := pass.job.suite.name, topology := pass.job.topology.name, result }

def closing (collaborators : Collaborators σ τ) (pass : Pass) (result : Except Error Report) :
    Action σ τ Outcome := do
  match result with
  | .ok _ => pure ()
  | .error _ => Action.report .runFailed
  Action.push collaborators (pass.summary (pass.outcome result))
  return pass.outcome result

theorem perform_eq (collaborators : Collaborators σ τ) (settings : Settings) (job : Job)
    (slices : Except Cpu.Error Slices) :
    (perform collaborators settings job slices : Action σ τ Outcome) =
      opening collaborators.host settings job >>= fun pass =>
        runToEnd collaborators.host pass slices >>= closing collaborators pass :=
  rfl

theorem closing_outcome (collaborators : Collaborators σ τ) (pass : Pass)
    (result : Except Error Report) (bench : Bench σ τ) :
    (closing collaborators pass result bench).1 = pass.outcome result := by
  cases result <;> rfl

theorem perform_names (collaborators : Collaborators σ τ) (settings : Settings) (job : Job)
    (slices : Except Cpu.Error Slices) (bench : Bench σ τ) :
    (perform collaborators settings job slices bench).1.suite = job.suite.name ∧
      (perform collaborators settings job slices bench).1.topology = job.topology.name := by
  rw [perform_eq, Action.bind_apply, Action.bind_apply, closing_outcome]
  exact ⟨rfl, rfl⟩

theorem closing_makes (collaborators : Collaborators σ τ) (pass : Pass)
    (result : Except Error Report) (bench : Bench σ τ) :
    ∃ pushed, Action.Makes (closing collaborators pass result) bench
      (collaborators.sink.toList.map fun _ => .push (pass.summary (pass.outcome result)) pushed) := by
  have pushes (bench : Bench σ τ) := Action.push_makes collaborators
    (pass.summary (pass.outcome result)) bench
  cases result with
  | ok report =>
      obtain ⟨pushed, makes⟩ := pushes bench
      exact ⟨pushed, makes.bind_quiet fun _ _ => Action.Makes.pure _⟩
  | error error =>
      obtain ⟨pushed, makes⟩ := pushes (Action.report .runFailed bench).2
      exact ⟨pushed, (Action.report_makes _ _).bind
        (makes.bind_quiet fun _ _ => Action.Makes.pure _)⟩

end Pass

end BuildBench.Run
