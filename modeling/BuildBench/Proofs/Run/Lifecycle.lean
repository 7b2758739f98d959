import BuildBench.Proofs.Run.Agreement
import BuildBench.Proofs.Run.Ending
import BuildBench.Proofs.Run.Walk
import BuildBench.Rehearsal.Script

set_option autoImplicit false

/-! A pass from its beginning to its end. Main statement: it makes the calls of one course, stops
what it started, and tells the metrics store; its outcome depends on the course alone; and it
succeeds exactly when there is a way through all of its steps. -/

namespace BuildBench.Run.Pass

variable {σ τ : Type}

/-- Whatever course the steps took, the sandboxes of that course are stopped in the end, and their
slices stay reserved if a stop is not confirmed. -/
theorem runToEnd_course (host : Host σ) (pass : Pass) (slices : Except Cpu.Error Slices)
    (bench : Bench σ τ) :
    ∃ (course : Course) (databaseStop clientStop : Except Sandbox.Error Unit),
      course.Explains (runToEnd host pass slices bench).1 ∧
      (runToEnd host pass slices bench).2.calls =
        bench.calls ++ course.calls pass.settings.layout ++
          stopCalls (course.database?.map Started.handle) databaseStop ++
          stopCalls (course.clientSpec?.map fun _ => .completed) clientStop ∧
      bench.ledger.Retains (runToEnd host pass slices bench).2.ledger
        (course.unstopped databaseStop clientStop) := by
  obtain ⟨course, stands, explains⟩ := carryOut_course host pass slices bench
  obtain ⟨databaseStop, clientStop, calls, retains⟩ := stands.giveBack_retains host
  exact ⟨course, databaseStop, clientStop, explains, calls, retains⟩

theorem perform_course (collaborators : Collaborators σ τ) (settings : Settings) (job : Job)
    (slices : Except Cpu.Error Slices) (bench : Bench σ τ) :
    ∃ (course : Course) (databaseStop clientStop : Except Sandbox.Error Unit)
      (pushed : Except MetricsError Unit),
      course.Explains (perform collaborators settings job slices bench).1.result ∧
      (perform collaborators settings job slices bench).2.calls =
        bench.calls ++ course.calls settings.layout ++
          stopCalls (course.database?.map Started.handle) databaseStop ++
          stopCalls (course.clientSpec?.map fun _ => .completed) clientStop ++
          collaborators.sink.toList.map (fun _ => .push
            ((opening collaborators.host settings job bench).1.summary
              (perform collaborators settings job slices bench).1) pushed) ∧
      bench.ledger.Retains (perform collaborators settings job slices bench).2.ledger
        (course.unstopped databaseStop clientStop) := by
  have opened := opening_makes collaborators.host settings job bench
  obtain ⟨course, databaseStop, clientStop, explains, calls, retains⟩ :=
    runToEnd_course collaborators.host (opening collaborators.host settings job bench).1 slices
      (opening collaborators.host settings job bench).2
  obtain ⟨pushed, closed⟩ := closing_makes collaborators
    (opening collaborators.host settings job bench).1 _
    (runToEnd collaborators.host (opening collaborators.host settings job bench).1 slices
      (opening collaborators.host settings job bench).2).2
  rw [opened.calls, List.append_nil] at calls
  rw [opened.ledger] at retains
  simp only [perform_eq, Action.bind_apply, closing_outcome]
  refine ⟨course, databaseStop, clientStop, pushed, explains, ?_, ?_⟩
  · rw [closed.calls, calls]
    rfl
  · rw [closed.ledger]
    exact retains

theorem perform_calls (collaborators : Collaborators σ τ) (settings : Settings) (job : Job)
    (slices : Except Cpu.Error Slices) (bench : Bench σ τ) :
    ∃ (course : Course) (databaseStop clientStop : Except Sandbox.Error Unit)
      (pushed : Except MetricsError Unit),
      course.Explains (perform collaborators settings job slices bench).1.result ∧
      (perform collaborators settings job slices bench).2.calls =
        bench.calls ++ course.calls settings.layout ++
          stopCalls (course.database?.map Started.handle) databaseStop ++
          stopCalls (course.clientSpec?.map fun _ => .completed) clientStop ++
          collaborators.sink.toList.map fun _ => .push
            ((opening collaborators.host settings job bench).1.summary
              (perform collaborators settings job slices bench).1) pushed := by
  obtain ⟨course, databaseStop, clientStop, pushed, explains, calls, -⟩ :=
    perform_course collaborators settings job slices bench
  exact ⟨course, databaseStop, clientStop, pushed, explains, calls⟩

theorem perform_result (collaborators : Collaborators σ τ) (settings : Settings) (job : Job)
    (slices : Except Cpu.Error Slices) (bench : Bench σ τ) :
    (perform collaborators settings job slices bench).1.result =
      (carryOut collaborators.host (opening collaborators.host settings job bench).1 slices
        { bench := (opening collaborators.host settings job bench).2, held := .nothing }).1 := by
  rw [perform_eq, Action.bind_apply, Action.bind_apply, closing_outcome]
  rfl

theorem perform_ok_iff_walk (collaborators : Collaborators σ τ) (settings : Settings) (job : Job)
    (slices : Except Cpu.Error Slices) (bench : Bench σ τ) (report : Report) :
    (perform collaborators settings job slices bench).1.result = .ok report ↔
      ∃ walk : Walk collaborators.host (opening collaborators.host settings job bench).1 slices
        (opening collaborators.host settings job bench).2, walk.report = report := by
  rw [perform_result, ← carryOut_leads]
  constructor
  · intro succeeded
    exact ⟨_, Prod.ext succeeded rfl⟩
  · rintro ⟨last, led⟩
    exact congrArg Prod.fst led

/-- A pass at any position, whatever anyone answers. First come the calls of its course: the
database is launched at most once, awaited only if it was launched, the client is run at most once
and only if the database was ready, and the database is told to shut down exactly if the client has
run. Then the database is stopped if and only if it was launched, and the client's sandbox if and only
if it was asked for. Last, the metrics store is told if there is one. How stops and shutdowns are
answered, and whether and how a metrics store answers, changes nothing about the outcome. The pass
succeeds exactly if every step does. -/
theorem perform_lifecycle (collaborators : Collaborators σ τ) (settings : Settings) (job : Job)
    (position : Nat) (bench : Bench σ τ) :
    let slices := (plan job.topology job.suite.client position).slices
    (∃ (course : Course) (databaseStop clientStop : Except Sandbox.Error Unit)
      (pushed : Except MetricsError Unit),
      course.Explains (perform collaborators settings job slices bench).1.result ∧
      (perform collaborators settings job slices bench).2.calls =
        bench.calls ++ course.calls settings.layout ++
          stopCalls (course.database?.map Started.handle) databaseStop ++
          stopCalls (course.clientSpec?.map fun _ => .completed) clientStop ++
          collaborators.sink.toList.map fun _ => .push
            ((opening collaborators.host settings job bench).1.summary
              (perform collaborators settings job slices bench).1) pushed) ∧
    (∀ (υ : Type) (sink : Option (Sink υ))
      (stop : Sandbox.Handle → StateM σ (Except Sandbox.Error Unit))
      (answers : String → Nat → σ → Except ProbeError Unit) (other : Bench σ υ),
      bench.Alike other →
      (perform collaborators settings job slices bench).1 =
        (perform { host := collaborators.host.answering stop answers, sink } settings job slices
          other).1) ∧
    ∀ report, (perform collaborators settings job slices bench).1.result = .ok report ↔
      ∃ walk : Walk collaborators.host (opening collaborators.host settings job bench).1 slices
        (opening collaborators.host settings job bench).2, walk.report = report := by
  intro slices
  refine ⟨perform_calls collaborators settings job slices bench, ?_, ?_⟩
  · intro υ sink stop answers other alike
    exact perform_outcome collaborators sink stop answers settings job slices alike
  · intro report
    exact perform_ok_iff_walk collaborators settings job slices bench report

def rehearsedJob : Job where
  build :=
    { id := ⟨1, 0⟩
      gitHash := "0"
      buildImage := "image"
      runImage := "image"
      artifacts := []
      payloads := .empty }
  suite :=
    { name := "suite"
      description := none
      topologies := ["one"]
      parameters := []
      client := .default
      source := "suite.yml" }
  topology :=
    { name := "one"
      kind := none
      servers := none
      resources := { cpus := { quantity := .finite false 1 0 }, memory := none } }

/-- A rehearsal whose stops all fail, and that tells nobody, ends like any other one. -/
theorem perform_lifecycle_rehearsed :
    (perform { host := Rehearsal.host ⟨0, 0⟩, sink := some Rehearsal.sink }
      (.usual "/work" "bench" 8) rehearsedJob
      (plan rehearsedJob.topology rehearsedJob.suite.client 0).slices
      (.start .start none .empty 8)).1 =
    (perform
      { host := (Rehearsal.host ⟨0, 0⟩).answering
          (fun _ => return .error (.nonZeroExit 1 "daemon")) fun _ _ _ => .ok ()
        sink := (none : Option (Sink Unit)) }
      (.usual "/work" "bench" 8) rehearsedJob
      (plan rehearsedJob.topology rehearsedJob.suite.client 0).slices
      (.start .start () .empty 8)).1 :=
  (perform_lifecycle { host := Rehearsal.host ⟨0, 0⟩, sink := some Rehearsal.sink }
    (.usual "/work" "bench" 8) rehearsedJob 0 (.start .start none .empty 8)).2.1
    Unit none _ _ (.start .start () .empty 8) ⟨rfl, rfl, rfl⟩

end BuildBench.Run.Pass
