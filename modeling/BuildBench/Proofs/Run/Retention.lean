import BuildBench.Proofs.Run.Deferral
import BuildBench.Proofs.Run.Placement

set_option autoImplicit false

/-! How long the slices of a sandbox stay reserved. Main statements: a stop that was deferred keeps
its slices until a stop of its sandbox is confirmed, and a pass defers the stop of a database that
was launched exactly if it fails. A sandbox whose launch failed has no handle to be stopped by, and
the error of the launch has no say in what becomes of its slice. -/

namespace BuildBench.Run

open BuildBench.Definition BuildBench.Entry BuildBench.Files

variable {σ τ : Type}

/-! ### Deferred stops -/

/-- A stop that was deferred still is, unless a stop of its sandbox was confirmed since. -/
def Bench.KeepsStops (before after : Bench σ τ) : Prop :=
  ∃ made, after.calls = before.calls ++ made ∧
    ∀ stop ∈ before.ledger.deferred, .stop stop.handle (.ok ()) ∉ made →
      stop ∈ after.ledger.deferred

namespace Bench.KeepsStops

variable {before middle after : Bench σ τ} {made : List Event}

theorem of_subset (calls : after.calls = before.calls ++ made)
    (kept : before.ledger.deferred ⊆ after.ledger.deferred) : before.KeepsStops after :=
  ⟨made, calls, fun _ member _ => kept member⟩

theorem trans (first : before.KeepsStops middle) (rest : middle.KeepsStops after) :
    before.KeepsStops after := by
  obtain ⟨made, calls, keeps⟩ := first
  obtain ⟨later, further, keepsOn⟩ := rest
  refine ⟨made ++ later, by rw [further, calls, List.append_assoc], ?_⟩
  intro stop member unconfirmed
  rw [List.mem_append, not_or] at unconfirmed
  exact keepsOn stop (keeps stop member unconfirmed.1) unconfirmed.2

end Bench.KeepsStops

theorem Slot.retryDeferred_keepsStops (host : Host σ) (bench : Bench σ τ) :
    bench.KeepsStops (Slot.retryDeferred host bench).2 := by
  obtain ⟨answers, each, calls, deferred⟩ := Slot.retryDeferred_retries host bench
  refine ⟨_, calls, ?_⟩
  intro stop member unconfirmed
  -- Each deferred stop was asked for once, with an answer of its own.
  rw [← List.map_fst_zip each.ge] at member
  obtain ⟨⟨asked, answer⟩, answered, rfl⟩ := List.mem_map.mp member
  cases answer with
  | ok value => exact absurd (List.mem_map.mpr ⟨_, answered, rfl⟩) unconfirmed
  | error error =>
      rw [deferred]
      exact List.mem_filterMap.mpr ⟨_, answered, rfl⟩

theorem Pass.perform_keepsStops (collaborators : Collaborators σ τ) (settings : Settings)
    (job : Job) (slices : Except Cpu.Error Slices) (bench : Bench σ τ) :
    bench.KeepsStops (perform collaborators settings job slices bench).2 := by
  obtain ⟨course, databaseStop, clientStop, pushed, -, calls, retains⟩ :=
    perform_course collaborators settings job slices bench
  rw [List.append_assoc, List.append_assoc, List.append_assoc] at calls
  refine .of_subset calls ?_
  rw [retains.deferred]
  exact List.subset_append_left _ _

theorem Slot.perform_keepsStops (collaborators : Collaborators σ τ) (settings : Settings)
    (build : Build) (suite : Suite) (slot : Slot) (bench : Bench σ τ) :
    bench.KeepsStops (slot.perform collaborators settings build suite bench).2 := by
  cases slot with
  | unknown name =>
      exact .of_subset (Action.report_makes .topologyUnknown bench).calls (List.Subset.refl _)
  | planned topology position =>
      exact (retryDeferred_keepsStops collaborators.host bench).trans
        (Pass.perform_keepsStops collaborators settings _ _ _)

/-! ### What becomes of a launch -/

namespace Course

variable {course : Course} {layout : Layout} {spec : Sandbox.Spec} {files : Tree}
  {error : Sandbox.Error} {handle : Sandbox.Handle}

theorem database_of_launched
    (launched : .launchDatabase spec files (.ok handle) ∈ course.calls layout) :
    course.database? = some ⟨spec, files, handle⟩ := by
  cases course <;> simp_all [calls, Started.call, database?]

theorem eq_launchFailed (failed : .launchDatabase spec files (.error error) ∈ course.calls layout) :
    course = .launchFailed spec files error := by
  cases course <;> simp_all [calls, Started.call]

theorem eq_clientFailed (failed : .launchClient spec files (.error error) ∈ course.calls layout) :
    ∃ database, course = .clientFailed database spec files error := by
  cases course <;> simp_all [calls, Started.call]

end Course

namespace Pass

/-- What a pass makes of its launches. A database that was launched is stopped, and if this fails
its slice stays with the stop. A database whose launch failed is not stopped, and its slice goes
back. A client whose launch failed is stopped as one that has exited. -/
structure Settles (before after : Bench σ τ) (made : List Event) : Prop where
  calls : after.calls = before.calls ++ made
  launched : ∀ spec files handle, .launchDatabase spec files (.ok handle) ∈ made →
    ∃ answer, .stop handle answer ∈ made ∧ ∀ error, answer = .error error →
      { handle, slices := spec.cpus.toList } ∈ after.ledger.deferred
  databaseFailed : ∀ spec files error, .launchDatabase spec files (.error error) ∈ made →
    (∀ handle answer, .stop handle answer ∉ made) ∧ before.ledger.Retains after.ledger []
  clientFailed : ∀ spec files error, .launchClient spec files (.error error) ∈ made →
    ∃ (database : Started) (databaseStop clientStop : Except Sandbox.Error Unit),
      .stop database.handle databaseStop ∈ made ∧ .stop .completed clientStop ∈ made ∧
      before.ledger.Retains after.ledger
        (Cpu.unconfirmed (some database.handle) database.spec.cpus.toList databaseStop ++
          Cpu.unconfirmed (some .completed) spec.cpus.toList clientStop)

/-- Where a failed launch is all that a pass could take CPUs for, none is taken in the end. -/
theorem Settles.released {before after : Bench σ τ} {made : List Event} {spec : Sandbox.Spec}
    {files : Tree} {error : Sandbox.Error} (settles : Settles before after made)
    (launched : .launchDatabase spec files (.error error) ∈ after.calls)
    (fresh : before.calls = []) (idle : before.ledger.live = []) : after.ledger.live = [] := by
  have calls := settles.calls
  rw [fresh, List.nil_append] at calls
  rw [calls] at launched
  have live := (settles.databaseFailed spec files error launched).2.live
  rw [idle] at live
  exact live.eq_nil

theorem perform_settles (collaborators : Collaborators σ τ) (settings : Settings) (job : Job)
    (slices : Except Cpu.Error Slices) (bench : Bench σ τ) :
    ∃ made, Settles bench (perform collaborators settings job slices bench).2 made := by
  obtain ⟨course, databaseStop, clientStop, pushed, -, calls, retains⟩ :=
    perform_course collaborators settings job slices bench
  rw [List.append_assoc, List.append_assoc, List.append_assoc] at calls
  -- Stops and summaries launch nothing, so each launch is one of the course.
  refine ⟨_, calls, ?_, ?_, ?_⟩
  · intro spec files handle launched
    have asked : .launchDatabase spec files (.ok handle) ∈ course.calls settings.layout := by
      simpa [stopCalls] using launched
    have started := Course.database_of_launched asked
    refine ⟨databaseStop, ?_, ?_⟩
    · simp [stopCalls, started]
    · rintro error rfl
      rw [retains.deferred]
      refine List.mem_append_right _ (List.mem_append_left _ ?_)
      simp [Course.databaseUnstopped, started, Cpu.unconfirmed]
  · intro spec files error failed
    have asked : .launchDatabase spec files (.error error) ∈ course.calls settings.layout := by
      simpa [stopCalls] using failed
    obtain rfl := Course.eq_launchFailed asked
    refine ⟨?_, retains⟩
    intro handle answer stopped
    simp [Course.calls, stopCalls, Course.database?, Course.clientSpec?] at stopped
  · intro spec files error failed
    have asked : .launchClient spec files (.error error) ∈ course.calls settings.layout := by
      simpa [stopCalls] using failed
    obtain ⟨database, rfl⟩ := Course.eq_clientFailed asked
    refine ⟨database, databaseStop, clientStop, ?_, ?_, retains⟩ <;>
      simp [stopCalls, Course.database?, Course.clientSpec?]

/-! ### A rehearsal -/

/-- Databases start but are never ready, and no stop is confirmed. -/
def stuckScript : Rehearsal.Script :=
  { Rehearsal.Script.start with notReady := some "down", stopFails := fun _ => true }

theorem stuckScript_defers {sink : Option (Sink τ)} {settings : Settings} {job : Job}
    {slice : Cpu.Slice} {ledger : Cpu.Ledger} {bench : Bench Rehearsal.Script τ}
    (usual : settings = .usual "/work" "bench" 8) (served : IsServed job)
    (reserved : bench.ledger.reserve slice = .ok ledger) (files : bench.files = workTree)
    (stuck : bench.host = stuckScript) :
    (perform { host := litteringHost, sink } settings job (.ok ⟨slice, none⟩) bench).2.ledger =
      ledger.defer (.container s!"db-{stuckScript.databases}") [slice] := by
  let handle : Sandbox.Handle := .container s!"db-{stuckScript.databases}"
  let pass := (opening litteringHost settings job bench).1
  let opened := (opening litteringHost settings job bench).2
  let scene : Scene Rehearsal.Script τ :=
    (carryOut litteringHost pass (.ok ⟨slice, none⟩) { bench := opened, held := .nothing }).2
  have reached : scene.held = { lodgedHeld ⟨slice, none⟩ with database := some handle } ∧
      scene.bench.ledger = ledger ∧ scene.bench.host.stopFails = fun _ => true := by
    have granted : (Slices.mk slice none).inOrder.foldlM Cpu.Ledger.reserve opened.ledger =
        .ok ledger := by
      have same : opened.ledger = bench.ledger := rfl
      simp [Slices.inOrder, same, reserved]
    have ready : opened.host = { stuckScript with runs := stuckScript.runs + 1 } := by
      rw [← stuck]
      rfl
    obtain ⟨tool, ended⟩ := workTree_prepares pass opened usual served granted files
    simp only [scene]
    rw [carryOut_eq, Step.bind_apply, ended, ready]
    exact ⟨rfl, rfl, rfl⟩
  obtain ⟨held, kept, fails⟩ := reached
  have stopped := Action.stop_stops litteringHost handle [slice] .stopFailed scene.bench
  have refused : (Action.stop litteringHost handle scene.bench).1 =
      .error (.nonZeroExit 1 "daemon") := by
    change (if scene.bench.host.stopFails handle = true then _ else _) = _
    rw [fails]
    rfl
  rw [refused] at stopped
  have removed := removeDirectory_makes litteringHost (some "/work/rbs-000000")
    (settle litteringHost none none
      (settle litteringHost (some handle) (some slice) scene.bench).2).2
  obtain ⟨pushed, closed⟩ := closing_makes { host := litteringHost, sink } pass
    (runToEnd litteringHost pass (.ok ⟨slice, none⟩) opened).1
    (runToEnd litteringHost pass (.ok ⟨slice, none⟩) opened).2
  rw [perform_eq, Action.bind_apply, Action.bind_apply, closed.ledger]
  change (giveBack litteringHost scene.held scene.bench).2.ledger = _
  rw [held, ← kept]
  exact removed.ledger.trans stopped.ledger

end Pass

end BuildBench.Run
