import BuildBench.Proofs.Coordinator.Conservation
import BuildBench.Proofs.Coordinator.Placement
import BuildBench.Proofs.Run.Retention
import BuildBench.Sandbox.Docker

set_option autoImplicit false

/-! How long a coordinator keeps the slices of sandboxes. Main statement: what keeps a slice
reserved when a pass has ended is the deferred stop of a sandbox, and it does so until that stop is
confirmed; a launch that failed leaves no such stop, even if its sandbox may run. -/

namespace BuildBench.Coordinator

open BuildBench.Definition BuildBench.Entry BuildBench.Run

variable {σ τ : Type} {setup : Setup σ τ}

/-! ### Steps and runs -/

theorem step_keepsStops (stage : Stage) (state : State σ τ) :
    state.bench.KeepsStops (setup.step stage state).2.bench := by
  rcases setup.step_bench state stage with
    ⟨build, suite, slot, rest, files, outcomes, -, ran⟩ | ⟨made, -, -, calls, ledger⟩
  · rw [ran]
    exact slot.perform_keepsStops setup.collaborators setup.settings build suite state.bench
  · refine .of_subset calls ?_
    rw [ledger]
    exact List.Subset.refl _

theorem move_keepsStops {before after : Worker σ τ} {deed : Option Deed}
    (move : setup.Move before deed after) : before.bench.KeepsStops after.bench := by
  rcases Setup.move_bench move with rfl | ⟨calls, ledger⟩
  · exact step_keepsStops before.stage before.state
  · refine .of_subset (calls.trans (List.append_nil _).symm) ?_
    rw [ledger]
    exact List.Subset.refl _

theorem Setup.Onward.keepsStops {first last : Worker σ τ} (onward : setup.Onward first last) :
    first.bench.KeepsStops last.bench := by
  induction onward with
  | refl => exact .of_subset (List.append_nil _).symm (List.Subset.refl _)
  | move onward move ih => exact ih.trans (move_keepsStops move)

/-- Between any two steps the slices of a deferred stop are reserved. -/
theorem Setup.Reached.reserves {worker : Worker σ τ} (reached : setup.Reached worker)
    {stop : Cpu.PendingStop} (deferred : stop ∈ worker.bench.ledger.deferred) :
    ∀ slice ∈ stop.slices, slice ∈ worker.bench.ledger.live := by
  intro slice pinned
  have conserves := conserves_of_custody reached.custody
  exact conserves.live.mem_iff.mpr (List.mem_flatMap.mpr ⟨stop, deferred, pinned⟩)

/-! ### Main result -/

/-- What a pass makes of its launches is settled by whether they succeed, and not by the error: a
database that was launched keeps its slice unless its stop is confirmed, one whose launch failed
gives it back, and so does a client as soon as a stop of what has exited is confirmed, as the
`docker` client always does. As long as no stop of its sandbox is confirmed, a stop that was deferred
stays deferred, and its slices stay reserved. -/
theorem slices_retained (setup : Setup σ τ) :
    (∀ job slices bench, ∃ made,
      Pass.Settles bench
        (Pass.perform setup.collaborators setup.settings job slices bench).2 made) ∧
    (∀ first last, setup.Reached first → setup.Onward first last →
      ∃ made, last.bench.calls = first.bench.calls ++ made ∧
        ∀ stop ∈ first.bench.ledger.deferred, .stop stop.handle (.ok ()) ∉ made →
          stop ∈ last.bench.ledger.deferred ∧
          ∀ slice ∈ stop.slices, slice ∈ last.bench.ledger.live) ∧
    ∀ (π : Type) (program : Sandbox.Docker.Program π) (state : π),
      (Sandbox.Docker.stop program .completed state).1 = .ok () := by
  refine ⟨?_, ?_, ?_⟩
  · intro job slices bench
    exact Pass.perform_settles setup.collaborators setup.settings job slices bench
  · intro first last reached onward
    obtain ⟨made, calls, keeps⟩ := onward.keepsStops
    refine ⟨made, calls, ?_⟩
    intro stop deferred unconfirmed
    have kept := keeps stop deferred unconfirmed
    exact ⟨kept, (reached.onward onward).reserves kept⟩
  · intro π program state
    rfl

/-! A rehearsal in which a launch yields no id. -/

/-- A launch failed in a way that leaves open whether its sandbox runs on the slice: the client
program was killed, or it succeeded without naming the container. -/
inductive LeavesOpen (slice : Cpu.Slice) : Event → Prop
  | databaseKilled {spec : Sandbox.Spec} {files : Files.Tree} (cpus : spec.cpus = some slice) :
      LeavesOpen slice (.launchDatabase spec files (.error .killedBySignal))
  | databaseUnnamed {spec : Sandbox.Spec} {files : Files.Tree} (cpus : spec.cpus = some slice) :
      LeavesOpen slice (.launchDatabase spec files (.error .missingContainerId))
  | clientKilled {spec : Sandbox.Spec} {files : Files.Tree} (cpus : spec.cpus = some slice) :
      LeavesOpen slice (.launchClient spec files (.error .killedBySignal))

def unnamedScript : Rehearsal.Script :=
  { Rehearsal.Script.start with databaseError := some .missingContainerId }

/-- What a pass leaves whose database may run under a name that nobody was told. -/
def unnamedEnd : Bench Rehearsal.Script Unit :=
  (Pass.perform (Setup.withSuite 8).collaborators (Setup.withSuite 8).settings servedJob
    (.ok ⟨Cpu.sliceAt 0 1, none⟩) (.start unnamedScript () Pass.workTree 8)).2

theorem unnamedEnd_launches :
    ∃ spec files, spec.cpus = some (Cpu.sliceAt 0 1) ∧
      .launchDatabase spec files (.error .missingContainerId) ∈ unnamedEnd.calls := by
  let bench : Bench Rehearsal.Script Unit := .start unnamedScript () Pass.workTree 8
  have reserved : (Slices.mk (Cpu.sliceAt 0 1) none).inOrder.foldlM Cpu.Ledger.reserve
      bench.ledger = .ok servedLedger := rfl
  obtain ⟨later, spec, cpus, launches⟩ :=
    Pass.workTree_launches rfl servedJob_isServed reserved rfl
  have calls : unnamedEnd.calls = _ := launches
  refine ⟨spec, Pass.stockedTree, cpus, ?_⟩
  rw [calls]
  exact List.mem_cons_self

/-- A stop that fails keeps the slice of its database reserved, whatever others do. Where the launch
has failed nothing is reserved. -/
theorem slices_retained_rehearsed :
    (∃ first last handle, (Setup.withSuite 8).Reached first ∧ (Setup.withSuite 8).Onward first last ∧
      { handle, slices := [Cpu.sliceAt 0 1] } ∈ first.bench.ledger.deferred ∧
      Cpu.sliceAt 0 1 ∈ last.bench.ledger.live) ∧
    unnamedEnd.ledger.live = [] := by
  obtain ⟨passes, keeps, -⟩ := slices_retained (Setup.withSuite 8)
  constructor
  · obtain ⟨worker, bench, path, ran, stuck, files, -, ledger⟩ :=
      servedDelivery_runs Pass.stuckScript (.after servedDelivery.id)
    have accepted : (Setup.withSuite 8).Reached _ :=
      (Setup.Reached.start .start () suiteTree .undelivered).move (.accept servedDelivery rfl)
    have reached := accepted.ofPath path.path
    have reserved : bench.ledger.reserve (Cpu.sliceAt 0 1) = .ok servedLedger := by
      rw [ledger]
      rfl
    have defers : worker.bench.ledger = _ := (congrArg Bench.ledger ran).trans
      (Pass.stuckScript_defers rfl servedJob_isServed reserved files stuck)
    obtain ⟨handle, deferred⟩ : ∃ handle,
        { handle, slices := [Cpu.sliceAt 0 1] } ∈ worker.bench.ledger.deferred := by
      rw [defers]
      exact ⟨_, List.mem_cons_self⟩
    -- The host starts anew and knows nothing of the database, which confirms no stop.
    have onward : (Setup.withSuite 8).Onward worker _ :=
      Setup.Onward.refl.move (.meddle .start () Pass.workTree)
    obtain ⟨made, calls, each⟩ := keeps worker _ reached onward
    have nothing : made = [] := List.self_eq_append_right.mp calls
    have kept := each _ deferred (by rw [nothing]; exact List.not_mem_nil)
    exact ⟨worker, _, handle, reached, onward, deferred, kept.2 _ List.mem_cons_self⟩
  · obtain ⟨spec, files, -, launched⟩ := unnamedEnd_launches
    obtain ⟨made, settles⟩ := passes servedJob (.ok ⟨Cpu.sliceAt 0 1, none⟩)
      (.start unnamedScript () Pass.workTree 8)
    exact Pass.Settles.released settles launched rfl rfl

/-- So a sandbox may run on CPUs that are not reserved. -/
theorem unnamedEnd_releases :
    ¬∀ event ∈ unnamedEnd.calls, ∀ slice, LeavesOpen slice event →
      slice ∈ unnamedEnd.ledger.live := by
  intro reserved
  obtain ⟨spec, files, cpus, launched⟩ := unnamedEnd_launches
  have live := reserved _ launched (Cpu.sliceAt 0 1) (.databaseUnnamed cpus)
  obtain ⟨made, settles⟩ := Pass.perform_settles (Setup.withSuite 8).collaborators
    (Setup.withSuite 8).settings servedJob (.ok ⟨Cpu.sliceAt 0 1, none⟩)
    (.start unnamedScript () Pass.workTree 8)
  have released : unnamedEnd.ledger.live = [] := settles.released launched rfl rfl
  rw [released] at live
  cases live

end BuildBench.Coordinator
