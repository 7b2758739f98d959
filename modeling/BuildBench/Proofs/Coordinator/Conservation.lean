import BuildBench.Proofs.Coordinator.Calls
import BuildBench.Proofs.Run.Custody

set_option autoImplicit false

/-! The CPUs of a coordinator. Main statements: between any two passes and between any two iterations
the reservations are exactly the slices of the deferred stops; and in the journal of a coordinator
no sandbox is launched on CPUs that a database which may be alive occupies. -/

namespace BuildBench.Coordinator

open BuildBench.Definition BuildBench.Entry BuildBench.Run

variable {σ τ : Type} {setup : Setup σ τ} {cpus : Nat}

/-- No CPU is lost and none is given back twice: all that is reserved, and as often as it is, belongs
to deferred stops. -/
structure Conserves (cpus : Nat) (ledger : Cpu.Ledger) : Prop where
  pool : ledger.pool = cpus
  live : ledger.live.Perm (ledger.deferred.flatMap Cpu.PendingStop.slices)
  available : ledger.available + Cpu.Slice.totalLength
    (ledger.deferred.flatMap Cpu.PendingStop.slices) = cpus
  full : ledger.awaitsStops = false → ledger.available = cpus

theorem conserves_of_custody {bench : Bench σ τ} (custody : Custody cpus bench [] []) :
    Conserves cpus bench.ledger := by
  have live : bench.ledger.live.Perm (bench.ledger.deferred.flatMap Cpu.PendingStop.slices) := by
    have accounts := custody.accounts
    unfold Cpu.Ledger.Accounts at accounts
    rwa [List.append_nil] at accounts
  have available : bench.ledger.available + Cpu.Slice.totalLength
      (bench.ledger.deferred.flatMap Cpu.PendingStop.slices) = cpus := by
    rw [← Cpu.Slice.totalLength_perm live, ← custody.pool]
    exact custody.exclusive.available_add
  refine ⟨custody.pool, live, available, ?_⟩
  intro settled
  have none : bench.ledger.deferred = [] := by
    unfold Cpu.Ledger.awaitsStops at settled
    rwa [Bool.not_eq_false', List.isEmpty_iff] at settled
  rw [none] at available
  exact available

/-! ### Steps -/

theorem Stage.Calls.neutral {stage : Stage} {made : List Event} (listed : stage.Calls made)
    (other : stage.isPass = false) : ∀ event ∈ made, event.IsNeutral := by
  intro event member
  have request := listed.requests other event member
  cases event <;> first | exact ⟨rfl, fun _ => rfl⟩ | cases request

theorem custody_step {stage : Stage} {state : State σ τ}
    (custody : Custody cpus state.bench [] []) :
    Custody cpus (setup.step stage state).2.bench [] [] := by
  rcases setup.step_bench state stage with
    ⟨build, suite, slot, rest, files, outcomes, -, ran⟩ | ⟨made, other, listed, calls, ledger⟩
  · rw [ran]
    exact custody.slot setup.collaborators setup.settings build suite slot
  · exact custody.neutral calls ledger (listed.neutral other)

theorem custody_move {before after : Worker σ τ} {deed : Option Deed}
    (custody : Custody cpus before.state.bench [] []) (move : setup.Move before deed after) :
    Custody cpus after.state.bench [] [] := by
  rcases Setup.move_bench move with rfl | ⟨calls, ledger⟩
  · exact custody_step custody
  · exact custody.neutral (calls.trans (List.append_nil _).symm) ledger fun event member => by
      cases member

theorem Setup.Reached.custody {worker : Worker σ τ} (reached : setup.Reached worker) :
    Custody setup.settings.cpuCount worker.state.bench [] [] := by
  induction reached with
  | start host sink files cursor => exact Custody.start host sink files _
  | move reached move ih => exact custody_move ih move

/-! ### Main results -/

/-- Between any two steps, and so between any two passes and any two iterations, and after any
sequence of activities, all reservations are those of the deferred stops. -/
theorem coordinator_conserves (setup : Setup σ τ) :
    (∀ worker, setup.Reached worker →
      Conserves setup.settings.cpuCount worker.state.bench.ledger) ∧
    ∀ host sink files cursor activities,
      Conserves setup.settings.cpuCount
        (setup.life (setup.start host sink files cursor) activities).bench.ledger := by
  constructor
  · intro worker reached
    exact conserves_of_custody reached.custody
  · intro host sink files cursor activities
    exact conserves_of_custody (setup.reached_life host sink files cursor activities).custody

theorem coordinator_conserves_rehearsed :
    Conserves 8 (Setup.rehearsed.next
      ⟨.resting, Setup.rehearsed.start .start none .empty .undelivered⟩).state.bench.ledger :=
  (coordinator_conserves Setup.rehearsed).1 _ (.move (.start .start none .empty .undelivered) .step)

/-- Between any two steps, and after any sequence of activities, every launch in the journal was
made on CPUs apart from those of every database that was launched before and whose stop was not
confirmed since. -/
theorem coordinator_launches_apart (setup : Setup σ τ) :
    (∀ worker, setup.Reached worker → LaunchesApart worker.state.bench.journal) ∧
    ∀ host sink files cursor activities,
      LaunchesApart
        (setup.life (setup.start host sink files cursor) activities).bench.journal := by
  have apart {worker : Worker σ τ} (reached : setup.Reached worker) :
      LaunchesApart worker.state.bench.journal :=
    launchesApart_of_apartFrom ((apartFrom_calls [] _).mp reached.custody.apart)
  constructor
  · intro worker reached
    exact apart reached
  · intro host sink files cursor activities
    exact apart (setup.reached_life host sink files cursor activities)

theorem coordinator_launches_apart_rehearsed :
    LaunchesApart (Setup.rehearsed.next
      ⟨.resting, Setup.rehearsed.start .start none .empty .undelivered⟩).state.bench.journal :=
  (coordinator_launches_apart Setup.rehearsed).1 _
    (.move (.start .start none .empty .undelivered) .step)

end BuildBench.Coordinator
