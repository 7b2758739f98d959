import BuildBench.Proofs.Run.Admission
import BuildBench.Proofs.Run.Deferral
import BuildBench.Rehearsal.Script

set_option autoImplicit false

/-! What comes of trying deferred stops again. Main statement: each deferred stop is called for once
and in order, those that fail stay deferred with their slices, and the slices of the others, but no
more, go back to the pool; so the ledger covers its deferred stops as it did before. -/

namespace BuildBench.Cpu

/-- A sound ledger in which every slice of a deferred stop is reserved, as often as such stops hold
it. -/
structure Ledger.Covers (ledger : Ledger) : Prop extends ledger.Sound where
  covered : ledger.pinned.Subperm ledger.live

namespace Ledger

theorem Sound.releaseAll {ledger : Ledger} (sound : ledger.Sound) (slices : List Slice) :
    (ledger.releaseAll slices).Sound := by
  induction slices generalizing ledger with
  | nil => exact sound
  | cons slice rest ih => exact ih (sound.release slice)

theorem Sound.withDeferred {ledger : Ledger} (sound : ledger.Sound)
    (deferred : List PendingStop) : { ledger with deferred }.Sound :=
  ⟨⟨sound.apart, sound.inside⟩, sound.filled⟩

/-- The reservations of a ledger that covers its deferred stops are theirs and some others. -/
theorem Covers.accounts {ledger : Ledger} (covers : ledger.Covers) :
    ∃ others, ledger.Accounts others := by
  obtain ⟨reserved, same, sublist⟩ := covers.covered
  obtain ⟨others, rearranged⟩ := sublist.exists_perm_append
  exact ⟨others, rearranged.trans (same.append_right others)⟩

theorem Accounts.covers {ledger : Ledger} {others : List Slice} (accounts : ledger.Accounts others)
    (sound : ledger.Sound) : ledger.Covers where
  toSound := sound
  covered := ((List.sublist_append_left _ _).subperm).trans accounts.symm.subperm

end Ledger

end BuildBench.Cpu

namespace BuildBench.Run

variable {σ τ : Type}

/-! ### Answered stops -/

/-- The slices of stops are those that become free and those that are still held. -/
theorem slices_perm (answered : List (Cpu.PendingStop × Except Sandbox.Error Unit)) :
    ((answered.map Prod.fst).flatMap Cpu.PendingStop.slices).Perm
      (answered.flatMap freed ++
        (answered.filterMap stillOwed?).flatMap Cpu.PendingStop.slices) := by
  induction answered with
  | nil => exact List.Perm.refl []
  | cons asked rest ih =>
      obtain ⟨stop, answer⟩ := asked
      cases answer with
      | ok value =>
          rw [List.map_cons, List.flatMap_cons, List.flatMap_cons,
            List.filterMap_cons_none rfl, List.append_assoc]
          exact ih.append_left stop.slices
      | error error =>
          have still : stillOwed? (stop, .error error) = some stop := rfl
          rw [List.map_cons, List.flatMap_cons, List.flatMap_cons, List.filterMap_cons_some still,
            List.flatMap_cons]
          exact (ih.append_left stop.slices).trans (List.perm_append_comm_assoc _ _ _)

section Answers

variable {ledger : Cpu.Ledger} {others : List Cpu.Slice}
  {answered : List (Cpu.PendingStop × Except Sandbox.Error Unit)}

/-- The reservations are what becomes free, what is still held for stops, and others. -/
theorem reserved_perm (asked : answered.map Prod.fst = ledger.deferred)
    (accounts : ledger.Accounts others) :
    ledger.withoutDeferred.live.Perm (answered.flatMap freed ++
      ((answered.filterMap stillOwed?).flatMap Cpu.PendingStop.slices ++ others)) := by
  have parts := slices_perm answered
  rw [asked] at parts
  rw [← List.append_assoc]
  exact accounts.trans (parts.append_right others)

theorem afterAnswers_accounts (asked : answered.map Prod.fst = ledger.deferred)
    (accounts : ledger.Accounts others) :
    (afterAnswers ledger.withoutDeferred answered).Accounts others := by
  rw [afterAnswers_eq]
  exact Cpu.Ledger.releaseAll_live (reserved_perm asked accounts)

/-- Only what became free left the reservations. -/
theorem afterAnswers_live (asked : answered.map Prod.fst = ledger.deferred)
    (accounts : ledger.Accounts others) :
    ledger.live.Perm
      (answered.flatMap freed ++ (afterAnswers ledger.withoutDeferred answered).live) := by
  have reserved := reserved_perm asked accounts
  have left := Cpu.Ledger.releaseAll_live reserved
  rw [afterAnswers_eq]
  exact reserved.trans (left.symm.append_left _)

theorem afterAnswers_sound (sound : ledger.Sound) : (afterAnswers ledger answered).Sound := by
  rw [afterAnswers_eq]
  exact (sound.releaseAll _).withDeferred _

/-- When all stops fail they are deferred again, in the order in which they were. -/
theorem afterAnswers_failed (failed : ∀ asked ∈ answered, ∃ error, asked.2 = .error error) :
    afterAnswers ledger answered =
      { ledger with deferred := ledger.deferred ++ answered.map Prod.fst } := by
  have nothing : answered.flatMap freed = [] := by
    rw [List.flatMap_eq_nil_iff]
    rintro ⟨stop, answer⟩ member
    obtain ⟨error, rfl⟩ := failed _ member
    rfl
  have all : answered.filterMap stillOwed? = answered.map Prod.fst := by
    rw [← List.filterMap_eq_map]
    apply List.filterMap_congr
    rintro ⟨stop, answer⟩ member
    obtain ⟨error, rfl⟩ := failed _ member
    rfl
  rw [afterAnswers_eq, nothing, all]
  rfl

end Answers

/-! ### Main result -/

/-- What comes of trying the deferred stops of a bench again, given how each was answered. -/
structure SettlesDeferred (before after : Bench σ τ)
    (answers : List (Except Sandbox.Error Unit)) : Prop where
  /-- Each is called for once, in the order in which they were deferred. -/
  each : answers.length = before.ledger.deferred.length
  calls : after.calls = before.calls ++
    (before.ledger.deferred.zip answers).map fun (stop, answer) => .stop stop.handle answer
  deferred : after.ledger.deferred = (before.ledger.deferred.zip answers).filterMap stillOwed?
  live : before.ledger.live.Perm
    ((before.ledger.deferred.zip answers).flatMap freed ++ after.ledger.live)
  available : after.ledger.available = before.ledger.available +
    Cpu.Slice.totalLength ((before.ledger.deferred.zip answers).flatMap freed)
  covers : after.ledger.Covers
  unconfirmed : (∀ answer ∈ answers, ∃ error, answer = .error error) →
    after.ledger = before.ledger

/-- Whatever a host answers, trying the deferred stops again calls for each of them once, and takes
exactly the confirmed ones with their slices out of the ledger. -/
theorem deferred_stops_settle (host : Host σ) (bench : Bench σ τ) (covers : bench.ledger.Covers) :
    SettlesDeferred bench (Action.retryStops host bench).2
        (host.stopAll bench.ledger.deferred bench.host).1 ∧
      (Action.retryStops host bench).2.host =
        (host.stopAll bench.ledger.deferred bench.host).2 := by
  obtain ⟨retries, ends⟩ := Action.retryAll_retries host bench.ledger.deferred
    { bench with ledger := bench.ledger.withoutDeferred }
  obtain ⟨others, accounts⟩ := covers.accounts
  refine ⟨?_, ends⟩
  generalize (host.stopAll bench.ledger.deferred bench.host).1 = answers at retries
  have ledger : (Action.retryStops host bench).2.ledger =
      afterAnswers bench.ledger.withoutDeferred (bench.ledger.deferred.zip answers) :=
    retries.ledger
  have asked : (bench.ledger.deferred.zip answers).map Prod.fst = bench.ledger.deferred :=
    List.map_fst_zip (Nat.le_of_eq retries.each.symm)
  have sound : (Action.retryStops host bench).2.ledger.Sound := by
    rw [ledger]
    exact afterAnswers_sound (covers.toSound.withDeferred [])
  have live := afterAnswers_live asked accounts
  rw [← ledger] at live
  refine ⟨retries.each, retries.calls, ?_, live, ?_, ?_, ?_⟩
  · exact retries.deferred
  · -- What is available and what is reserved add up to the same pool before and after.
    have pool : (Action.retryStops host bench).2.ledger.pool = bench.ledger.pool := by
      rw [ledger, afterAnswers_eq]
      exact Cpu.Ledger.releaseAll_pool _ _
    have before := covers.toSound.available_add
    have after := sound.available_add
    have lengths := Cpu.Slice.totalLength_perm live
    rw [Cpu.Slice.totalLength_append] at lengths
    omega
  · have accounted := afterAnswers_accounts asked accounts
    rw [← ledger] at accounted
    exact accounted.covers sound
  · intro failed
    rw [ledger, afterAnswers_failed, asked]
    · rfl
    · rintro ⟨stop, answer⟩ member
      exact failed answer (List.of_mem_zip member).2

/-- A host whose first stops fail, as many as it has databases. -/
def reluctantHost : Host Rehearsal.Script :=
  { Rehearsal.host ⟨0, 0⟩ with
    stop := fun _ script =>
      match script.databases with
      | 0 => (.ok (), script)
      | left + 1 => (.error (.nonZeroExit 1 "daemon"), { script with databases := left }) }

/-- One sandbox was deferred twice, the second time without slices, and one reservation belongs to
no deferred stop. -/
def overdueBench : Bench Rehearsal.Script Unit where
  host := { Rehearsal.Script.start with databases := 1 }
  sink := ()
  files := .empty
  journal := []
  ledger :=
    { pool := 8
      live := [Cpu.sliceAt 4 2, Cpu.sliceAt 0 2, Cpu.sliceAt 6 1, Cpu.sliceAt 2 2]
      deferred := [
        { handle := .container "db-0", slices := [Cpu.sliceAt 0 2] },
        { handle := .container "db-0", slices := [] },
        { handle := .container "db-1", slices := [Cpu.sliceAt 2 2, Cpu.sliceAt 4 2] }] }

theorem overdueBench_covers : overdueBench.ledger.Covers where
  apart := by
    have separate : overdueBench.ledger.live.Pairwise fun left right =>
        left.overlaps right = false := by decide
    exact separate.imp (Cpu.Slice.disjoint_of_not_overlaps _ _)
  inside := by decide
  filled := by decide
  covered := by decide

theorem deferred_stops_settle_rehearsed :
    overdueBench.ledger.Covers ∧
      SettlesDeferred overdueBench (Action.retryStops reluctantHost overdueBench).2
        [.error (.nonZeroExit 1 "daemon"), .ok (), .ok ()] ∧
      (Action.retryStops reluctantHost overdueBench).2.ledger.deferred =
        [{ handle := .container "db-0", slices := [Cpu.sliceAt 0 2] }] ∧
      overdueBench.ledger.available = 1 ∧
      (Action.retryStops reluctantHost overdueBench).2.ledger.available = 5 := by
  obtain ⟨settles, -⟩ := deferred_stops_settle reluctantHost overdueBench overdueBench_covers
  exact ⟨overdueBench_covers, settles, settles.deferred, rfl, settles.available⟩

end BuildBench.Run
