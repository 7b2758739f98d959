import BuildBench.Proofs.Run.Lifecycle
import BuildBench.Proofs.Run.Positions

set_option autoImplicit false

/-! What becomes of a run's wish for CPUs. Main statements: a run fails with a CPU error exactly if
its requests were refused or its slices cannot all be reserved, and with that very error; and what
keeps planned slices from being reserved is the pool or a reservation that was there before. -/

namespace BuildBench.Cpu

theorem Slice.not_overlaps_of_before {earlier later : Slice} (before : earlier.stop ≤ later.start) :
    earlier.overlaps later = false := by
  simp only [Slice.overlaps, Bool.and_eq_false_iff, decide_eq_false_iff_not]
  omega

theorem allocate_eq_error {request : Request} {position : Nat} {error : Error}
    (refused : allocate request position = .error error) :
    ∃ reason, error = .invalidRequest reason := by
  unfold allocate at refused
  cases counted : request.wholeCount with
  | error cause =>
      rw [counted] at refused
      exact ⟨cause.message, (Except.error.inj refused).symm⟩
  | ok count =>
      rw [counted] at refused
      dsimp only at refused
      split at refused
      · cases refused
      · exact ⟨_, (Except.error.inj refused).symm⟩

namespace Ledger

def reserveAll (ledger : Ledger) : List Slice → Except Error Ledger
  | [] => .ok ledger
  | slice :: rest =>
      match ledger.reserve slice with
      | .error error => .error error
      | .ok after => after.reserveAll rest

theorem reserveAll_eq_error {ledger : Ledger} {slices : List Slice} {error : Error}
    (apart : slices.Pairwise fun earlier later => earlier.overlaps later = false)
    (refused : ledger.reserveAll slices = .error error) :
    ∃ slice ∈ slices, (ledger.pool < slice.stop ∧ error = .exceedsPool slice ledger.pool) ∨
      ∃ live ∈ ledger.live, live.overlaps slice = true ∧ error = .overlap slice live := by
  induction slices generalizing ledger with
  | nil => cases refused
  | cons slice rest ih =>
      rw [List.pairwise_cons] at apart
      unfold reserveAll at refused
      cases reserved : ledger.reserve slice with
      | error cause =>
          rw [reserved] at refused
          cases refused
          exact ⟨slice, List.mem_cons_self, reserve_eq_error reserved⟩
      | ok after =>
          rw [reserved] at refused
          obtain ⟨other, member, cause⟩ := ih apart.2 refused
          obtain ⟨-, -, rfl⟩ := reserve_eq_ok reserved
          refine ⟨other, List.mem_cons_of_mem _ member, cause.imp id ?_⟩
          rintro ⟨live, present, overlaps, same⟩
          rcases List.mem_append.mp present with earlier | own
          · exact ⟨live, earlier, overlaps, same⟩
          · rw [List.mem_singleton.mp own, apart.1 other member] at overlaps
            cases overlaps

theorem reserveAll_fits {ledger after : Ledger} {slices : List Slice}
    (reserved : ledger.reserveAll slices = .ok after) :
    ∀ slice ∈ slices, slice.stop ≤ ledger.pool := by
  induction slices generalizing ledger with
  | nil =>
      intro slice member
      cases member
  | cons first rest ih =>
      unfold reserveAll at reserved
      cases granted : ledger.reserve first with
      | error error =>
          rw [granted] at reserved
          cases reserved
      | ok middle =>
          rw [granted] at reserved
          have later := ih reserved
          obtain ⟨fits, -, rfl⟩ := reserve_eq_ok granted
          intro slice member
          rcases List.mem_cons.mp member with rfl | other
          · exact fits
          · exact later slice other

end Ledger

end BuildBench.Cpu

namespace BuildBench.Run

open BuildBench.Definition BuildBench.Entry

variable {σ τ : Type}

/-! ### Planned slices -/

theorem plan_eq_error {topology : Topology} {client : Client} {position : Nat} {error : Cpu.Error}
    (refused : (plan topology client position).slices = .error error) :
    ∃ reason, error = .invalidRequest reason := by
  unfold plan at refused
  cases allocated : Cpu.allocate topology.resources.cpus position with
  | error cause =>
      simp only [allocated] at refused
      rw [← Except.error.inj refused]
      exact Cpu.allocate_eq_error allocated
  | ok database =>
      cases asked : client.resources with
      | none =>
          simp only [allocated, asked] at refused
          cases refused
      | some resources =>
          cases again : Cpu.allocate resources.cpus database.next with
          | error cause =>
              simp only [allocated, asked, again] at refused
              rw [← Except.error.inj refused]
              exact Cpu.allocate_eq_error again
          | ok allocation =>
              simp only [allocated, asked, again] at refused
              cases refused

theorem plan_spans {topology : Topology} {client : Client} {position : Nat} {granted : Slices}
    (planned : (plan topology client position).slices = .ok granted) :
    Spans position granted.inOrder (plan topology client position).next := by
  unfold plan at planned ⊢
  cases allocated : Cpu.allocate topology.resources.cpus position with
  | error error =>
      simp only [allocated] at planned
      cases planned
  | ok database =>
      obtain ⟨count, takes, rfl⟩ := Cpu.allocate_eq_ok.mp allocated
      cases asked : client.resources with
      | none =>
          simp only [allocated, asked] at planned ⊢
          rw [← Except.ok.inj planned]
          exact .sliceAt takes.pos
      | some resources =>
          cases again : Cpu.allocate resources.cpus (position + count) with
          | error error =>
              simp only [allocated, asked, again] at planned
              cases planned
          | ok allocation =>
              obtain ⟨others, alsoTakes, rfl⟩ := Cpu.allocate_eq_ok.mp again
              simp only [allocated, asked, again] at planned ⊢
              rw [← Except.ok.inj planned]
              exact (Spans.sliceAt takes.pos).append (.sliceAt alsoTakes.pos)

theorem Spans.apart {position next : Nat} {slices : List Cpu.Slice}
    (spans : Spans position slices next) :
    slices.Pairwise fun earlier later => earlier.overlaps later = false :=
  spans.ordered.imp Cpu.Slice.not_overlaps_of_before

def Slices.final (slices : Slices) : Cpu.Slice :=
  slices.client.getD slices.database

theorem Slices.final_mem (slices : Slices) : slices.final ∈ slices.inOrder := by
  unfold final inOrder
  cases slices.client with
  | none => exact List.mem_cons_self
  | some slice => exact List.mem_cons_of_mem _ List.mem_cons_self

theorem Spans.stop_le_final {position next : Nat} {slices : Slices}
    (spans : Spans position slices.inOrder next) :
    ∀ slice ∈ slices.inOrder, slice.stop ≤ slices.final.stop := by
  intro slice member
  have ordered := spans.ordered
  unfold Slices.inOrder at member ordered
  unfold Slices.final
  cases wanted : slices.client with
  | none =>
      rw [wanted] at member
      rw [List.mem_singleton.mp member]
      exact Nat.le_refl _
  | some client =>
      rw [wanted] at member ordered
      rw [Option.getD_some]
      rcases List.mem_cons.mp member with rfl | own
      · exact (List.pairwise_cons.mp ordered).1 client List.mem_cons_self |>.trans client.ordered
      · rw [List.mem_singleton.mp own]

/-- What becomes of a wish for CPUs. -/
def reservation (ledger : Cpu.Ledger) : Except Cpu.Error Slices → Except Cpu.Error Cpu.Ledger
  | .error error => .error error
  | .ok granted => ledger.reserveAll granted.inOrder

/-- When nothing is reserved, planned slices are refused exactly if the last of them goes beyond the
pool. -/
theorem reservation_eq_error_iff {ledger : Cpu.Ledger} {topology : Topology} {client : Client}
    {position : Nat} {granted : Slices} (empty : ledger.live = [])
    (planned : (plan topology client position).slices = .ok granted) :
    ((∃ error, reservation ledger (.ok granted) = .error error) ↔
      ledger.pool < granted.final.stop) ∧
    ∀ error, reservation ledger (.ok granted) = .error error →
      ∃ slice ∈ granted.inOrder, ledger.pool < slice.stop ∧
        error = .exceedsPool slice ledger.pool := by
  have spans := plan_spans planned
  have causes (error : Cpu.Error) (refused : reservation ledger (.ok granted) = .error error) :
      ∃ slice ∈ granted.inOrder, ledger.pool < slice.stop ∧
        error = .exceedsPool slice ledger.pool := by
    obtain ⟨slice, member, exceeds | ⟨live, present, _⟩⟩ :=
      Cpu.Ledger.reserveAll_eq_error spans.apart refused
    · exact ⟨slice, member, exceeds⟩
    · rw [empty] at present
      cases present
  refine ⟨⟨?_, ?_⟩, causes⟩
  · rintro ⟨error, refused⟩
    obtain ⟨slice, member, exceeds, -⟩ := causes error refused
    exact Nat.lt_of_lt_of_le exceeds (spans.stop_le_final slice member)
  · intro exceeds
    cases reserved : reservation ledger (.ok granted) with
    | error error => exact ⟨error, rfl⟩
    | ok after =>
        exact absurd (Cpu.Ledger.reserveAll_fits reserved granted.final granted.final_mem)
          (Nat.not_le_of_lt exceeds)

/-! ### Passes -/

/-- An error that a pass can meet once its CPUs are reserved. -/
def Error.isLater : Error → Bool
  | .unknownTopology _ | .cpu _ => false
  | _ => true

/-- Wherever a step begins, it is no want of CPUs that makes it fail. -/
def Step.FailsLater {α : Type} (step : Step σ τ α) : Prop :=
  ∀ scene, Step.Ends step scene (fun _ _ => True) fun error _ => error.isLater = true

namespace Step.FailsLater

variable {α β : Type}

theorem pure (value : α) : FailsLater (pure value : Step σ τ α) :=
  fun _ => Ends.pure trivial

theorem throw {error : Error} (later : error.isLater = true) :
    FailsLater (throw error : Step σ τ α) :=
  fun _ => Ends.throw later

theorem act (action : Action σ τ α) : FailsLater (act action) :=
  fun _ => Ends.act trivial

theorem hold (change : Held → Held) : FailsLater (hold change : Step σ τ Unit) :=
  fun _ => Ends.hold trivial

theorem take {ε : Type} {wording : ε → Error} (later : ∀ error, (wording error).isLater = true)
    (answer : Except ε α) : FailsLater (take wording answer : Step σ τ α) :=
  fun _ => Ends.take (fun _ _ => trivial) fun error _ => later error

theorem bind {step : Step σ τ α} {next : α → Step σ τ β} (first : step.FailsLater)
    (rest : ∀ value, (next value).FailsLater) : (step >>= next).FailsLater :=
  fun scene => Ends.bind _ (first scene) fun value after _ => rest value after

end Step.FailsLater

namespace Pass

theorem reserveSlices_reserves (granted : Slices) (before : Bench σ τ) :
    Step.Ends (reserveSlices granted) { bench := before, held := .nothing }
      (fun _ _ => ∃ after, before.ledger.reserveAll granted.inOrder = .ok after)
      fun error _ => ∃ cause, before.ledger.reserveAll granted.inOrder = .error cause ∧
        error = .cpu cause := by
  have first {cause : Cpu.Error} (refused : before.ledger.reserve granted.database = .error cause) :
      before.ledger.reserveAll granted.inOrder = .error cause := by
    rw [Slices.inOrder, Cpu.Ledger.reserveAll, refused]
  refine reserve_ends (fun ledger reserved => ?_) fun error refused => ⟨error, first refused, rfl⟩
  have rest : before.ledger.reserveAll granted.inOrder =
      ledger.reserveAll granted.client.toList := by
    rw [Slices.inOrder, Cpu.Ledger.reserveAll, reserved]
  apply Step.Ends.hold_bind
  rw [rest]
  cases granted.client with
  | none => exact ⟨ledger, rfl⟩
  | some slice =>
      refine reserve_ends (fun after reserved => ⟨after, ?_⟩) fun error refused => ⟨error, ?_, rfl⟩
      · rw [Option.toList_some, Cpu.Ledger.reserveAll, reserved]
        rfl
      · rw [Option.toList_some, Cpu.Ledger.reserveAll, refused]

section Later

variable (host : Host σ) (pass : Pass)

theorem chooseTool_error {client : Client} {error : Error}
    (refused : chooseTool client = .error error) : error.isLater = true := by
  unfold chooseTool at refused
  split at refused
  · cases refused
  · rw [← Except.error.inj refused]
    rfl

theorem makeDirectory_failsLater :
    Step.FailsLater (makeDirectory host pass : Step σ τ String) := by
  refine (Step.FailsLater.act _).bind fun suffix => (Step.FailsLater.act _).bind fun answer => ?_
  refine (Step.FailsLater.take (fun _ => rfl) answer).bind fun _ => ?_
  exact (Step.FailsLater.hold _).bind fun _ => Step.FailsLater.pure _

theorem placeArtifacts_failsLater (directory : String) :
    Step.FailsLater (placeArtifacts host pass directory : Step σ τ Unit) := by
  refine (Step.FailsLater.act _).bind fun answer => ?_
  refine (Step.FailsLater.take (fun _ => rfl) answer).bind fun placed => ?_
  dsimp only
  split
  · exact Step.FailsLater.pure ()
  · exact Step.FailsLater.throw rfl

theorem launchDatabase_failsLater (directory : String) (slice : Cpu.Slice) :
    Step.FailsLater (launchDatabase host pass directory slice : Step σ τ Unit) := by
  refine (Step.FailsLater.act _).bind fun answer => ?_
  refine (Step.FailsLater.take (fun _ => rfl) answer).bind fun handle => ?_
  refine (Step.FailsLater.hold _).bind fun _ => (Step.FailsLater.act _).bind fun ready => ?_
  exact Step.FailsLater.take (fun _ => rfl) ready

theorem launchClient_failsLater (spec : Sandbox.Spec) :
    Step.FailsLater (launchClient host pass spec : Step σ τ Sandbox.ClientRun) := by
  refine (Step.FailsLater.act _).bind fun answer => (Step.FailsLater.hold _).bind fun _ => ?_
  refine (Step.FailsLater.take (fun _ => rfl) answer).bind fun output => ?_
  have shut := (Step.FailsLater.act (Action.shutdown host pass.settings.layout.host
    pass.settings.layout.port : Action σ τ Unit)).bind fun _ => Step.FailsLater.pure output
  dsimp only
  split
  · exact (Step.FailsLater.act _).bind fun _ => shut
  · exact shut

theorem collectResults_failsLater (tool : Tool) (path stdout : String) :
    Step.FailsLater (collectResults host tool path stdout : Step σ τ Json.Value) := by
  refine (Step.FailsLater.act _).bind fun stored => ?_
  refine (Step.FailsLater.take (fun _ => rfl) stored).bind fun _ => ?_
  exact (Step.FailsLater.act _).bind fun read => Step.FailsLater.take (fun _ => rfl) _

end Later

theorem carryOut_reserves (host : Host σ) (pass : Pass) (slices : Except Cpu.Error Slices)
    (before : Bench σ τ) :
    Step.Ends (carryOut host pass slices) { bench := before, held := .nothing }
      (fun _ _ => ∃ after, reservation before.ledger slices = .ok after)
      fun error _ =>
        (∃ cause, reservation before.ledger slices = .error cause ∧ error = .cpu cause) ∨
          ((∃ after, reservation before.ledger slices = .ok after) ∧ error.isLater = true) := by
  refine Step.Ends.take_bind ?_ fun cause refused => Or.inl ⟨cause, by rw [refused]; rfl, rfl⟩
  rintro granted rfl
  refine Step.Ends.bind _ ((reserveSlices_reserves granted before).weaken (fun _ _ => id)
    fun _ _ => Or.inl) ?_
  intro _ taken reserved
  suffices rest : Step.FailsLater _ from
    (rest taken).weaken (fun _ _ _ => reserved) fun _ _ later => Or.inr ⟨reserved, later⟩
  refine Step.FailsLater.bind ?_ fun tool => ?_
  · exact fun _ => Step.Ends.take (fun _ _ => trivial) fun _ refused => chooseTool_error refused
  refine (makeDirectory_failsLater host pass).bind fun directory => ?_
  refine (placeArtifacts_failsLater host pass directory).bind fun _ => ?_
  refine (launchDatabase_failsLater host pass directory granted.database).bind fun _ => ?_
  refine Step.FailsLater.bind ?_ fun spec => ?_
  · refine fun _ => Step.Ends.take (fun _ _ => trivial) fun error refused => ?_
    obtain ⟨cause, rfl⟩ := clientSpec_error refused
    rfl
  refine (launchClient_failsLater host pass spec).bind fun output => ?_
  exact (collectResults_failsLater host tool _ output.stdout).bind fun _ =>
    Step.FailsLater.pure _

/-- A pass fails with a CPU error exactly if that is what becomes of its wish for CPUs, and its
topology is known. -/
theorem perform_reserves (collaborators : Collaborators σ τ) (settings : Settings) (job : Job)
    (slices : Except Cpu.Error Slices) (bench : Bench σ τ) :
    (∀ cause, (perform collaborators settings job slices bench).1.result = .error (.cpu cause) ↔
      reservation bench.ledger slices = .error cause) ∧
    ∀ name, (perform collaborators settings job slices bench).1.result ≠
      .error (.unknownTopology name) := by
  have ends := carryOut_reserves collaborators.host
    (opening collaborators.host settings job bench).1 slices
    (opening collaborators.host settings job bench).2
  rw [(opening_makes collaborators.host settings job bench).ledger] at ends
  rw [perform_result]
  unfold Step.Ends at ends
  cases ended : carryOut collaborators.host (opening collaborators.host settings job bench).1 slices
      { bench := (opening collaborators.host settings job bench).2, held := .nothing } with
  | mk result after =>
      rw [ended] at ends
      cases result with
      | ok report =>
          obtain ⟨ledger, reserved⟩ := ends
          rw [reserved]
          refine ⟨fun cause => ?_, fun name same => by cases same⟩
          exact iff_of_false (fun same => by cases same) fun same => by cases same
      | error error =>
          rcases ends with ⟨cause, refused, rfl⟩ | ⟨⟨ledger, reserved⟩, later⟩
          · rw [refused]
            refine ⟨fun other => ?_, fun name same => by cases same⟩
            rw [Except.error.injEq, Error.cpu.injEq, Except.error.injEq]
          · rw [reserved]
            constructor
            · refine fun cause => iff_of_false (fun same => ?_) fun same => by cases same
              rw [Except.error.inj same] at later
              cases later
            · intro name same
              rw [Except.error.inj same] at later
              cases later

end Pass

end BuildBench.Run
