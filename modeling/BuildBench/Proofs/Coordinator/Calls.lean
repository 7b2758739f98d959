import BuildBench.Proofs.Coordinator.Stages
import BuildBench.Proofs.Run.Lifecycle

set_option autoImplicit false

/-! The calls of a coordinator. Main statement: which calls a step makes is settled by the stage
from which it is made, and only a pass of a suite touches the ledger. -/

namespace BuildBench.Run

open BuildBench.Definition BuildBench.Entry

variable {σ τ : Type}

def Event.isRequest : Event → Bool
  | .read _ _ | .takeOver _ _ | .acknowledge _ _ => true
  | _ => false

/-- Calls are added to those that were made, and the queue is not among those called. -/
structure Bench.Besides (before after : Bench σ τ) (made : List Event) : Prop where
  calls : after.calls = before.calls ++ made
  others : ∀ event ∈ made, event.isRequest = false

namespace Bench.Besides

variable {before middle after : Bench σ τ} {made later : List Event}

theorem trans (first : before.Besides middle made) (second : middle.Besides after later) :
    before.Besides after (made ++ later) where
  calls := by rw [second.calls, first.calls, List.append_assoc]
  others := by
    intro event member
    rcases List.mem_append.mp member with earlier | own
    · exact first.others event earlier
    · exact second.others event own

theorem nothing (calls : after.calls = before.calls) : before.Besides after [] where
  calls := by rw [calls, List.append_nil]
  others := by intro event member; cases member

end Bench.Besides

theorem stopCalls_isRequest {handle : Option Sandbox.Handle} {answer : Except Sandbox.Error Unit} :
    ∀ event ∈ stopCalls handle answer, event.isRequest = false := by
  intro event member
  obtain ⟨handle, _, rfl⟩ := List.mem_map.mp member
  rfl

theorem Course.calls_isRequest {course : Course} {layout : Layout} :
    ∀ event ∈ course.calls layout, event.isRequest = false := by
  cases course <;> simp [calls, Started.call, Event.isRequest]

theorem Slot.retryDeferred_besides (host : Host σ) (bench : Bench σ τ) :
    ∃ made, bench.Besides (Slot.retryDeferred host bench).2 made := by
  obtain ⟨made, calls, stops⟩ := Slot.retryDeferred_calls host bench
  refine ⟨made, calls, ?_⟩
  intro event member
  obtain ⟨_, _, rfl⟩ := stops event member
  rfl

theorem Pass.perform_besides (collaborators : Collaborators σ τ) (settings : Settings) (job : Job)
    (slices : Except Cpu.Error Slices) (bench : Bench σ τ) :
    ∃ made, bench.Besides (Pass.perform collaborators settings job slices bench).2 made := by
  obtain ⟨course, databaseStop, clientStop, pushed, _, calls⟩ :=
    Pass.perform_calls collaborators settings job slices bench
  rw [List.append_assoc, List.append_assoc, List.append_assoc] at calls
  refine ⟨_, calls, ?_⟩
  intro event member
  rcases List.mem_append.mp member with ran | member
  · exact Course.calls_isRequest event ran
  rcases List.mem_append.mp member with stopped | member
  · exact stopCalls_isRequest event stopped
  rcases List.mem_append.mp member with stopped | told
  · exact stopCalls_isRequest event stopped
  · obtain ⟨_, _, rfl⟩ := List.mem_map.mp told
    rfl

/-- A run of a suite does not call the queue. -/
theorem Slot.perform_besides (collaborators : Collaborators σ τ) (settings : Settings)
    (build : Build) (suite : Suite) (slot : Slot) (bench : Bench σ τ) :
    ∃ made, bench.Besides (slot.perform collaborators settings build suite bench).2 made := by
  cases slot with
  | unknown name =>
      exact ⟨[], .nothing ((Action.report_makes .topologyUnknown bench).calls.trans
        (List.append_nil _))⟩
  | planned topology position =>
      obtain ⟨stops, retried⟩ := Slot.retryDeferred_besides collaborators.host bench
      obtain ⟨made, performed⟩ := Pass.perform_besides collaborators settings
        { build, suite, topology } (plan topology suite.client position).slices
        (Slot.retryDeferred collaborators.host bench).2
      exact ⟨_, retried.trans performed⟩

end BuildBench.Run

namespace BuildBench.Coordinator

open BuildBench.Definition BuildBench.Entry BuildBench.Run

variable {σ τ : Type}

def Stage.acknowledges : Stage → List Id
  | .closing id _ | .repeating id => [id]
  | _ => []

inductive Stage.Calls : Stage → List Event → Prop
  | claim (idle : Time.Duration) (answer : Except QueueError (Option Delivery)) :
      Stage.Calls .resting [.takeOver idle answer]
  | read (cursor : Cursor) (answer : Except QueueError (Option Delivery)) :
      Stage.Calls (.claimed none) [.read cursor answer]
  | pass {build : Build} {suite : Suite} {slot : Slot} {rest : List Slot} {files : List String}
      {outcomes : List Outcome} {made : List Event}
      (others : ∀ event ∈ made, event.isRequest = false) :
      Stage.Calls (.amidSlots build suite (slot :: rest) files outcomes) made
  | finish (id : Id) (iteration : Iteration) (answer : Except QueueError Unit) :
      Stage.Calls (.closing id iteration) [.acknowledge id answer]
  | again (id : Id) (answer : Except QueueError Unit) :
      Stage.Calls (.repeating id) [.acknowledge id answer]
  | nothing {stage : Stage} (silent : stage.acknowledges = []) : Stage.Calls stage []

def Stage.isPass : Stage → Bool
  | .amidSlots _ _ (_ :: _) _ _ => true
  | _ => false

/-- But for a pass, a step calls the queue at most. -/
theorem Stage.Calls.requests {stage : Stage} {made : List Event} (listed : stage.Calls made)
    (other : stage.isPass = false) : ∀ event ∈ made, event.isRequest = true := by
  intro event member
  cases listed with
  | pass others => cases other
  | nothing silent => cases member
  | _ =>
      rw [List.mem_singleton.mp member]
      rfl

/-- From one state to another, certain calls were made, and neither the ledger nor what is remembered
has changed. -/
structure State.Makes (before after : State σ τ) (made : List Event) : Prop where
  calls : after.bench.calls = before.bench.calls ++ made
  ledger : after.bench.ledger = before.bench.ledger
  finished : after.finished = before.finished

theorem State.Makes.ofAction {α : Type} {action : Action σ τ α} {state : State σ τ}
    {made : List Event} (makes : Action.Makes action state.bench made) :
    state.Makes { state with bench := (action state.bench).2 } made :=
  ⟨makes.calls, makes.ledger, rfl⟩

theorem State.Makes.nothing {before after : State σ τ} (bench : after.bench = before.bench)
    (finished : after.finished = before.finished) : before.Makes after [] := by
  refine ⟨?_, ?_, finished⟩
  · rw [bench, List.append_nil]
  · rw [bench]

namespace Setup

variable (setup : Setup σ τ) (state : State σ τ)

theorem claim_makes :
    ∃ made, state.Makes (setup.claim state).2 made ∧
      Stage.Calls .resting made := by
  unfold claim
  cases setup.settings.claimIdle with
  | none => exact ⟨[], .nothing rfl rfl, .nothing rfl⟩
  | some idle =>
      have asked := Action.takeOver_makes setup.host state.bench idle
      refine ⟨_, ?_, .claim idle (Action.takeOver setup.host idle state.bench).1⟩
      dsimp only
      rw [Work.bind_apply, Work.act_apply]
      cases answer : (Action.takeOver setup.host idle state.bench).1 with
      | ok delivery =>
          rw [answer] at asked
          exact .ofAction asked
      | error error =>
          rw [answer] at asked
          exact .ofAction (asked.bind_quiet fun _ bench => Action.report_makes .claimFailed bench)

theorem meet_makes (delivery : Delivery) : state.Makes (meet delivery state).2 [] := by
  unfold meet
  rw [Work.bind_apply, Work.get_apply]
  dsimp only
  split
  · exact .nothing rfl rfl
  · cases delivery.body with
    | unreadable reason => exact .ofAction (Action.report_makes .entryUnreadable state.bench)
    | fields fields =>
        cases decoded : Build.decode delivery.id fields with
        | error error =>
            simp only [decoded]
            exact .ofAction (Action.report_makes .buildUndescribed state.bench)
        | ok build =>
            simp only [decoded]
            exact .nothing rfl rfl

theorem suiteFiles_makes (bench : Bench σ τ) : Action.Makes setup.suiteFiles bench [] := by
  unfold suiteFiles
  exact Action.inspect_makes setup.host bench _ _ _

theorem loadSuite_makes (path : String) (bench : Bench σ τ) :
    Action.Makes (setup.loadSuite path) bench [] :=
  Action.inspect_makes setup.host bench _ _ _

theorem survey_makes (build : Build) : state.Makes (setup.survey build state).2 [] := by
  have listed := setup.suiteFiles_makes state.bench
  unfold survey
  rw [Work.bind_apply, Work.act_apply]
  cases (setup.suiteFiles state.bench).1 with
  | ok files => exact .ofAction listed
  | error error => exact .ofAction listed

theorem turnTo_makes (build : Build) (path : String) (rest : List String)
    (outcomes : List Outcome) :
    state.Makes (setup.turnTo build path rest outcomes state).2 [] := by
  have loaded := setup.loadSuite_makes path state.bench
  unfold turnTo
  rw [Work.bind_apply, Work.act_apply]
  cases (setup.loadSuite path state.bench).1 with
  | ok suite => exact .ofAction loaded
  | error error =>
      exact .ofAction (loaded.bind_quiet fun _ bench => Action.report_makes .suiteSkipped bench)

/-- Which calls a step makes is settled by its stage, and only a pass touches the ledger. -/
theorem step_makes (stage : Stage) :
    ∃ made, stage.Calls made ∧
      (setup.step stage state).2.bench.calls = state.bench.calls ++ made ∧
      (stage.isPass = false → (setup.step stage state).2.bench.ledger = state.bench.ledger) := by
  have plain {made : List Event} {after : State σ τ} (listed : stage.Calls made)
      (makes : state.Makes after made) :
      ∃ made, stage.Calls made ∧ after.bench.calls = state.bench.calls ++ made ∧
        (stage.isPass = false → after.bench.ledger = state.bench.ledger) :=
    ⟨made, listed, makes.calls, fun _ => makes.ledger⟩
  cases stage with
  | resting =>
      obtain ⟨made, makes, listed⟩ := setup.claim_makes state
      exact plain listed makes
  | claimed delivery =>
      cases delivery with
      | some delivery => exact plain (.nothing rfl) (.nothing rfl rfl)
      | none =>
          exact plain (.read _ _)
            (.ofAction (Action.read_makes setup.host state.bench state.cursor))
  | answered answer =>
      cases answer with
      | error error => exact plain (.nothing rfl) (.nothing rfl rfl)
      | ok delivery => cases delivery <;> exact plain (.nothing rfl) (.nothing rfl rfl)
  | received delivery => exact plain (.nothing rfl) (meet_makes state delivery)
  | described build => exact plain (.nothing rfl) (setup.survey_makes state build)
  | amidFiles build files outcomes =>
      cases files with
      | nil => exact plain (.nothing rfl) (.nothing rfl rfl)
      | cons path rest =>
          exact plain (.nothing rfl) (setup.turnTo_makes state build path rest outcomes)
  | amidSlots build suite slots files outcomes =>
      cases slots with
      | nil => exact plain (.nothing rfl) (.nothing rfl rfl)
      | cons slot rest =>
          obtain ⟨made, performed⟩ := slot.perform_besides setup.collaborators setup.settings build
            suite state.bench
          exact ⟨made, .pass performed.others, performed.calls, fun other => by cases other⟩
  | closing id iteration =>
      obtain ⟨answer, acknowledged⟩ := Action.acknowledge_makes setup.host state.bench id
      exact ⟨_, .finish id iteration answer, acknowledged.calls, fun _ => acknowledged.ledger⟩
  | repeating id =>
      obtain ⟨answer, acknowledged⟩ := Action.acknowledge_makes setup.host state.bench id
      exact plain (.again id answer) (.ofAction acknowledged)
  | ended result => exact plain (.nothing rfl) (.nothing rfl rfl)

/-- A step makes a run of a suite, or it makes the calls of its stage and leaves the ledger alone. -/
theorem step_bench (stage : Stage) :
    (∃ build suite slot rest files outcomes,
      stage = .amidSlots build suite (slot :: rest) files outcomes ∧
      (setup.step stage state).2.bench =
        (slot.perform setup.collaborators setup.settings build suite state.bench).2) ∨
    ∃ made, stage.isPass = false ∧ stage.Calls made ∧
      (setup.step stage state).2.bench.calls = state.bench.calls ++ made ∧
      (setup.step stage state).2.bench.ledger = state.bench.ledger := by
  obtain ⟨made, listed, calls, ledger⟩ := setup.step_makes state stage
  cases pass : stage.isPass with
  | false => exact Or.inr ⟨made, rfl, listed, calls, ledger pass⟩
  | true =>
      cases stage with
      | amidSlots build suite slots files outcomes =>
          cases slots with
          | nil => cases pass
          | cons slot rest => exact Or.inl ⟨build, suite, slot, rest, files, outcomes, rfl, rfl⟩
      | _ => cases pass

variable {setup}

/-- Whatever a worker does but a step, it makes no call and leaves the ledger alone. -/
theorem move_bench {before after : Worker σ τ} {deed : Option Deed}
    (move : setup.Move before deed after) :
    after = setup.next before ∨
      (after.bench.calls = before.bench.calls ∧ after.bench.ledger = before.bench.ledger) := by
  cases move with
  | step => exact Or.inl rfl
  | notice notice =>
      have reported := Action.report_makes notice before.bench
      exact Or.inr ⟨reported.calls.trans (List.append_nil _), reported.ledger⟩
  | _ => exact Or.inr ⟨rfl, rfl⟩

variable (setup)

/-- Only what is acknowledged for the first time is remembered anew. -/
theorem step_finished (stage : Stage) :
    (setup.step stage state).2.finished =
      match stage with
      | .closing id _ => state.finished.insert id
      | _ => state.finished := by
  cases stage with
  | resting =>
      obtain ⟨made, makes, _⟩ := setup.claim_makes state
      exact makes.finished
  | claimed delivery => cases delivery <;> rfl
  | answered answer =>
      cases answer with
      | error error => rfl
      | ok delivery => cases delivery <;> rfl
  | received delivery => exact (meet_makes state delivery).finished
  | described build => exact (setup.survey_makes state build).finished
  | amidFiles build files outcomes =>
      cases files with
      | nil => rfl
      | cons path rest => exact (setup.turnTo_makes state build path rest outcomes).finished
  | amidSlots build suite slots files outcomes => cases slots <;> rfl
  | closing id iteration => rfl
  | repeating id => rfl
  | ended result => rfl

end Setup

end BuildBench.Coordinator
