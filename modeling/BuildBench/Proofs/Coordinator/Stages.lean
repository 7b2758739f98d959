import BuildBench.Coordinator.Basic
import BuildBench.Proofs.Run.Calls
import BuildBench.Rehearsal.Script

set_option autoImplicit false

/-! An iteration of the coordinator in single steps: a claim, a read, one pass, an acknowledgement.
Main statement: iterations and the handling of a delivery are paths of such steps, so that what
every step preserves holds between any two passes. -/

namespace BuildBench.Coordinator

open BuildBench.Definition BuildBench.Entry BuildBench.Run

variable {σ τ α β : Type}

namespace Work

@[simp]
theorem pure_apply (value : α) (state : State σ τ) :
    (pure value : Work σ τ α) state = (value, state) :=
  rfl

@[simp]
theorem bind_apply (work : Work σ τ α) (next : α → Work σ τ β) (state : State σ τ) :
    (work >>= next) state = next (work state).1 (work state).2 :=
  rfl

@[simp]
theorem get_apply (state : State σ τ) : (get : Work σ τ (State σ τ)) state = (state, state) :=
  rfl

@[simp]
theorem modify_apply (change : State σ τ → State σ τ) (state : State σ τ) :
    (modify change : Work σ τ Unit) state = ((), change state) :=
  rfl

@[simp]
theorem act_apply (action : Action σ τ α) (state : State σ τ) :
    Setup.act action state =
      ((action state.bench).1, { state with bench := (action state.bench).2 }) :=
  rfl

end Work

/-- Where a coordinator stands in an iteration. -/
inductive Stage
  /-- Between two iterations. -/
  | resting
  /-- It has asked for an entry that another consumer left idle. -/
  | claimed (delivery : Option Delivery)
  /-- It has read at its cursor. -/
  | answered (answer : Except QueueError (Option Delivery))
  | received (delivery : Delivery)
  | described (build : Build)
  /-- Between two suites. The files of those that are left are listed. -/
  | amidFiles (build : Build) (files : List String) (outcomes : List Outcome)
  /-- Between two passes of a suite. -/
  | amidSlots (build : Build) (suite : Suite) (slots : List Slot) (files : List String)
      (outcomes : List Outcome)
  /-- The entry is to be acknowledged and remembered. -/
  | closing (id : Id) (iteration : Iteration)
  /-- The entry was finished before and is to be acknowledged again. -/
  | repeating (id : Id)
  | ended (result : Except Error Iteration)

/-- The operator can still stop the iteration, since no entry is at hand. What a claim or a read has
brought is dropped then. -/
def Stage.canCancel : Stage → Bool
  | .resting | .claimed _ | .answered _ => true
  | _ => false

inductive Deed
  /-- The entry was found to describe no build. -/
  | rejected (delivery : Delivery)
  /-- The entry was found to describe a build. -/
  | begun (delivery : Delivery)
  | listed (files : List String)
  | loaded (path : String) (suite : Except Definition.Error Suite)
  | ran (build : Build) (suite : Suite) (slot : Slot) (outcome : Outcome)
  /-- All that a coordinator remembered was lost. -/
  | crashed

namespace Setup

def meet (delivery : Delivery) : Work σ τ (Option Deed × Stage) := do
  if (← get).finished.contains delivery.id then return (none, .repeating delivery.id)
  match delivery.body with
  | .unreadable reason =>
      act (Action.report .entryUnreadable)
      return (some (.rejected delivery), .closing delivery.id (.skipped delivery.id reason))
  | .fields fields =>
      match Build.decode delivery.id fields with
      | .error error =>
          act (Action.report .buildUndescribed)
          return (some (.rejected delivery),
            .closing delivery.id (.skipped delivery.id error.message))
      | .ok build => return (some (.begun delivery), .described build)

def survey (setup : Setup σ τ) (build : Build) : Work σ τ (Option Deed × Stage) := do
  match ← act setup.suiteFiles with
  | .error error => return (none, .ended (.error (.suites setup.settings.suitesDirectory error)))
  | .ok files => return (some (.listed files), .amidFiles build files [])

def turnTo (setup : Setup σ τ) (build : Build) (path : String) (rest : List String)
    (outcomes : List Outcome) : Work σ τ (Option Deed × Stage) := do
  match ← act (setup.loadSuite path) with
  | .error error =>
      act (Action.report .suiteSkipped)
      return (some (.loaded path (.error error)), .amidFiles build rest outcomes)
  | .ok suite =>
      return (some (.loaded path (.ok suite)),
        .amidSlots build suite (slots setup.catalog suite) rest outcomes)

/-- One step from a stage. What an iteration has ended with stays as it is. -/
def step (setup : Setup σ τ) : Stage → Work σ τ (Option Deed × Stage)
  | .resting => do return (none, .claimed (← setup.claim))
  | .claimed (some delivery) => return (none, .received delivery)
  | .claimed none => do return (none, .answered (← setup.readNext))
  | .answered (.error error) => return (none, .ended (.error (.queue error)))
  | .answered (.ok (some delivery)) => do
      modify fun state => { state with cursor := state.cursor.advance delivery.id }
      return (none, .received delivery)
  | .answered (.ok none) => do
      modify fun state => { state with cursor := state.cursor.exhaust }
      return (none, .ended (.ok .idle))
  | .received delivery => meet delivery
  | .described build => setup.survey build
  | .amidFiles build [] outcomes =>
      let report : BuildReport := { id := build.id, gitHash := build.gitHash, outcomes }
      return (none, .closing build.id (.processed report))
  | .amidFiles build (path :: rest) outcomes => setup.turnTo build path rest outcomes
  | .amidSlots build _ [] files outcomes => return (none, .amidFiles build files outcomes)
  | .amidSlots build suite (slot :: rest) files outcomes => do
      let outcome ← act (slot.perform setup.collaborators setup.settings build suite)
      return (some (.ran build suite slot outcome),
        .amidSlots build suite rest files (outcomes ++ [outcome]))
  | .closing id iteration => do
      setup.finish id
      return (none, .ended (.ok iteration))
  | .repeating id => do
      act (Action.acknowledge setup.host id)
      return (none, .ended (.ok (.duplicate id)))
  | .ended result => return (none, .ended result)

end Setup

structure Worker (σ τ : Type) where
  stage : Stage
  state : State σ τ

def Worker.bench (worker : Worker σ τ) : Bench σ τ :=
  worker.state.bench

namespace Setup

def next (setup : Setup σ τ) (worker : Worker σ τ) : Worker σ τ :=
  let result := setup.step worker.stage worker.state
  { stage := result.1.2, state := result.2 }

/-- The worker on a bench that others have changed. They reach its host, the files and the metrics
store, but neither its ledger nor its journal. -/
def meddled (worker : Worker σ τ) (host : σ) (sink : τ) (files : Files.Tree) : Worker σ τ :=
  { worker with
    state := { worker.state with bench := { worker.state.bench with host, sink, files } } }

/-- Steps of a worker, while others may do what they can at any time. -/
inductive Path (setup : Setup σ τ) (first : Worker σ τ) : Worker σ τ → Prop
  | refl : Path setup first first
  | step {worker : Worker σ τ} (path : Path setup first worker) :
      Path setup first (setup.next worker)
  | meddle {worker : Worker σ τ} (path : Path setup first worker) (host : σ) (sink : τ)
      (files : Files.Tree) : Path setup first (meddled worker host sink files)

/-! ### What every step preserves -/

section Steps

variable (setup : Setup σ τ) {holds : Worker σ τ → Prop}
  (kept : ∀ worker, holds worker → holds (setup.next worker))

include kept

theorem kept_slots {build : Build} {suite : Suite} {slots : List Slot} {files : List String}
    {outcomes : List Outcome} {state : State σ τ}
    (here : holds ⟨.amidSlots build suite slots files outcomes, state⟩) :
    holds
      ⟨.amidFiles build files (outcomes ++
        (Slot.performAll setup.collaborators setup.settings build suite slots state.bench).1),
      { state with bench :=
        (Slot.performAll setup.collaborators setup.settings build suite slots state.bench).2 }⟩ := by
  induction slots generalizing outcomes state with
  | nil =>
      have after : holds ⟨.amidFiles build files outcomes, state⟩ := kept _ here
      rw [← List.append_nil outcomes] at after
      exact after
  | cons slot rest ih =>
      have later := ih (kept _ here)
      rw [List.append_assoc] at later
      exact later

theorem kept_file {build : Build} {file : String} {rest : List String} {outcomes : List Outcome}
    {state : State σ τ} (here : holds ⟨.amidFiles build (file :: rest) outcomes, state⟩) :
    holds
      ⟨.amidFiles build rest (outcomes ++ (setup.runFile build file state.bench).1),
      { state with bench := (setup.runFile build file state.bench).2 }⟩ := by
  have opened : holds
      ⟨(setup.turnTo build file rest outcomes state).1.2,
        (setup.turnTo build file rest outcomes state).2⟩ := kept _ here
  unfold turnTo at opened
  unfold runFile
  rw [Work.bind_apply, Work.act_apply] at opened
  rw [Action.bind_apply]
  cases loaded : (setup.loadSuite file state.bench).1 with
  | error error =>
      simp only [loaded] at opened
      simp only [Action.bind_apply, Action.pure_apply, List.append_nil]
      exact opened
  | ok suite =>
      simp only [loaded] at opened
      exact setup.kept_slots kept opened

theorem kept_files {build : Build} {files : List String} {outcomes : List Outcome}
    {state : State σ τ} (here : holds ⟨.amidFiles build files outcomes, state⟩) :
    holds
      ⟨.closing build.id (.processed
        { id := build.id
          gitHash := build.gitHash
          outcomes := outcomes ++ (setup.runFiles build files state.bench).1 }),
      { state with bench := (setup.runFiles build files state.bench).2 }⟩ := by
  induction files generalizing outcomes state with
  | nil =>
      have after : holds
          ⟨.closing build.id (.processed ⟨build.id, build.gitHash, outcomes⟩), state⟩ := kept _ here
      rw [← List.append_nil outcomes] at after
      exact after
  | cons file rest ih =>
      have later := ih (setup.kept_file kept here)
      rw [List.append_assoc] at later
      exact later

theorem kept_benchmark {build : Build} {state : State σ τ}
    (here : holds ⟨.described build, state⟩) :
    holds ⟨.ended (setup.benchmark build state).1, (setup.benchmark build state).2⟩ := by
  have listed : holds ⟨(setup.survey build state).1.2, (setup.survey build state).2⟩ :=
    kept _ here
  unfold survey at listed
  unfold benchmark
  rw [Work.bind_apply, Work.act_apply] at listed ⊢
  cases files : (setup.suiteFiles state.bench).1 with
  | error error =>
      simp only [files] at listed ⊢
      exact listed
  | ok files =>
      simp only [files] at listed ⊢
      exact kept _ (setup.kept_files kept listed)

/-- What every step preserves holds when a delivery has been handled. -/
theorem kept_treat {delivery : Delivery} {state : State σ τ}
    (here : holds ⟨.received delivery, state⟩) :
    holds ⟨.ended (setup.treat delivery state).1, (setup.treat delivery state).2⟩ := by
  have met : holds ⟨(meet delivery state).1.2, (meet delivery state).2⟩ := kept _ here
  unfold meet at met
  unfold treat treatFresh
  rw [Work.bind_apply, Work.get_apply] at met ⊢
  cases known : state.finished.contains delivery.id with
  | true =>
      simp only [known] at met ⊢
      exact kept _ met
  | false =>
      simp only [known] at met ⊢
      cases body : delivery.body with
      | unreadable reason =>
          simp only [body] at met ⊢
          exact kept _ met
      | fields fields =>
          simp only [body] at met ⊢
          cases decoded : Build.decode delivery.id fields with
          | error error =>
              simp only [decoded] at met ⊢
              exact kept _ met
          | ok build =>
              simp only [decoded] at met ⊢
              exact setup.kept_benchmark kept met

end Steps

/-! ### Iterations are paths -/

theorem Path.stepTo {setup : Setup σ τ} {first worker after : Worker σ τ}
    (path : setup.Path first worker) (reaches : setup.next worker = after) :
    setup.Path first after :=
  reaches ▸ path.step

section Paths

variable (setup : Setup σ τ) {first : Worker σ τ}

theorem path_treat {delivery : Delivery} {state : State σ τ}
    (path : setup.Path first ⟨.received delivery, state⟩) :
    setup.Path first
      ⟨.ended (setup.treat delivery state).1, (setup.treat delivery state).2⟩ :=
  setup.kept_treat (fun _ path => path.step) path

theorem path_followRead {answer : Except QueueError (Option Delivery)} {state : State σ τ}
    (path : setup.Path first ⟨.answered answer, state⟩) :
    setup.Path first
      ⟨.ended (setup.followRead answer state).1, (setup.followRead answer state).2⟩ := by
  cases answer with
  | error error => exact path.step
  | ok delivery =>
      cases delivery with
      | none => exact path.step
      | some delivery => exact setup.path_treat path.step

theorem path_accept {delivery : Delivery} {state : State σ τ}
    (path : setup.Path first
      ⟨.received delivery, { state with cursor := state.cursor.advance delivery.id }⟩) :
    setup.Path first
      ⟨.ended (setup.accept delivery state).1, (setup.accept delivery state).2⟩ :=
  setup.path_treat path

theorem path_iterate {state : State σ τ} (path : setup.Path first ⟨.resting, state⟩) :
    setup.Path first ⟨.ended (setup.iterate state).1, (setup.iterate state).2⟩ := by
  have claimed : setup.Path first
      ⟨.claimed (setup.claim state).1, (setup.claim state).2⟩ := path.step
  unfold iterate
  rw [Work.bind_apply]
  cases delivery : (setup.claim state).1 with
  | some delivery =>
      rw [delivery] at claimed
      exact setup.path_treat claimed.step
  | none =>
      rw [delivery] at claimed
      exact setup.path_followRead claimed.step

theorem path_cancelled {stage : Stage} {state : State σ τ}
    (path : setup.Path first ⟨stage, state⟩) :
    setup.Path first ⟨stage, (setup.cancelled state).2⟩ :=
  path.meddle _ state.bench.sink state.bench.files

/-- An iteration in the loop ends, or is stopped while it can be. -/
theorem path_runUnlessCancelled {state : State σ τ} (path : setup.Path first ⟨.resting, state⟩) :
    ∃ stage, setup.Path first ⟨stage, (setup.runUnlessCancelled state).2⟩ ∧
      match (setup.runUnlessCancelled state).1 with
      | some result => stage = .ended result
      | none => stage.canCancel = true := by
  have asked := setup.path_cancelled path
  unfold runUnlessCancelled
  rw [Work.bind_apply]
  cases (setup.cancelled state).1 with
  | true => exact ⟨_, asked, rfl⟩
  | false =>
      have claimed : setup.Path first ⟨.claimed (setup.claim _).1, (setup.claim _).2⟩ := asked.step
      have askedAgain := setup.path_cancelled claimed
      simp only [Bool.false_eq_true, if_false, Work.bind_apply]
      cases (setup.cancelled (setup.claim (setup.cancelled state).2).2).1 with
      | true => exact ⟨_, askedAgain, rfl⟩
      | false =>
          simp only [Bool.false_eq_true, if_false]
          cases delivery : (setup.claim (setup.cancelled state).2).1 with
          | some delivery =>
              rw [delivery] at askedAgain
              exact ⟨_, setup.path_treat askedAgain.step, rfl⟩
          | none =>
              rw [delivery] at askedAgain
              have answered := setup.path_cancelled askedAgain.step
              simp only [Work.bind_apply]
              cases (setup.cancelled (setup.readNext _).2).1 with
              | true => exact ⟨_, answered, rfl⟩
              | false => exact ⟨_, setup.path_followRead answered, rfl⟩

end Paths

/-! ### Whole lives -/

inductive Move (setup : Setup σ τ) (before : Worker σ τ) : Option Deed → Worker σ τ → Prop
  | step : Move setup before (setup.step before.stage before.state).1.1 (setup.next before)
  | meddle (host : σ) (sink : τ) (files : Files.Tree) :
      Move setup before none (meddled before host sink files)
  | cancel (early : before.stage.canCancel = true) :
      Move setup before none { before with stage := .resting }
  | rest {result : Except Error Iteration} (ended : before.stage = .ended result) :
      Move setup before none { before with stage := .resting }
  | notice (notice : Notice) :
      Move setup before none
        { before with state := (act (Action.report notice) before.state).2 }
  /-- Somebody hands over a delivery. -/
  | accept (delivery : Delivery) (resting : before.stage = .resting) :
      Move setup before none
        { stage := .received delivery
          state := { before.state with cursor := before.state.cursor.advance delivery.id } }

/-- All that a worker can become: between two iterations, between two passes, and between any two
steps in an iteration. -/
inductive Reached (setup : Setup σ τ) : Worker σ τ → Prop
  | start (host : σ) (sink : τ) (files : Files.Tree) (cursor : Cursor) :
      Reached setup ⟨.resting, setup.start host sink files cursor⟩
  | move {worker after : Worker σ τ} {deed : Option Deed} (reached : Reached setup worker)
      (move : setup.Move worker deed after) : Reached setup after

/-- All that a worker can become from some point on. -/
inductive Onward (setup : Setup σ τ) (first : Worker σ τ) : Worker σ τ → Prop
  | refl : Onward setup first first
  | move {worker after : Worker σ τ} {deed : Option Deed} (onward : Onward setup first worker)
      (move : setup.Move worker deed after) : Onward setup first after

theorem Reached.onward {setup : Setup σ τ} {worker after : Worker σ τ}
    (reached : setup.Reached worker) (onward : setup.Onward worker after) :
    setup.Reached after := by
  induction onward with
  | refl => exact reached
  | move onward move ih => exact ih.move move

theorem Reached.ofPath {setup : Setup σ τ} {worker after : Worker σ τ}
    (reached : setup.Reached worker) (path : setup.Path worker after) : setup.Reached after := by
  induction path with
  | refl => exact reached
  | step path ih => exact ih.move .step
  | meddle path host sink files ih => exact ih.move (.meddle host sink files)

/-- What the owner of a coordinator can do with it. -/
inductive Activity (σ τ : Type)
  | iterate
  | process (delivery : Delivery)
  /-- It runs until the operator asks to stop, but for at most so many iterations. -/
  | run (iterations : Nat)
  /-- Others do something meanwhile. -/
  | meddle (host : σ) (sink : τ) (files : Files.Tree)

def undertake (setup : Setup σ τ) (state : State σ τ) : Activity σ τ → State σ τ
  | .iterate => (setup.iterate state).2
  | .process delivery => (setup.accept delivery state).2
  | .run iterations => (setup.run iterations state).2
  | .meddle host sink files => { state with bench := { state.bench with host, sink, files } }

def life (setup : Setup σ τ) (start : State σ τ) (activities : List (Activity σ τ)) : State σ τ :=
  activities.foldl setup.undertake start

namespace Reached

variable {setup : Setup σ τ} {state : State σ τ}

theorem run (iterations : Nat) (reached : setup.Reached ⟨.resting, state⟩) :
    setup.Reached ⟨.resting, (setup.run iterations state).2⟩ := by
  induction iterations generalizing state with
  | zero => exact reached
  | succ iterations ih =>
      have here : setup.Path ⟨.resting, state⟩ ⟨.resting, state⟩ := .refl
      obtain ⟨stage, path, ended⟩ := setup.path_runUnlessCancelled here
      have after := reached.ofPath path
      unfold Setup.run
      rw [Work.bind_apply]
      cases answer : (setup.runUnlessCancelled state).1 with
      | none =>
          rw [answer] at ended
          exact after.move (.cancel ended)
      | some result =>
          rw [answer] at ended
          have rested := after.move (.rest ended)
          cases result with
          | ok iteration => exact ih rested
          | error error =>
              have asked := (rested.move (.notice .iterationFailed)).ofPath
                (setup.path_cancelled .refl)
              simp only [Work.bind_apply]
              split
              · exact asked
              · exact ih asked

theorem undertake (activity : Activity σ τ) (reached : setup.Reached ⟨.resting, state⟩) :
    setup.Reached ⟨.resting, setup.undertake state activity⟩ := by
  cases activity with
  | iterate => exact (reached.ofPath (setup.path_iterate .refl)).move (.rest rfl)
  | process delivery =>
      have accepted := reached.move (.accept delivery rfl)
      exact (accepted.ofPath (setup.path_accept .refl)).move (.rest rfl)
  | run iterations => exact reached.run iterations
  | meddle host sink files => exact reached.move (.meddle host sink files)

theorem life (activities : List (Activity σ τ)) (reached : setup.Reached ⟨.resting, state⟩) :
    setup.Reached ⟨.resting, setup.life state activities⟩ := by
  induction activities generalizing state with
  | nil => exact reached
  | cons activity rest ih => exact ih (reached.undertake activity)

end Reached

/-- Whatever the owner of a coordinator does with it, it is found between two iterations. -/
theorem reached_life (setup : Setup σ τ) (host : σ) (sink : τ) (files : Files.Tree)
    (cursor : Cursor) (activities : List (Activity σ τ)) :
    setup.Reached ⟨.resting, setup.life (setup.start host sink files cursor) activities⟩ :=
  Reached.life activities (.start host sink files cursor)

def rehearsed : Setup Rehearsal.Script (Option String) where
  collaborators := { host := Rehearsal.host ⟨0, 0⟩, sink := some Rehearsal.sink }
  settings := .usual "/work" "bench" 8
  catalog := .ofList none []

end Setup

end BuildBench.Coordinator
