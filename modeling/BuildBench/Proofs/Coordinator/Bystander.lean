import BuildBench.Proofs.Coordinator.Independence
import BuildBench.Proofs.Coordinator.Redelivery
import BuildBench.Proofs.Run.Bystander

set_option autoImplicit false

/-! A coordinator and its metrics store. Main statement: whichever store a coordinator has, if any,
and whatever the store answers, its iterations end in the same way, make the same other calls in the
same order, and leave the host, the files, the ledger, the cursor and what is remembered the same. -/

namespace BuildBench.Coordinator

open BuildBench.Definition BuildBench.Entry BuildBench.Run

variable {σ τ υ ρ ω α β : Type}

/-- The same coordinator, but another metrics store is told, or none. -/
def Setup.reportingTo (setup : Setup σ τ) (store : Option (Sink υ)) : Setup σ υ where
  collaborators := setup.collaborators.reportingTo store
  settings := setup.settings
  catalog := setup.catalog

/-! ### Two coordinators side by side -/

structure State.Holds (likeness : Likeness) (state : State σ τ) (other : State σ υ) : Prop where
  bench : likeness.Holds state.bench other.bench
  cursor : state.cursor = other.cursor
  finished : state.finished = other.finished

/-- In states that are alike, two pieces of work give the same value and leave states that are
alike. -/
def Work.Agree (likeness : Likeness) (left : Work σ τ α) (right : Work σ υ α) : Prop :=
  ∀ state other, State.Holds likeness state other →
    (left state).1 = (right other).1 ∧ State.Holds likeness (left state).2 (right other).2

namespace Work.Agree

variable {likeness : Likeness}

theorem pure (value : α) :
    Agree likeness (Pure.pure value : Work σ τ α) (Pure.pure value : Work σ υ α) :=
  fun _ _ alike => ⟨rfl, alike⟩

theorem bind {left : Work σ τ α} {right : Work σ υ α} {next : α → Work σ τ β}
    {rest : α → Work σ υ β} (first : Agree likeness left right)
    (later : ∀ value, Agree likeness (next value) (rest value)) :
    Agree likeness (left >>= next) (right >>= rest) := by
  intro state other alike
  obtain ⟨same, after⟩ := first state other alike
  rw [Work.bind_apply, Work.bind_apply, same]
  exact later _ _ _ after

theorem get_bind {next : State σ τ → Work σ τ β} {rest : State σ υ → Work σ υ β}
    (later : ∀ state other, State.Holds likeness state other →
      Agree likeness (next state) (rest other)) :
    Agree likeness (get >>= next) (get >>= rest) :=
  fun state other alike => later state other alike state other alike

theorem act {left : Action σ τ α} {right : Action σ υ α} (agree : likeness.Agree left right) :
    Agree likeness (Setup.act left) (Setup.act right) := by
  intro state other alike
  obtain ⟨same, after⟩ := agree _ _ alike.bench
  exact ⟨same, after, alike.cursor, alike.finished⟩

theorem moveCursor (move : Cursor → Cursor) :
    Agree likeness
      (modify fun state => { state with cursor := move state.cursor } : Work σ τ Unit)
      (modify fun state => { state with cursor := move state.cursor } : Work σ υ Unit) :=
  fun _ _ alike => ⟨rfl, alike.bench, congrArg move alike.cursor, alike.finished⟩

theorem remember (id : Id) :
    Agree likeness
      (modify fun state => { state with finished := state.finished.insert id } : Work σ τ Unit)
      (modify fun state => { state with finished := state.finished.insert id } : Work σ υ Unit) :=
  fun _ _ alike => ⟨rfl, alike.bench, alike.cursor, congrArg (·.insert id) alike.finished⟩

end Work.Agree

/-! ### What a coordinator does -/

namespace Setup

section Agree

variable (since before : List Event) (setup : Setup σ τ) (store : Option (Sink υ))

theorem suiteFiles_agree :
    (Likeness.untold since before).Agree setup.suiteFiles (setup.reportingTo store).suiteFiles :=
  Likeness.inspect_agree _ setup.host _ _ _

theorem loadSuite_agree (path : String) :
    (Likeness.untold since before).Agree (setup.loadSuite path)
      ((setup.reportingTo store).loadSuite path) :=
  Likeness.inspect_agree _ setup.host _ _ _

theorem runFile_agree (build : Build) (path : String) :
    (Likeness.untold since before).Agree (setup.runFile build path)
      ((setup.reportingTo store).runFile build path) := by
  refine (loadSuite_agree since before setup store path).bind fun loaded => ?_
  cases loaded with
  | error error => exact (Likeness.Agree.report .suiteSkipped).bind fun _ => .pure []
  | ok suite =>
      exact Slot.performAll_agree since before setup.collaborators store setup.settings build suite _

theorem runFiles_agree (build : Build) (files : List String) :
    (Likeness.untold since before).Agree (setup.runFiles build files)
      ((setup.reportingTo store).runFiles build files) := by
  induction files with
  | nil => exact .pure []
  | cons path rest ih =>
      exact (runFile_agree since before setup store build path).bind fun _ =>
        ih.bind fun _ => .pure _

theorem finish_agree (id : Id) :
    Work.Agree (.untold since before) (setup.finish id) ((setup.reportingTo store).finish id) :=
  (Work.Agree.act (Likeness.acknowledge_agree _ setup.host id)).bind fun _ => .remember id

theorem passOver_agree (id : Id) (notice : Notice) (reason : String) :
    Work.Agree (.untold since before) (setup.passOver id notice reason)
      ((setup.reportingTo store).passOver id notice reason) :=
  (Work.Agree.act (.report notice)).bind fun _ =>
    (finish_agree since before setup store id).bind fun _ => .pure _

theorem benchmark_agree (build : Build) :
    Work.Agree (.untold since before) (setup.benchmark build)
      ((setup.reportingTo store).benchmark build) := by
  refine (Work.Agree.act (suiteFiles_agree since before setup store)).bind fun listed => ?_
  cases listed with
  | error error => exact .pure _
  | ok files =>
      refine (Work.Agree.act (runFiles_agree since before setup store build files)).bind fun _ => ?_
      exact (finish_agree since before setup store build.id).bind fun _ => .pure _

theorem treatFresh_agree (delivery : Delivery) :
    Work.Agree (.untold since before) (setup.treatFresh delivery)
      ((setup.reportingTo store).treatFresh delivery) := by
  unfold treatFresh
  cases delivery.body with
  | unreadable reason =>
      exact (passOver_agree since before setup store _ _ _).bind fun _ => .pure _
  | fields fields =>
      simp only
      cases Build.decode delivery.id fields with
      | error error =>
          exact (passOver_agree since before setup store _ _ _).bind fun _ => .pure _
      | ok build => exact benchmark_agree since before setup store build

theorem treat_agree (delivery : Delivery) :
    Work.Agree (.untold since before) (setup.treat delivery)
      ((setup.reportingTo store).treat delivery) := by
  refine Work.Agree.get_bind fun state other alike => ?_
  rw [alike.finished]
  by_cases known : other.finished.contains delivery.id = true
  · rw [if_pos known, if_pos known]
    exact (Work.Agree.act (Likeness.acknowledge_agree _ setup.host _)).bind fun _ => .pure _
  · rw [if_neg known, if_neg known]
    exact treatFresh_agree since before setup store delivery

theorem accept_agree (delivery : Delivery) :
    Work.Agree (.untold since before) (setup.accept delivery)
      ((setup.reportingTo store).accept delivery) :=
  (Work.Agree.moveCursor (·.advance delivery.id)).bind fun _ =>
    treat_agree since before setup store delivery

theorem claim_agree :
    Work.Agree (.untold since before) setup.claim (setup.reportingTo store).claim := by
  have settings : (setup.reportingTo store).settings = setup.settings := rfl
  unfold claim
  rw [settings]
  cases setup.settings.claimIdle with
  | none => exact .pure none
  | some idle =>
      refine (Work.Agree.act (Likeness.takeOver_agree _ setup.host idle)).bind fun answer => ?_
      cases answer with
      | ok delivery => exact .pure delivery
      | error error => exact (Work.Agree.act (.report .claimFailed)).bind fun _ => .pure none

theorem readNext_agree :
    Work.Agree (.untold since before) setup.readNext (setup.reportingTo store).readNext := by
  refine Work.Agree.get_bind fun state other alike => ?_
  rw [alike.cursor]
  exact .act (Likeness.read_agree _ setup.host _)

theorem followRead_agree (answer : Except QueueError (Option Delivery)) :
    Work.Agree (.untold since before) (setup.followRead answer)
      ((setup.reportingTo store).followRead answer) := by
  cases answer with
  | error error => exact .pure _
  | ok delivery =>
      cases delivery with
      | none => exact (Work.Agree.moveCursor (·.exhaust)).bind fun _ => .pure _
      | some delivery => exact accept_agree since before setup store delivery

theorem iterate_agree :
    Work.Agree (.untold since before) setup.iterate (setup.reportingTo store).iterate := by
  refine (claim_agree since before setup store).bind fun claimed => ?_
  cases claimed with
  | some delivery => exact treat_agree since before setup store delivery
  | none =>
      exact (readNext_agree since before setup store).bind fun answer =>
        followRead_agree since before setup store answer

theorem cancelled_agree :
    Work.Agree (.untold since before) setup.cancelled (setup.reportingTo store).cancelled :=
  .act (.onHost setup.host.cancelled)

theorem runUnlessCancelled_agree :
    Work.Agree (.untold since before) setup.runUnlessCancelled
      (setup.reportingTo store).runUnlessCancelled := by
  have asked := cancelled_agree since before setup store
  have gone (cancelled : Bool) {left : Work σ τ (Option (Except Error Iteration))}
      {right : Work σ υ (Option (Except Error Iteration))}
      (otherwise : Work.Agree (.untold since before) left right) :
      Work.Agree (.untold since before) (if cancelled then return none else left)
        (if cancelled then return none else right) := by
    cases cancelled with
    | true => exact .pure none
    | false => exact otherwise
  refine asked.bind fun cancelled => gone cancelled ?_
  refine (claim_agree since before setup store).bind fun claimed => ?_
  refine asked.bind fun cancelled => gone cancelled ?_
  cases claimed with
  | some delivery =>
      exact (treat_agree since before setup store delivery).bind fun _ => .pure _
  | none =>
      refine (readNext_agree since before setup store).bind fun answer => ?_
      refine asked.bind fun cancelled => gone cancelled ?_
      exact (followRead_agree since before setup store answer).bind fun _ => .pure _

theorem run_agree (iterations : Nat) :
    Work.Agree (.untold since before) (setup.run iterations)
      ((setup.reportingTo store).run iterations) := by
  induction iterations with
  | zero => exact .pure false
  | succ iterations ih =>
      refine (runUnlessCancelled_agree since before setup store).bind fun ended => ?_
      cases ended with
      | none => exact .pure true
      | some result =>
          cases result with
          | ok iteration => exact ih
          | error error =>
              refine (Work.Agree.act (.report .iterationFailed)).bind fun _ => ?_
              refine (cancelled_agree since before setup store).bind fun cancelled => ?_
              cases cancelled with
              | true => exact .pure true
              | false => exact ih

theorem meet_agree (delivery : Delivery) :
    Work.Agree (.untold since before) (meet delivery : Work σ τ _) (meet delivery : Work σ υ _) := by
  refine Work.Agree.get_bind fun state other alike => ?_
  rw [alike.finished]
  by_cases known : other.finished.contains delivery.id = true
  · rw [if_pos known, if_pos known]
    exact .pure _
  · rw [if_neg known, if_neg known]
    cases delivery.body with
    | unreadable reason => exact (Work.Agree.act (.report .entryUnreadable)).bind fun _ => .pure _
    | fields fields =>
        simp only
        cases Build.decode delivery.id fields with
        | error error =>
            exact (Work.Agree.act (.report .buildUndescribed)).bind fun _ => .pure _
        | ok build => exact .pure _

theorem survey_agree (build : Build) :
    Work.Agree (.untold since before) (setup.survey build)
      ((setup.reportingTo store).survey build) := by
  refine (Work.Agree.act (suiteFiles_agree since before setup store)).bind fun listed => ?_
  cases listed <;> exact .pure _

theorem turnTo_agree (build : Build) (path : String) (rest : List String)
    (outcomes : List Outcome) :
    Work.Agree (.untold since before) (setup.turnTo build path rest outcomes)
      ((setup.reportingTo store).turnTo build path rest outcomes) := by
  refine (Work.Agree.act (loadSuite_agree since before setup store path)).bind fun loaded => ?_
  cases loaded with
  | error error => exact (Work.Agree.act (.report .suiteSkipped)).bind fun _ => .pure _
  | ok suite => exact .pure _

theorem step_agree (stage : Stage) :
    Work.Agree (.untold since before) (setup.step stage)
      ((setup.reportingTo store).step stage) := by
  cases stage with
  | resting => exact (claim_agree since before setup store).bind fun _ => .pure _
  | claimed delivery =>
      cases delivery with
      | some delivery => exact .pure _
      | none => exact (readNext_agree since before setup store).bind fun _ => .pure _
  | answered answer =>
      cases answer with
      | error error => exact .pure _
      | ok delivery =>
          cases delivery with
          | none => exact (Work.Agree.moveCursor (·.exhaust)).bind fun _ => .pure _
          | some delivery => exact (Work.Agree.moveCursor (·.advance delivery.id)).bind fun _ => .pure _
  | received delivery => exact meet_agree since before delivery
  | described build => exact survey_agree since before setup store build
  | amidFiles build files outcomes =>
      cases files with
      | nil => exact .pure _
      | cons path rest => exact turnTo_agree since before setup store build path rest outcomes
  | amidSlots build suite slots files outcomes =>
      cases slots with
      | nil => exact .pure _
      | cons slot rest =>
          exact (Work.Agree.act (Slot.perform_agree since before setup.collaborators store
            setup.settings build suite slot)).bind fun _ => .pure _
  | closing id iteration => exact (finish_agree since before setup store id).bind fun _ => .pure _
  | repeating id =>
      exact (Work.Agree.act (Likeness.acknowledge_agree _ setup.host id)).bind fun _ => .pure _
  | ended result => exact .pure _

end Agree

/-! ### Whole lives -/

/-- The same activity. Whoever meddles does what he likes to the metrics stores. -/
inductive Activity.Alike : Activity σ τ → Activity σ υ → Prop
  | iterate : Alike .iterate .iterate
  | process (delivery : Delivery) : Alike (.process delivery) (.process delivery)
  | run (iterations : Nat) : Alike (.run iterations) (.run iterations)
  | meddle (host : σ) (files : Files.Tree) (sink : τ) (store : υ) :
      Alike (.meddle host sink files) (.meddle host store files)

/-- Two workers take one step each, again and again, while others do the same to both at any time,
and what they like to the metrics stores. -/
inductive Abreast (setup : Setup σ τ) (store : Option (Sink υ)) (first : Worker σ τ)
    (opposite : Worker σ υ) : Worker σ τ → Worker σ υ → Prop
  | refl : Abreast setup store first opposite first opposite
  | step {worker : Worker σ τ} {other : Worker σ υ}
      (abreast : Abreast setup store first opposite worker other) :
      Abreast setup store first opposite (setup.next worker) ((setup.reportingTo store).next other)
  | meddle {worker : Worker σ τ} {other : Worker σ υ}
      (abreast : Abreast setup store first opposite worker other) (host : σ) (files : Files.Tree)
      (sink : τ) (given : υ) :
      Abreast setup store first opposite (meddled worker host sink files)
        (meddled other host given files)

variable {setup : Setup σ τ} {store : Option (Sink υ)} {since before : List Event}
  {state : State σ τ} {other : State σ υ}

theorem State.Holds.meddled {likeness : Likeness} (alike : State.Holds likeness state other)
    (host : σ) (files : Files.Tree) (sink : τ) (given : υ) :
    State.Holds likeness { state with bench := { state.bench with host, sink, files } }
      { other with bench := { other.bench with host, sink := given, files } } :=
  ⟨⟨rfl, rfl, alike.bench.ledger, alike.bench.journals⟩, alike.cursor, alike.finished⟩

theorem life_agree {activities : List (Activity σ τ)} {others : List (Activity σ υ)}
    (same : List.Forall₂ Activity.Alike activities others)
    (alike : State.Holds (.untold since before) state other) :
    State.Holds (.untold since before) (setup.life state activities)
      ((setup.reportingTo store).life other others) := by
  induction same generalizing state other with
  | nil => exact alike
  | cons first rest ih =>
      refine ih ?_
      cases first with
      | iterate => exact (iterate_agree since before setup store _ _ alike).2
      | process delivery => exact (accept_agree since before setup store delivery _ _ alike).2
      | run iterations => exact (run_agree since before setup store iterations _ _ alike).2
      | meddle host files sink given => exact State.Holds.meddled alike host files sink given

theorem Abreast.agree {first worker : Worker σ τ} {opposite last : Worker σ υ}
    (abreast : setup.Abreast store first opposite worker last) (stage : first.stage = opposite.stage)
    (alike : State.Holds (.untold since before) first.state opposite.state) :
    worker.stage = last.stage ∧ State.Holds (.untold since before) worker.state last.state := by
  induction abreast with
  | refl => exact ⟨stage, alike⟩
  | step abreast ih =>
      rename_i worker last
      obtain ⟨stage, state⟩ := worker
      obtain ⟨opposite, final⟩ := last
      obtain ⟨rfl, alike⟩ := ih
      obtain ⟨ended, after⟩ := step_agree since before setup store stage _ _ alike
      exact ⟨congrArg (·.2) ended, after⟩
  | meddle abreast host files sink given ih =>
      exact ⟨ih.1, State.Holds.meddled ih.2 host files sink given⟩

end Setup

/-! ### What the store does not touch -/

/-- The same in all but the metrics stores and what has happened so far. -/
structure State.Alike (state : State σ τ) (other : State σ υ) : Prop where
  host : state.bench.host = other.bench.host
  files : state.bench.files = other.bench.files
  ledger : state.bench.ledger = other.bench.ledger
  cursor : state.cursor = other.cursor
  finished : state.finished = other.finished

/-- From two states, two coordinators come to states that are alike, and meanwhile the same happened
to both, but for what the stores were told. -/
structure State.StayAlike (state after : State σ τ) (other last : State σ υ) : Prop where
  alike : after.Alike last
  events : ∃ made others, after.bench.journal = state.bench.journal ++ made ∧
    last.bench.journal = other.bench.journal ++ others ∧ untold made = untold others

theorem State.Alike.holds {state : State σ τ} {other : State σ υ} (alike : state.Alike other) :
    State.Holds (.untold state.bench.journal other.bench.journal) state other :=
  ⟨⟨alike.host, alike.files, alike.ledger, [], [], (List.append_nil _).symm,
    (List.append_nil _).symm, rfl⟩, alike.cursor, alike.finished⟩

theorem State.Holds.stayAlike {state after : State σ τ} {other last : State σ υ}
    (holds : State.Holds (.untold state.bench.journal other.bench.journal) after last) :
    state.StayAlike after other last :=
  ⟨⟨holds.bench.host, holds.bench.files, holds.bench.ledger, holds.cursor, holds.finished⟩,
    holds.bench.journals⟩

/-- Both end in the same way. -/
def SameEnd (state : State σ τ) (ended : α × State σ τ) (other : State σ υ)
    (given : α × State σ υ) : Prop :=
  ended.1 = given.1 ∧ state.StayAlike ended.2 other given.2

theorem Work.Agree.sameEnd {left : Work σ τ α} {right : Work σ υ α} {state : State σ τ}
    {other : State σ υ}
    (agree : Work.Agree (.untold state.bench.journal other.bench.journal) left right)
    (alike : state.Alike other) : SameEnd state (left state) other (right other) := by
  obtain ⟨same, holds⟩ := agree state other alike.holds
  exact ⟨same, holds.stayAlike⟩

/-! ### Runs with other ids, at other times, in other directories -/

theorem Event.Alike.isTelling {event other : Event} (alike : event.Alike other) :
    event.isTelling = other.isTelling := by
  cases alike <;> rfl

theorem untold_alike {events others : List Event} (alike : List.Forall₂ Event.Alike events others) :
    List.Forall₂ Event.Alike (untold events) (untold others) := by
  refine List.rel_filter ?_ alike
  intro event other same
  simp only [Event.Alike.isTelling same]

theorem untold_calls {made others : List Event} (same : untold made = untold others) :
    untold (made.filter Event.isCall) = untold (others.filter Event.isCall) := by
  have swapped (events : List Event) :
      untold (events.filter Event.isCall) = (untold events).filter Event.isCall := by
    unfold untold
    rw [List.filter_filter, List.filter_filter]
    simp only [Bool.and_comm]
  rw [swapped, swapped, same]

theorem State.StayAlike.calls {state after : State σ τ} {other last : State σ υ}
    (stay : state.StayAlike after other last) {given : List Event}
    (calls : last.bench.calls = other.bench.calls ++ given) :
    ∃ made, after.bench.calls = state.bench.calls ++ made ∧ untold made = untold given := by
  obtain ⟨made, others, journal, opposite, same⟩ := stay.events
  refine ⟨made.filter Event.isCall, ?_, ?_⟩
  · rw [Bench.calls, journal, List.filter_append, Bench.calls]
  · rw [Bench.calls, opposite, List.filter_append] at calls
    rw [← List.append_cancel_left calls]
    exact untold_calls same

/-- Results that are alike leave the same remembered. -/
theorem ResultAlike.finished {result given : Except Error Iteration} {delivery : Delivery}
    {window finished others : Window} (alike : ResultAlike result given)
    (handles : Stage.Handles delivery window (.ended result) finished)
    (likewise : Stage.Handles delivery window (.ended given) others) : finished = others := by
  have completed : completed? result = completed? given := by cases alike <;> rfl
  have succeeds (known : window.contains delivery.id = true)
      (unknown : window.contains delivery.id = false) : False := by
    rw [known] at unknown
    cases unknown
  have contradicts {result : Except Error Iteration}
      (done : completed? result = some delivery.id) (failed : ∃ error, result = .error error) :
      False := by
    obtain ⟨error, rfl⟩ := failed
    cases done
  rcases handles with ⟨known, -, rfl⟩ | ⟨unknown, done, rfl⟩ | ⟨unknown, failed, rfl⟩
  · rcases likewise with ⟨-, -, rfl⟩ | ⟨unknown, -, -⟩ | ⟨unknown, -, -⟩
    · rfl
    · exact (succeeds known unknown).elim
    · exact (succeeds known unknown).elim
  · rcases likewise with ⟨known, -, -⟩ | ⟨-, -, rfl⟩ | ⟨-, failed, -⟩
    · exact (succeeds known unknown).elim
    · rfl
    · exact (contradicts (completed.symm.trans done) failed).elim
  · rcases likewise with ⟨known, -, -⟩ | ⟨-, done, -⟩ | ⟨-, -, rfl⟩
    · exact (succeeds known unknown).elim
    · exact (contradicts (completed.trans done) failed).elim
    · rfl

section Mirrored

variable {settings : Settings} {catalog : Catalog} {left : Collaborators σ τ}
  {right : Collaborators ρ ω} (mirror : Mirror settings catalog left right)

/-- Coordinators that remember the same handle an entry alike if they are answered alike. -/
theorem treat_alike {delivery : Delivery} {state : State σ τ} {other : State ρ ω}
    {since : List Event × List Event} (finished : state.finished = other.finished)
    (on : mirror.On since .between state.bench other.bench) :
    let ended := (Setup.mk left settings catalog).treat delivery state
    let given := (Setup.mk right settings catalog).treat delivery other
    ResultAlike ended.1 given.1 ∧ mirror.On since .between ended.2.bench given.2.bench ∧
      ended.2.finished = given.2.finished := by
  intro ended given
  have results : ResultAlike ended.1 given.1 ∧
      mirror.On since .between ended.2.bench given.2.bench := by
    by_cases known : state.finished.contains delivery.id = true
    · have again : ended = _ := treat_known known
      rw [finished] at known
      have likewise : given = _ := treat_known known
      rw [again, likewise]
      exact ⟨.same _, (mirror.acknowledge_pairs delivery.id _ _ _ on).2⟩
    · rw [Bool.not_eq_true] at known
      obtain ⟨result, bench⟩ := (Setup.mk left settings catalog).treat_bench known
      rw [finished] at known
      obtain ⟨opposite, last⟩ := (Setup.mk right settings catalog).treat_bench known
      rw [show ended.1 = _ from result, show given.1 = _ from opposite,
        show ended.2.bench = _ from bench, show given.2.bench = _ from last]
      exact mirror.treatment_pairs delivery _ _ _ on
  refine ⟨results.1, results.2, ?_⟩
  have handled := path_handles ((Setup.mk left settings catalog).path_treat (.refl : Setup.Path _
    ⟨.received delivery, state⟩ _))
  have likewise := path_handles ((Setup.mk right settings catalog).path_treat (.refl : Setup.Path _
    ⟨.received delivery, other⟩ _))
  rw [finished] at handled
  exact results.1.finished handled likewise

end Mirrored

/-! ### Main result -/

/-- Coordinators with the same settings, topologies and others to call, of which one tells this
metrics store and one that store, or none. In the same state they do the same, whatever the stores
answer: an entry, an iteration, a loop, and a whole life end in the same way, with the same events in
between but for what the stores are told, and leave the host, the files, the ledger, the cursor and
what is remembered the same. So they do after each step, if others do the same to both. And where runs
get other ids, begin at other times or work in other directories on the two sides, a handling still
ends alike, after calls that are alike in the same order. -/
theorem store_stands_by (setup : Setup σ τ) (store : Option (Sink υ)) :
    let opposite := setup.reportingTo store
    (∀ (state : State σ τ) (other : State σ υ), state.Alike other →
      (∀ delivery, SameEnd state (setup.treat delivery state) other
        (opposite.treat delivery other)) ∧
      (∀ delivery, SameEnd state (setup.accept delivery state) other
        (opposite.accept delivery other)) ∧
      SameEnd state (setup.iterate state) other (opposite.iterate other) ∧
      (∀ iterations, SameEnd state (setup.run iterations state) other
        (opposite.run iterations other)) ∧
      (∀ activities others, List.Forall₂ Setup.Activity.Alike activities others →
        state.StayAlike (setup.life state activities) other (opposite.life other others)) ∧
      ∀ stage worker last, setup.Abreast store ⟨stage, state⟩ ⟨stage, other⟩ worker last →
        worker.stage = last.stage ∧ state.StayAlike worker.state other last.state) ∧
    ∀ (host : Host ρ) (sink : Option (Sink ω))
      (mirror : Mirror setup.settings setup.catalog
        (setup.reportingTo (none : Option (Sink τ))).collaborators
        (⟨host, none⟩ : Collaborators ρ ω))
      (state : State σ τ) (other : State ρ ω) (delivery : Delivery),
      mirror.Alike .between state.bench.site other.bench.site →
      state.bench.ledger = other.bench.ledger → state.cursor = other.cursor →
      state.finished = other.finished →
      let ended := setup.treat delivery state
      let given := (Setup.mk ⟨host, sink⟩ setup.settings setup.catalog).treat delivery other
      ResultAlike ended.1 given.1 ∧
        (∃ calls others, ended.2.bench.calls = state.bench.calls ++ calls ∧
          given.2.bench.calls = other.bench.calls ++ others ∧
          List.Forall₂ Event.Alike (untold calls) (untold others)) ∧
        ended.2.bench.ledger = given.2.bench.ledger ∧ ended.2.cursor = given.2.cursor ∧
        ended.2.finished = given.2.finished ∧
        ∃ kept likewise, mirror.Alike .between
          ⟨ended.2.bench.host, kept, ended.2.bench.files⟩
          ⟨given.2.bench.host, likewise, given.2.bench.files⟩ := by
  intro opposite
  constructor
  · intro state other alike
    refine ⟨?_, ?_, ?_, ?_, ?_, ?_⟩
    · intro delivery
      exact (setup.treat_agree _ _ store delivery).sameEnd alike
    · intro delivery
      exact (setup.accept_agree _ _ store delivery).sameEnd alike
    · exact (setup.iterate_agree _ _ store).sameEnd alike
    · intro iterations
      exact (setup.run_agree _ _ store iterations).sameEnd alike
    · intro activities others same
      exact (Setup.life_agree same alike.holds).stayAlike
    · intro stage worker last abreast
      obtain ⟨same, holds⟩ := abreast.agree rfl alike.holds
      exact ⟨same, holds.stayAlike⟩
  · intro host sink mirror state other delivery site ledger cursor finished ended given
    -- Between the two stand coordinators that tell nobody.
    let quiet : Setup σ τ := setup.reportingTo none
    let still : Setup ρ ω := ⟨⟨host, none⟩, setup.settings, setup.catalog⟩
    have left : SameEnd state ended state (quiet.treat delivery state) :=
      (setup.treat_agree _ _ none delivery).sameEnd ⟨rfl, rfl, rfl, rfl, rfl⟩
    have right : SameEnd other given other (still.treat delivery other) :=
      ((Setup.mk ⟨host, sink⟩ setup.settings setup.catalog).treat_agree _ _ none delivery).sameEnd
        ⟨rfl, rfl, rfl, rfl, rfl⟩
    have begun : mirror.On (state.bench.calls, other.bench.calls) .between state.bench other.bench :=
      ⟨site, ledger, [], [], (List.append_nil _).symm, (List.append_nil _).symm, .nil⟩
    obtain ⟨results, on, remembered⟩ := treat_alike mirror finished begun
    obtain ⟨calls, others, made, opposite, alike⟩ := on.calls
    obtain ⟨told, leftCalls, leftUntold⟩ := left.2.calls made
    obtain ⟨reported, rightCalls, rightUntold⟩ := right.2.calls opposite
    refine ⟨?_, ⟨told, reported, leftCalls, rightCalls, ?_⟩, ?_, ?_, ?_, ?_⟩
    · rw [left.1, right.1]
      exact results
    · rw [leftUntold, rightUntold]
      exact untold_alike alike
    · rw [left.2.alike.ledger, right.2.alike.ledger]
      exact on.ledger
    · rw [treat_cursor, treat_cursor, cursor]
    · rw [left.2.alike.finished, right.2.alike.finished]
      exact remembered
    · refine ⟨(quiet.treat delivery state).2.bench.sink,
        (still.treat delivery other).2.bench.sink, ?_⟩
      rw [left.2.alike.host, left.2.alike.files, right.2.alike.host, right.2.alike.files]
      exact on.site

/-- A coordinator without a store, and two with a store that refuses everything, of which the second
gives other ids to its runs. -/
theorem store_stands_by_rehearsed :
    let setup := Setup.withSuite 8
    let telling := setup.reportingTo (some Rehearsal.sink)
    let renamed : Setup Rehearsal.Script (Option String) :=
      { telling with
        collaborators := ⟨renamedHost setup.host fun _ => "other", some Rehearsal.sink⟩ }
    let state := setup.start .start () suiteTree .undelivered
    let other := telling.start .start (some "down") suiteTree .undelivered
    (setup.treat suiteDelivery state).1 = (telling.treat suiteDelivery other).1 ∧
      ResultAlike (setup.treat suiteDelivery state).1 (renamed.treat suiteDelivery other).1 := by
  intro setup telling renamed state other
  have alike : state.Alike other := ⟨rfl, rfl, rfl, rfl, rfl⟩
  let mirror : Mirror setup.settings setup.catalog
      (setup.reportingTo (none : Option (Sink Unit))).collaborators
      (⟨renamedHost setup.host fun _ => "other", none⟩ :
        Collaborators Rehearsal.Script (Option String)) :=
    .renamed setup.settings setup.catalog setup.host fun _ => "other"
  have stands := @store_stands_by Rehearsal.Script Unit (Option String) Rehearsal.Script
    (Option String) setup (some Rehearsal.sink)
  have mirrored := stands.2 (renamedHost setup.host fun _ => "other") (some Rehearsal.sink) mirror
    state other suiteDelivery ⟨rfl, rfl, trivial⟩ rfl rfl rfl
  exact ⟨((stands.1 state other alike).1 suiteDelivery).1, mirrored.1⟩

end BuildBench.Coordinator
