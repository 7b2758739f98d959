import BuildBench.Proofs.Coordinator.Feed
import BuildBench.Proofs.Coordinator.Succession
import BuildBench.Proofs.Run.Files

set_option autoImplicit false

/-! The cursor of a coordinator. Main statement: only the answers to reads move it, so that a
coordinator whose queue keeps to the order of ids never reads an entry twice, and reads what stayed
pending for it before it asks for anything new. -/

namespace BuildBench.Coordinator

open BuildBench.Definition BuildBench.Entry BuildBench.Run

variable {ι σ τ α β : Type}

/-! ### Work that leaves a part of the state alone -/

namespace Work

variable {γ : Type}

def Keeps (part : State σ τ → γ) (work : Work σ τ α) : Prop :=
  ∀ state, part (work state).2 = part state

namespace Keeps

variable {part : State σ τ → γ}

theorem pure (value : α) : Keeps part (Pure.pure value : Work σ τ α) :=
  fun _ => rfl

theorem bind {work : Work σ τ α} {next : α → Work σ τ β} (first : Keeps part work)
    (rest : ∀ value, Keeps part (next value)) : Keeps part (work >>= next) := by
  intro state
  rw [bind_apply, rest, first]

theorem get_bind {next : State σ τ → Work σ τ β} (rest : ∀ state, Keeps part (next state)) :
    Keeps part (get >>= next) :=
  fun state => rest state state

end Keeps

def KeepsCursor (work : Work σ τ α) : Prop :=
  ∀ state, (work state).2.cursor = state.cursor

theorem act_keepsCursor (action : Action σ τ α) : KeepsCursor (Setup.act action) :=
  fun _ => rfl

end Work

open Work

-- Outside the runs no action changes a file, so that what such actions keep is kept between runs.
section Between

variable {γ : Type} {part : State σ τ → γ}
  (acts : ∀ {α : Type} {action : Action σ τ α}, action.KeepsFiles → Keeps part (Setup.act action))

include acts

theorem claim_keeps (setup : Setup σ τ) : Keeps part setup.claim := by
  unfold Setup.claim
  cases setup.settings.claimIdle with
  | none => exact .pure _
  | some idle =>
      have asks : Action.KeepsFiles (Action.takeOver setup.host idle : Action σ τ _) :=
        (Action.KeepsFiles.onHost _).entered _ fun _ => .pure _
      refine (acts asks).bind fun answer => ?_
      cases answer with
      | ok delivery => exact .pure _
      | error error => exact (acts (.report _)).bind fun _ => .pure _

theorem readNext_keeps (setup : Setup σ τ) : Keeps part setup.readNext :=
  .get_bind fun _ => acts ((Action.KeepsFiles.onHost _).entered _ fun _ => .pure _)

theorem meet_keeps (delivery : Delivery) :
    Keeps part (Setup.meet delivery : Work σ τ (Option Deed × Stage)) := by
  refine .get_bind fun state => ?_
  split
  · exact .pure _
  · cases delivery.body with
    | unreadable reason => exact (acts (.report _)).bind fun _ => .pure _
    | fields fields =>
        dsimp only
        cases Build.decode delivery.id fields with
        | error error => exact (acts (.report _)).bind fun _ => .pure _
        | ok build => exact .pure _

theorem survey_keeps (setup : Setup σ τ) (build : Build) : Keeps part (setup.survey build) := by
  have lists : Action.KeepsFiles setup.suiteFiles := .inspect setup.host _ _ _
  refine (acts lists).bind fun answer => ?_
  cases answer <;> exact .pure _

theorem turnTo_keeps (setup : Setup σ τ) (build : Build) (path : String) (rest : List String)
    (outcomes : List Outcome) : Keeps part (setup.turnTo build path rest outcomes) := by
  have loads : Action.KeepsFiles (setup.loadSuite path) := .inspect setup.host _ _ _
  refine (acts loads).bind fun answer => ?_
  cases answer with
  | error error => exact (acts (.report _)).bind fun _ => .pure _
  | ok suite => exact .pure _

theorem acknowledge_keeps (host : Host σ) (id : Id) :
    Keeps part (Setup.act (Action.acknowledge host id) : Work σ τ Unit) := by
  refine acts ((Action.KeepsFiles.onHost _).entered _ fun answer => ?_)
  cases answer with
  | ok value => exact .pure ()
  | error cause => exact .report _

end Between

theorem claim_keepsCursor (setup : Setup σ τ) : KeepsCursor setup.claim :=
  claim_keeps (fun _ => act_keepsCursor _) setup

theorem readNext_keepsCursor (setup : Setup σ τ) : KeepsCursor setup.readNext :=
  readNext_keeps (fun _ => act_keepsCursor _) setup

/-! ### Steps -/

/-- Where the answer at hand is about to move the cursor. -/
def Stage.due (cursor : Cursor) : Stage → Cursor
  | .answered (.ok (some delivery)) => .after delivery.id
  | .answered (.ok none) => .undelivered
  | _ => cursor

theorem step_cursor (setup : Setup σ τ) (stage : Stage) (state : State σ τ) :
    (setup.step stage state).2.cursor = stage.due state.cursor := by
  have acts {α : Type} {action : Action σ τ α} (_ : action.KeepsFiles) :
      Keeps State.cursor (Setup.act action) := act_keepsCursor action
  cases stage with
  | resting => exact claim_keepsCursor setup state
  | claimed delivery =>
      cases delivery with
      | some delivery => rfl
      | none => exact readNext_keepsCursor setup state
  | answered answer =>
      cases answer with
      | error error => rfl
      | ok delivery => cases delivery <;> rfl
  | received delivery => exact meet_keeps acts delivery state
  | described build => exact survey_keeps acts setup build state
  | amidFiles build files outcomes =>
      cases files with
      | nil => rfl
      | cons path rest => exact turnTo_keeps acts setup build path rest outcomes state
  | amidSlots build suite slots files outcomes => cases slots <;> rfl
  | closing id iteration => exact acknowledge_keeps acts setup.host id state
  | repeating id => rfl
  | ended result => rfl

theorem Stage.Follows.due {finished : Window} {stage after : Stage}
    (follows : stage.Follows finished after) (other : stage ≠ .claimed none) (cursor : Cursor) :
    after.due cursor = cursor := by
  cases follows with
  | answered answer => exact absurd rfl other
  | _ => rfl

theorem Stage.Calls.unread {stage : Stage} {made : List Event} (listed : stage.Calls made)
    (other : stage ≠ .claimed none) : ∀ event ∈ made, event.isRead = false := by
  intro event member
  cases listed with
  | claim idle answer =>
      rw [List.mem_singleton.mp member]
      rfl
  | read cursor answer => exact absurd rfl other
  | pass others =>
      have notRequest := others event member
      cases event with
      | read cursor answer => cases notRequest
      | _ => rfl
  | finish id iteration answer =>
      rw [List.mem_singleton.mp member]
      rfl
  | again id answer =>
      rw [List.mem_singleton.mp member]
      rfl
  | nothing silent => cases member

/-- Once an entry is at hand no answer is left that could move the cursor. -/
theorem Stage.due_of_handling {stage : Stage} {cursor : Cursor}
    (handling : stage.canCancel = false) : stage.due cursor = cursor := by
  cases stage with
  | answered answer => cases handling
  | _ => rfl

theorem Stage.Follows.handling {finished : Window} {stage after : Stage}
    (follows : stage.Follows finished after) (handling : stage.canCancel = false) :
    after.canCancel = false := by
  cases follows with
  | claimed delivery => cases handling
  | answered answer => cases handling
  | _ => rfl

/-! ### Sessions -/

namespace Setup

/-- A coordinator goes through iterations in single steps, and others may do what they can between
any two of them. The feeds are those of the group so far, the latest first, and the present one. -/
inductive Session (setup : Setup σ τ) (consumer : ι) (begin : Cursor) :
    List (Feed ι) → Feed ι → Worker σ τ → Prop
  | start (host : σ) (sink : τ) (files : Files.Tree) (feed : Feed ι) :
      Session setup consumer begin [] feed ⟨.resting, setup.start host sink files begin⟩
  | step {past : List (Feed ι)} {feed after : Feed ι} {worker : Worker σ τ} {made : List Event}
      (session : Session setup consumer begin past feed worker)
      (calls : (setup.next worker).bench.calls = worker.bench.calls ++ made)
      (serves : Feed.Serves consumer made feed after) :
      Session setup consumer begin (feed :: past) after (setup.next worker)
  | meddle {past : List (Feed ι)} {feed after : Feed ι} {worker : Worker σ τ}
      (session : Session setup consumer begin past feed worker) (host : σ) (sink : τ)
      (files : Files.Tree) (meddles : feed.Meddles consumer after) :
      Session setup consumer begin (feed :: past) after (meddled worker host sink files)
  | rest {past : List (Feed ι)} {feed : Feed ι} {worker : Worker σ τ}
      {result : Except Error Iteration}
      (session : Session setup consumer begin past feed worker)
      (ended : worker.stage = .ended result) :
      Session setup consumer begin past feed { worker with stage := .resting }

end Setup

variable {setup : Setup σ τ} {consumer : ι} {begin : Cursor} {past : List (Feed ι)}
  {feed after : Feed ι} {worker : Worker σ τ}

/-- The reads so far are in order, and the cursor is where their answers have left it. -/
structure OnCourse (consumer : ι) (begin : Cursor) (past : List (Feed ι)) (feed : Feed ι)
    (worker : Worker σ τ) : Prop where
  order : InOrder consumer begin past feed worker.bench.calls
  cursor : worker.stage.due worker.state.cursor = cursorAfter begin worker.bench.calls

theorem OnCourse.step {made : List Event} (onCourse : OnCourse consumer begin past feed worker)
    (calls : (setup.next worker).bench.calls = worker.bench.calls ++ made)
    (serves : Feed.Serves consumer made feed after) :
    OnCourse consumer begin (feed :: past) after (setup.next worker) := by
  obtain ⟨stage, state⟩ := worker
  obtain ⟨order, cursor⟩ := onCourse
  -- Only a coordinator that has found nothing to claim reads. Every other step leaves the order
  -- of the reads and the cursor as they are.
  by_cases reads : stage = .claimed none
  · subst reads
    have here : state.cursor =
        cursorAfter begin (Worker.mk (.claimed none) state).bench.calls := cursor
    have asked := (Action.read_makes setup.host state.bench state.cursor).calls
    have same : made = [.read state.cursor (Action.read setup.host state.cursor state.bench).1] :=
      List.append_cancel_left (calls.symm.trans asked)
    rw [same, here] at serves
    have read := order.read serves.single
    rw [← here] at read
    constructor
    · rw [calls, same]
      exact read
    · rw [calls, same, cursorAfter_append]
      have answered : (setup.next ⟨.claimed none, state⟩).stage =
          .answered (Action.read setup.host state.cursor state.bench).1 := rfl
      have kept : (setup.next ⟨.claimed none, state⟩).state.cursor = state.cursor :=
        step_cursor setup (.claimed none) state
      rw [answered, kept]
      cases (Action.read setup.host state.cursor state.bench).1 with
      | error error => exact here
      | ok delivery => cases delivery <;> rfl
  · obtain ⟨listed, isListed, stepped, _⟩ := setup.step_makes state stage
    have same : made = listed := List.append_cancel_left (calls.symm.trans stepped)
    have unread := isListed.unread reads
    rw [← same] at unread
    constructor
    · rw [calls]
      exact order.still unread (Nat.le_of_eq (congrArg Id.rank (serves.last_eq unread).symm))
    · have moved : (setup.next ⟨stage, state⟩).stage.due (setup.next ⟨stage, state⟩).state.cursor =
          (setup.next ⟨stage, state⟩).state.cursor :=
        (step_follows setup stage state).due reads _
      rw [moved, calls, cursorAfter_append, (unread_events unread _).2.1, ← cursor]
      exact step_cursor setup stage state

theorem Setup.Session.onCourse (session : setup.Session consumer begin past feed worker) :
    OnCourse consumer begin past feed worker := by
  induction session with
  | start host sink files feed => exact ⟨InOrder.start feed begin [], rfl⟩
  | step session calls serves ih => exact ih.step calls serves
  | meddle session host sink files meddles ih =>
      refine ⟨?_, ih.cursor⟩
      have none : ∀ event ∈ ([] : List Event), event.isRead = false := by
        intro event member
        cases member
      have still := ih.order.still none meddles.last_le
      rw [List.append_nil] at still
      exact still
  | rest session ended ih =>
      refine ⟨ih.order, ?_⟩
      have cursor := ih.cursor
      rw [ended] at cursor
      exact cursor

/-! ### Iterations -/

/-- Calls are only ever added. -/
theorem Setup.Path.calls {first last : Worker σ τ} (path : setup.Path first last) :
    ∃ made, last.bench.calls = first.bench.calls ++ made := by
  induction path with
  | refl => exact ⟨[], (List.append_nil _).symm⟩
  | step path ih =>
      rename_i middle
      obtain ⟨made, calls⟩ := ih
      obtain ⟨listed, _, stepped, _⟩ := setup.step_makes middle.state middle.stage
      refine ⟨made ++ listed, ?_⟩
      rw [← List.append_assoc, ← calls]
      exact stepped
  | meddle path host sink files ih => exact ih

/-- What the queue serves in the course of a path is a part of a session. -/
theorem Setup.Session.ofPath {last : Worker σ τ} {made : List Event}
    (session : setup.Session consumer begin past feed worker) (path : setup.Path worker last)
    (calls : last.bench.calls = worker.bench.calls ++ made)
    (serves : Feed.Serves consumer made feed after) :
    ∃ later, setup.Session consumer begin later after last := by
  induction path generalizing made after with
  | refl =>
      have none : made = [] := List.append_right_eq_self.mp calls.symm
      rw [none] at serves
      cases serves
      exact ⟨past, session⟩
  | step path ih =>
      rename_i middle
      obtain ⟨earlier, madeEarlier⟩ := path.calls
      obtain ⟨listed, _, stepped, _⟩ := setup.step_makes middle.state middle.stage
      have split : made = earlier ++ listed := by
        refine List.append_cancel_left (calls.symm.trans ?_)
        rw [← List.append_assoc, ← madeEarlier]
        exact stepped
      rw [split] at serves
      obtain ⟨between, first, second⟩ := serves.append
      obtain ⟨later, reached⟩ := ih madeEarlier first
      exact ⟨_, reached.step stepped second⟩
  | meddle path host sink files ih =>
      obtain ⟨later, reached⟩ := ih calls serves
      exact ⟨_, reached.meddle host sink files .nothing⟩

theorem Setup.Session.iterate {state : State σ τ} {made : List Event}
    (session : setup.Session consumer begin past feed ⟨.resting, state⟩)
    (calls : (setup.iterate state).2.bench.calls = state.bench.calls ++ made)
    (serves : Feed.Serves consumer made feed after) :
    ∃ later, setup.Session consumer begin later after ⟨.resting, (setup.iterate state).2⟩ := by
  obtain ⟨later, reached⟩ := session.ofPath (setup.path_iterate .refl) calls serves
  exact ⟨later, reached.rest rfl⟩

/-- While an entry is handled the cursor stays where its delivery has left it. -/
theorem path_cursor {delivery : Delivery} {state : State σ τ} {last : Worker σ τ}
    (path : setup.Path ⟨.received delivery, state⟩ last) :
    last.state.cursor = state.cursor ∧ last.stage.canCancel = false := by
  induction path with
  | refl => exact ⟨rfl, rfl⟩
  | step path ih =>
      rename_i middle
      obtain ⟨same, handling⟩ := ih
      have follows := step_follows setup middle.stage middle.state
      have moved := step_cursor setup middle.stage middle.state
      rw [Stage.due_of_handling handling, same] at moved
      exact ⟨moved, follows.handling handling⟩
  | meddle path host sink files ih => exact ih

theorem treat_cursor (setup : Setup σ τ) (delivery : Delivery) (state : State σ τ) :
    (setup.treat delivery state).2.cursor = state.cursor :=
  (path_cursor (setup.path_treat .refl)).1

/-- Where an iteration leaves the cursor is settled by what was claimed and read. -/
theorem iterate_cursor (setup : Setup σ τ) (state : State σ τ) :
    (setup.iterate state).2.cursor =
      match (setup.claim state).1 with
      | some _ => state.cursor
      | none =>
          match (setup.readNext (setup.claim state).2).1 with
          | .error _ => state.cursor
          | .ok (some delivery) => .after delivery.id
          | .ok none => .undelivered := by
  have claimed : (setup.claim state).2.cursor = state.cursor := claim_keepsCursor setup state
  have read : (setup.readNext (setup.claim state).2).2.cursor = state.cursor :=
    (readNext_keepsCursor setup _).trans claimed
  unfold Setup.iterate
  rw [Work.bind_apply]
  cases (setup.claim state).1 with
  | some delivery => exact (treat_cursor setup delivery _).trans claimed
  | none =>
      dsimp only
      rw [Work.bind_apply]
      cases (setup.readNext (setup.claim state).2).1 with
      | error error => exact read
      | ok delivery =>
          cases delivery with
          | some delivery => exact treat_cursor setup delivery _
          | none => rfl

/-- Something new is asked for only where the answers so far have left the cursor so. -/
theorem OnCourse.asksNew (onCourse : OnCourse consumer begin past feed worker)
    {answer : Except QueueError (Option Delivery)}
    (asks : (setup.next worker).bench.calls =
      worker.bench.calls ++ [.read .undelivered answer]) :
    cursorAfter begin worker.bench.calls = .undelivered := by
  obtain ⟨stage, state⟩ := worker
  by_cases reads : stage = .claimed none
  · subst reads
    have asked := (Action.read_makes setup.host state.bench state.cursor).calls
    have same := List.append_cancel_left (asks.symm.trans asked)
    rw [List.cons.injEq] at same
    have cursor : Cursor.undelivered = state.cursor := by
      injection same.1
    exact onCourse.cursor.symm.trans cursor.symm
  · obtain ⟨listed, isListed, stepped, _⟩ := setup.step_makes state stage
    have same : [.read .undelivered answer] = listed :=
      List.append_cancel_left (asks.symm.trans stepped)
    have unread := isListed.unread reads (.read .undelivered answer)
    rw [← same] at unread
    cases unread List.mem_cons_self

/-! ### Main result -/

/-- A coordinator iterates over a group that other consumers use as well. Each read asks at the
cursor where the answers to reads have left it, and whatever becomes of an entry moves it no
further. So what is read has ever greater ids; and before anything new is asked for, all that stayed
pending for the consumer beyond its start was read. -/
theorem cursor_protocol (setup : Setup σ τ) (consumer : ι) (begin : Cursor) :
    (∀ past feed worker, setup.Session consumer begin past feed worker →
      Asks begin worker.bench.calls ∧
      worker.stage.due worker.state.cursor = cursorAfter begin worker.bench.calls ∧
      (readIds worker.bench.calls).Pairwise (· < ·) ∧
      ∀ start, begin = .after start →
        (∀ answer, .read .undelivered answer ∉ worker.bench.calls) →
        ∀ answer, (setup.next worker).bench.calls =
          worker.bench.calls ++ [.read .undelivered answer] →
        ∀ id, start < id → (∀ former ∈ feed :: past, former.Holds consumer id) →
        id ∈ readIds worker.bench.calls) ∧
    (∀ past feed after state made, setup.Session consumer begin past feed ⟨.resting, state⟩ →
      (setup.iterate state).2.bench.calls = state.bench.calls ++ made →
      Feed.Serves consumer made feed after →
      ∃ later, setup.Session consumer begin later after ⟨.resting, (setup.iterate state).2⟩) ∧
    (∀ state : State σ τ, (setup.iterate state).2.cursor =
      match (setup.claim state).1 with
      | some _ => state.cursor
      | none =>
          match (setup.readNext (setup.claim state).2).1 with
          | .error _ => state.cursor
          | .ok (some delivery) => .after delivery.id
          | .ok none => .undelivered) ∧
    ∀ delivery (state : State σ τ) last,
      setup.Path ⟨.received delivery, state⟩ last → last.state.cursor = state.cursor := by
  refine ⟨?_, ?_, iterate_cursor setup, ?_⟩
  · intro past feed worker session
    have onCourse := session.onCourse
    refine ⟨onCourse.order.asks, onCourse.cursor, onCourse.order.increasing, ?_⟩
    intro start begins notNew answer asks id beyond held
    refine onCourse.order.replayed start begins notNew id beyond held ?_
    intro position same
    rw [onCourse.asksNew asks] at same
    cases same
  · intro past feed after state made session calls serves
    exact session.iterate calls serves
  · intro delivery state last path
    exact (path_cursor path).1

def rehearsedFeed : Feed Unit where
  group :=
    { owner := fun id => if id = ⟨5, 0⟩ then some () else none
      delivered := fun id => id = ⟨5, 0⟩ }
  last := ⟨5, 0⟩
  pendingBelow := by
    intro id pending
    unfold Group.IsPending at pending
    dsimp only at pending
    split at pending
    · rename_i same
      rw [same]
      exact Or.inr ⟨rfl, UInt64.le_refl _⟩
    · cases pending

theorem rehearsedFeed_holds {id : Id} (holds : rehearsedFeed.Holds () id) : id = ⟨5, 0⟩ := by
  unfold Feed.Holds rehearsedFeed at holds
  dsimp only at holds
  split at holds
  · assumption
  · cases holds

/-- In a rehearsal whose acknowledgements all fail, a pending entry is read before anything new. -/
theorem cursor_protocol_rehearsed :
    ∃ (past : List (Feed Unit)) (feed : Feed Unit)
      (worker : Worker Rehearsal.Script (Option String)),
      Setup.rehearsed.Session () (.after ⟨3, 0⟩) past feed worker ∧
      (Setup.rehearsed.next worker).bench.calls =
        worker.bench.calls ++ [.read .undelivered (.ok none)] ∧
      ⟨5, 0⟩ ∈ readIds worker.bench.calls := by
  let delivery : Delivery := { id := ⟨5, 0⟩, body := .unreadable "torn" }
  let script : Rehearsal.Script :=
    { Rehearsal.Script.start with
      reads := [.ok (some delivery), .ok none]
      acknowledgeError := some "down" }
  have replayed : rehearsedFeed.Answers ()
      (.read (.after ⟨3, 0⟩) (.ok (some delivery))) rehearsedFeed := by
    refine .replayed _ delivery rfl (by decide) ?_
    intro id holds _
    rw [rehearsedFeed_holds holds]
    exact Or.inr ⟨rfl, UInt64.le_refl _⟩
  have exhausted : rehearsedFeed.Answers () (.read (.after ⟨5, 0⟩) (.ok none)) rehearsedFeed := by
    refine .exhausted _ ?_
    intro id holds
    rw [rehearsedFeed_holds holds]
    exact Or.inr ⟨rfl, UInt64.le_refl _⟩
  have started : Setup.rehearsed.Session () (.after ⟨3, 0⟩) [] rehearsedFeed _ :=
    .start script none .empty rehearsedFeed
  have claimed := started.step (List.append_nil _).symm (.nil _)
  have answered := claimed.step rfl (.cons replayed (.nil _))
  have received := answered.step (List.append_nil _).symm (.nil _)
  have rejected := received.step (List.append_nil _).symm (.nil _)
  have closed := rejected.step rfl (.cons (.unacknowledged ⟨5, 0⟩ (.backend "down")) (.nil _))
  have rested := closed.rest rfl
  have claimedAgain := rested.step (List.append_nil _).symm (.nil _)
  have nothingLeft := claimedAgain.step rfl (.cons exhausted (.nil _))
  have idle := nothingLeft.step (List.append_nil _).symm (.nil _)
  have last := (idle.rest rfl).step (List.append_nil _).symm (.nil _)
  refine ⟨_, _, _, last, rfl, ?_⟩
  refine ((cursor_protocol Setup.rehearsed () (.after ⟨3, 0⟩)).1 _ _ _ last).2.2.2 ⟨3, 0⟩ rfl
    ?_ (.ok none) rfl ⟨5, 0⟩ (by decide) ?_
  · intro answer member
    change _ ∈ [Event.read (.after ⟨3, 0⟩) (.ok (some delivery)),
      .acknowledge ⟨5, 0⟩ (.error (.backend "down")),
      .read (.after ⟨5, 0⟩) (.ok none)] at member
    simp at member
  · intro former member
    have same : former = rehearsedFeed := by simpa using member
    rw [same]
    rfl

end BuildBench.Coordinator
