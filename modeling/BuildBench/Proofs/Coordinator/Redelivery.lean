import BuildBench.Proofs.Coordinator.Succession
import BuildBench.Proofs.Coordinator.Window

set_option autoImplicit false

/-! Entries that are delivered again. Main statement: an entry is known if and only if it is among
those that the latest iterations completed, as many as a window has room for; a known entry is
acknowledged and nothing else is done. -/

namespace BuildBench.Coordinator

open BuildBench.Definition BuildBench.Entry BuildBench.Run

variable {σ τ : Type} {setup : Setup σ τ}

/-! ### Ends of iterations -/

/-- The entry that an iteration completed. -/
def completed? : Except Error Iteration → Option Id
  | .ok (.skipped id _) => some id
  | .ok (.processed report) => some report.id
  | .ok .idle | .ok (.duplicate _) | .error _ => none

/-- The entries that were completed last, as many as a window has room for. The latest iteration
comes first. -/
def recent (past : List (Except Error Iteration)) : List Id :=
  (past.filterMap completed?).take windowCapacity

def Stage.end? : Stage → Option (Except Error Iteration)
  | .ended result => some result
  | _ => none

namespace Setup

/-- A worker and the ends of its iterations so far, the latest first. An iteration is entered when
the worker comes to rest after it. -/
inductive Chronicle (setup : Setup σ τ) : List (Except Error Iteration) → Worker σ τ → Prop
  | start (host : σ) (sink : τ) (files : Files.Tree) (cursor : Cursor) :
      Chronicle setup [] ⟨.resting, setup.start host sink files cursor⟩
  | move {past : List (Except Error Iteration)} {worker after : Worker σ τ} {deed : Option Deed}
      (chronicle : Chronicle setup past worker) (move : setup.Move worker deed after)
      (goesOn : worker.stage.end? = none ∨ after.stage = worker.stage) :
      Chronicle setup past after
  | rest {past : List (Except Error Iteration)} {worker : Worker σ τ}
      {result : Except Error Iteration} (chronicle : Chronicle setup past worker)
      (ended : worker.stage = .ended result) :
      Chronicle setup (result :: past) { worker with stage := .resting }

/-- The ends of the iterations of a loop, put in front of those before it. -/
def runPast (setup : Setup σ τ) :
    Nat → State σ τ → List (Except Error Iteration) → List (Except Error Iteration)
  | 0, _, past => past
  | iterations + 1, state, past =>
      match setup.runUnlessCancelled state with
      | (none, _) => past
      | (some (.ok iteration), after) => setup.runPast iterations after (.ok iteration :: past)
      | (some (.error error), after) =>
          let asked := setup.cancelled (act (Action.report .iterationFailed) after).2
          if asked.1 then .error error :: past
          else setup.runPast iterations asked.2 (.error error :: past)

def undertakePast (setup : Setup σ τ) (state : State σ τ) (past : List (Except Error Iteration)) :
    Activity σ τ → List (Except Error Iteration)
  | .iterate => (setup.iterate state).1 :: past
  | .process delivery => (setup.accept delivery state).1 :: past
  | .run iterations => setup.runPast iterations state past
  | .meddle _ _ _ => past

def lifePast (setup : Setup σ τ) :
    State σ τ → List (Except Error Iteration) → List (Activity σ τ) →
      List (Except Error Iteration)
  | _, past, [] => past
  | state, past, activity :: rest =>
      setup.lifePast (setup.undertake state activity) (setup.undertakePast state past activity) rest

namespace Chronicle

variable {past : List (Except Error Iteration)} {state : State σ τ}

theorem step {worker : Worker σ τ} (chronicle : setup.Chronicle past worker) :
    setup.Chronicle past (setup.next worker) := by
  refine chronicle.move .step ?_
  obtain ⟨stage, state⟩ := worker
  cases stage with
  | ended result => exact Or.inr rfl
  | _ => exact Or.inl rfl

theorem ofPath {worker after : Worker σ τ} (chronicle : setup.Chronicle past worker)
    (path : setup.Path worker after) : setup.Chronicle past after := by
  induction path with
  | refl => exact chronicle
  | step path ih => exact ih.step
  | meddle path host sink files ih => exact ih.move (.meddle host sink files) (Or.inr rfl)

theorem runPast (iterations : Nat) (chronicle : setup.Chronicle past ⟨.resting, state⟩) :
    setup.Chronicle (setup.runPast iterations state past)
      ⟨.resting, (setup.run iterations state).2⟩ := by
  induction iterations generalizing past state with
  | zero => exact chronicle
  | succ iterations ih =>
      obtain ⟨stage, path, ended⟩ :=
        setup.path_runUnlessCancelled (.refl : setup.Path ⟨.resting, state⟩ ⟨.resting, state⟩)
      have after := chronicle.ofPath path
      unfold Setup.run Setup.runPast
      rw [Work.bind_apply]
      cases answer : setup.runUnlessCancelled state with
      | mk result last =>
          rw [answer] at after ended
          cases result with
          | none =>
              refine after.move (.cancel ended) (Or.inl ?_)
              cases stage with
              | ended result => cases ended
              | _ => rfl
          | some result =>
              have rested := after.rest ended
              cases result with
              | ok iteration => exact ih rested
              | error error =>
                  have asked := (rested.move (.notice .iterationFailed) (Or.inl rfl)).ofPath
                    (setup.path_cancelled .refl)
                  simp only [Work.bind_apply]
                  split
                  · exact asked
                  · exact ih asked

theorem undertake (activity : Activity σ τ) (chronicle : setup.Chronicle past ⟨.resting, state⟩) :
    setup.Chronicle (setup.undertakePast state past activity)
      ⟨.resting, setup.undertake state activity⟩ := by
  cases activity with
  | iterate => exact (chronicle.ofPath (setup.path_iterate .refl)).rest rfl
  | process delivery =>
      have accepted := chronicle.move (.accept delivery rfl) (Or.inl rfl)
      exact (accepted.ofPath (setup.path_accept .refl)).rest rfl
  | run iterations => exact chronicle.runPast iterations
  | meddle host sink files => exact chronicle.move (.meddle host sink files) (Or.inl rfl)

theorem lifePast (activities : List (Activity σ τ))
    (chronicle : setup.Chronicle past ⟨.resting, state⟩) :
    setup.Chronicle (setup.lifePast state past activities)
      ⟨.resting, setup.life state activities⟩ := by
  induction activities generalizing past state with
  | nil => exact chronicle
  | cons activity rest ih => exact ih (chronicle.undertake activity)

end Chronicle

end Setup

/-! ### What is remembered -/

/-- The entry of which the stage has found that it is not known. -/
def Stage.fresh? : Stage → Option Id
  | .described build | .amidFiles build _ _ | .amidSlots build _ _ _ _ => some build.id
  | .closing id _ => some id
  | _ => none

/-- The window holds the latest completions, in the order of a queue that was kept in step with a
set. -/
structure Window.Remembers (window : Window) (past : List (Except Error Iteration)) : Prop where
  ids : window.ids = recent past
  shelf : (Shelf.ofFinished windowCapacity (past.filterMap completed?)).Holds window

theorem Window.Remembers.other {window : Window} {past : List (Except Error Iteration)}
    {result : Except Error Iteration} (remembers : window.Remembers past)
    (nothing : completed? result = none) : window.Remembers (result :: past) := by
  have same : (result :: past).filterMap completed? = past.filterMap completed? :=
    List.filterMap_cons_none nothing
  constructor
  · rw [recent, same]
    exact remembers.ids
  · rw [same]
    exact remembers.shelf

theorem take_cons_take {α : Type} (count : Nat) (first : α) (rest : List α) :
    (first :: rest.take count).take count = (first :: rest).take count := by
  cases count with
  | zero => rfl
  | succ count =>
      rw [List.take_succ_cons, List.take_succ_cons, List.take_take,
        Nat.min_eq_left (Nat.le_succ count)]

/-- A completion is put in front, and the oldest one gives way. -/
theorem Window.Remembers.insert {window : Window} {past : List (Except Error Iteration)}
    {result : Except Error Iteration} {id : Id} (remembers : window.Remembers past)
    (fresh : window.contains id = false) (completes : completed? result = some id) :
    (window.insert id).Remembers (result :: past) := by
  have more : (result :: past).filterMap completed? = id :: past.filterMap completed? :=
    List.filterMap_cons_some completes
  have unknown : id ∉ window.ids := by
    intro member
    unfold Window.contains at fresh
    rw [List.contains_iff_mem.mpr member] at fresh
    cases fresh
  constructor
  · have inserted : (window.insert id).ids = (id :: window.ids).take windowCapacity := by
      unfold Window.insert
      rw [dif_neg unknown]
    rw [inserted, recent, more, remembers.ids]
    exact take_cons_take _ _ _
  · rw [more]
    exact Shelf.insert_holds (Shelf.ofFinished_inStep _ _) remembers.shelf id

/-- An entry that is about to be closed is the one that its iteration completes. -/
def Stage.Closes : Stage → Prop
  | .closing id iteration => completed? (.ok iteration) = some id
  | _ => True

/-- What is remembered after a step from a stage. -/
def Stage.leaves (finished : Window) : Stage → Window
  | .closing id _ => finished.insert id
  | _ => finished

theorem step_leaves (setup : Setup σ τ) (stage : Stage) (state : State σ τ) :
    (setup.step stage state).2.finished = stage.leaves state.finished := by
  rw [Setup.step_finished]
  cases stage <;> rfl

structure Chronicled (past : List (Except Error Iteration)) (stage : Stage) (finished : Window) :
    Prop where
  remembers : finished.Remembers (stage.end?.toList ++ past)
  fresh : ∀ id ∈ stage.fresh?, finished.contains id = false
  closes : stage.Closes

namespace Chronicled

variable {past : List (Except Error Iteration)} {stage after : Stage} {finished : Window}

/-- Where no entry is at hand, only what is remembered counts. -/
theorem idle (remembers : finished.Remembers (stage.end?.toList ++ past))
    (nothing : stage.fresh? = none) : Chronicled past stage finished := by
  refine ⟨remembers, ?_, ?_⟩
  · intro id member
    rw [nothing] at member
    cases member
  · cases stage with
    | closing id iteration => cases nothing
    | _ => trivial

theorem busy {id : Id} (remembers : finished.Remembers past)
    (unknown : finished.contains id = false) (running : stage.fresh? = some id)
    (closes : stage.Closes) : Chronicled past stage finished := by
  refine ⟨?_, ?_, closes⟩
  · cases stage with
    | ended result => cases running
    | _ => exact remembers
  · intro other member
    rw [running] at member
    cases member
    exact unknown

/-- The entry at hand stays unknown until it is closed. -/
theorem step (chronicled : Chronicled past stage finished)
    (follows : stage.Follows finished after) :
    Chronicled past after (stage.leaves finished) := by
  obtain ⟨remembers, fresh, closes⟩ := chronicled
  cases follows with
  | known known => exact idle remembers rfl
  | rejected unknown reason => exact busy remembers unknown rfl rfl
  | begun unknown same =>
      rw [← same] at unknown
      exact busy remembers unknown rfl trivial
  | unlisted build directory error => exact idle (remembers.other rfl) rfl
  | listed build files => exact busy remembers (fresh _ rfl) rfl trivial
  | filesDone build outcomes => exact busy remembers (fresh _ rfl) rfl rfl
  | passedOver build path rest outcomes => exact busy remembers (fresh _ rfl) rfl trivial
  | opened build suite slots path rest outcomes =>
      exact busy remembers (fresh _ rfl) rfl trivial
  | slotsDone build suite files outcomes => exact busy remembers (fresh _ rfl) rfl trivial
  | ran build suite slot rest files outcomes outcome =>
      exact busy remembers (fresh _ rfl) rfl trivial
  | closed id iteration => exact idle (remembers.insert (fresh _ rfl) closes) rfl
  | unread error => exact idle (remembers.other rfl) rfl
  | idle => exact idle (remembers.other rfl) rfl
  | repeated id => exact idle (remembers.other rfl) rfl
  | _ => exact idle remembers rfl

theorem move {worker next : Worker σ τ} {deed : Option Deed}
    (chronicled : Chronicled past worker.stage worker.state.finished)
    (move : setup.Move worker deed next)
    (goesOn : worker.stage.end? = none ∨ next.stage = worker.stage) :
    Chronicled past next.stage next.state.finished := by
  -- An iteration that is left before its end enters no memory: the coordinator remembers what
  -- it would remember at rest.
  have rests (open_ : worker.stage.end? = none) :
      Chronicled past .resting worker.state.finished := by
    have remembers := chronicled.remembers
    rw [open_] at remembers
    exact idle remembers rfl
  cases move with
  | step =>
      have stepped := chronicled.step (step_follows setup worker.stage worker.state)
      rw [← step_leaves setup worker.stage worker.state] at stepped
      exact stepped
  | meddle host sink files => exact chronicled
  | cancel early =>
      refine rests ?_
      cases stage : worker.stage with
      | ended result => rw [stage] at early; cases early
      | _ => rfl
  | rest ended =>
      rw [ended] at goesOn
      rcases goesOn with open_ | same
      · cases open_
      · cases same
  | notice notice => exact chronicled
  | accept delivery resting =>
      have remembers := chronicled.remembers
      rw [resting] at remembers
      exact idle remembers rfl

end Chronicled

theorem Setup.Chronicle.chronicled {past : List (Except Error Iteration)} {worker : Worker σ τ}
    (chronicle : setup.Chronicle past worker) :
    Chronicled past worker.stage worker.state.finished := by
  induction chronicle with
  | start host sink files cursor => exact .idle ⟨rfl, rfl⟩ rfl
  | move chronicle move goesOn ih => exact ih.move move goesOn
  | rest chronicle ended ih =>
      have remembers := ih.remembers
      rw [ended] at remembers
      exact .idle remembers rfl

/-! ### Handling a delivery -/

/-- How far a delivery that was received with a window has been handled. -/
def Stage.Handles (delivery : Delivery) (window : Window) : Stage → Window → Prop
  | .received other, finished => other = delivery ∧ finished = window
  | .repeating id, finished =>
      id = delivery.id ∧ window.contains delivery.id = true ∧ finished = window
  | .ended result, finished =>
      (window.contains delivery.id = true ∧ result = .ok (.duplicate delivery.id) ∧
        finished = window) ∨
      (window.contains delivery.id = false ∧ completed? result = some delivery.id ∧
        finished = window.insert delivery.id) ∨
      (window.contains delivery.id = false ∧ (∃ error, result = .error error) ∧
        finished = window)
  | stage, finished =>
      stage.fresh? = some delivery.id ∧ stage.Closes ∧ window.contains delivery.id = false ∧
        finished = window

theorem Stage.Handles.step {delivery : Delivery} {window finished : Window} {stage after : Stage}
    (handles : stage.Handles delivery window finished) (follows : stage.Follows finished after) :
    after.Handles delivery window (stage.leaves finished) := by
  cases follows with
  | known known =>
      obtain ⟨rfl, rfl⟩ := handles
      exact ⟨rfl, known, rfl⟩
  | rejected unknown reason =>
      obtain ⟨rfl, rfl⟩ := handles
      exact ⟨rfl, rfl, unknown, rfl⟩
  | begun unknown same =>
      obtain ⟨rfl, rfl⟩ := handles
      exact ⟨congrArg some same, trivial, unknown, rfl⟩
  | unlisted build directory error =>
      obtain ⟨_, _, unknown, rfl⟩ := handles
      exact Or.inr (Or.inr ⟨unknown, ⟨_, rfl⟩, rfl⟩)
  | filesDone build outcomes =>
      obtain ⟨same, _, unknown, rfl⟩ := handles
      exact ⟨same, rfl, unknown, rfl⟩
  | closed id iteration =>
      obtain ⟨same, closes, unknown, rfl⟩ := handles
      cases same
      exact Or.inr (Or.inl ⟨unknown, closes, rfl⟩)
  | repeated id =>
      obtain ⟨rfl, known, rfl⟩ := handles
      exact Or.inl ⟨known, rfl, rfl⟩
  | settled result => exact handles
  | listed build files => exact handles
  | passedOver build path rest outcomes => exact handles
  | opened build suite slots path rest outcomes => exact handles
  | slotsDone build suite files outcomes => exact handles
  | ran build suite slot rest files outcomes outcome => exact handles
  | claimed delivery => cases handles.1
  | taken delivery => cases handles.1
  | answered answer => cases handles.1
  | unread error => cases handles.1
  | read delivery => cases handles.1
  | idle => cases handles.1

theorem path_handles {delivery : Delivery} {state : State σ τ} {last : Worker σ τ}
    (path : setup.Path ⟨.received delivery, state⟩ last) :
    last.stage.Handles delivery state.finished last.state.finished := by
  induction path with
  | refl => exact ⟨rfl, rfl⟩
  | step path ih =>
      rename_i worker
      have stepped := ih.step (step_follows setup worker.stage worker.state)
      rw [← step_leaves setup worker.stage worker.state] at stepped
      exact stepped
  | meddle path host sink files ih => exact ih

/-- The fields of the entry describe the build. -/
def Describes (delivery : Delivery) (build : Build) : Prop :=
  ∃ fields, delivery.body = .fields fields ∧ Build.decode delivery.id fields = .ok build

/-- The entry describes a build of that commit. -/
def Announces (delivery : Delivery) (gitHash : String) : Prop :=
  ∃ build, Describes delivery build ∧ build.gitHash = gitHash

/-- The build at hand, or the one that was reported, is a build that the entry describes. -/
def Stage.StemsFrom (delivery : Delivery) : Stage → Prop
  | .described build | .amidFiles build _ _ | .amidSlots build _ _ _ _ => Describes delivery build
  | .closing _ (.processed report) | .ended (.ok (.processed report)) =>
      Announces delivery report.gitHash
  | _ => True

theorem Stage.StemsFrom.follow {delivery : Delivery} {finished : Window} {stage after : Stage}
    (stems : stage.StemsFrom delivery) (follows : stage.Follows finished after)
    (later : ∀ other, stage ≠ .received other) : after.StemsFrom delivery := by
  cases follows with
  | begun unknown same => exact absurd rfl (later _)
  | filesDone build outcomes => exact ⟨build, stems, rfl⟩
  | closed id iteration => cases iteration <;> exact stems
  | settled result => exact stems
  | listed build files => exact stems
  | passedOver build path rest outcomes => exact stems
  | opened build suite slots path rest outcomes => exact stems
  | slotsDone build suite files outcomes => exact stems
  | ran build suite slot rest files outcomes outcome => exact stems
  | _ => trivial

theorem path_stems {delivery : Delivery} {state : State σ τ} {last : Worker σ τ}
    (path : setup.Path ⟨.received delivery, state⟩ last) : last.stage.StemsFrom delivery := by
  induction path with
  | refl => trivial
  | step path ih =>
      rename_i worker
      obtain ⟨stage, state⟩ := worker
      have follows := step_follows setup stage state
      have handles := path_handles path
      cases stage with
      | received other =>
          obtain ⟨rfl, -⟩ := handles
          change (Setup.meet other state).1.2.StemsFrom other
          rcases meet_cases state other with ⟨-, met⟩ | ⟨-, reason, met⟩ |
            ⟨fields, build, body, decoded, met⟩
          · rw [met]
            trivial
          · rw [met]
            trivial
          · rw [met]
            exact ⟨fields, body, decoded⟩
      | _ => exact ih.follow follows fun other same => by cases same
  | meddle path host sink files ih => exact ih

theorem State.Makes.trans {first middle last : State σ τ} {made later : List Event}
    (left : first.Makes middle made) (right : middle.Makes last later) :
    first.Makes last (made ++ later) where
  calls := by rw [right.calls, left.calls, List.append_assoc]
  ledger := right.ledger.trans left.ledger
  finished := right.finished.trans left.finished

/-- From when a known entry is received until it was acknowledged. -/
def Worker.Repeats (delivery : Delivery) (first : State σ τ) (worker : Worker σ τ) : Prop :=
  match worker.stage with
  | .received other => other = delivery ∧ first.Makes worker.state []
  | .repeating id => id = delivery.id ∧ first.Makes worker.state []
  | .ended result => result = .ok (.duplicate delivery.id) ∧
      ∃ answer, first.Makes worker.state [.acknowledge delivery.id answer]
  | _ => False

theorem path_repeats {delivery : Delivery} {state : State σ τ} {last : Worker σ τ}
    (known : state.finished.contains delivery.id = true)
    (path : setup.Path ⟨.received delivery, state⟩ last) : last.Repeats delivery state := by
  induction path with
  | refl => exact ⟨rfl, .nothing rfl rfl⟩
  | step path ih =>
      rename_i worker
      obtain ⟨stage, current⟩ := worker
      cases stage with
      | received other =>
          obtain ⟨rfl, makes⟩ := ih
          have still : current.finished.contains other.id = true := by
            rw [makes.finished]
            exact known
          have met : setup.step (.received other) current = Setup.meet other current := rfl
          unfold Worker.Repeats Setup.next
          rw [met, meet_known still]
          exact ⟨rfl, makes⟩
      | repeating id =>
          obtain ⟨rfl, makes⟩ := ih
          obtain ⟨answer, acknowledged⟩ :=
            Action.acknowledge_makes setup.host current.bench delivery.id
          exact ⟨rfl, answer, makes.trans (.ofAction acknowledged)⟩
      | ended result => exact ih
      | _ => exact ih.elim
  | meddle path host sink files ih =>
      rename_i worker
      obtain ⟨stage, current⟩ := worker
      cases stage with
      | received other => exact ⟨ih.1, ih.2.calls, ih.2.ledger, ih.2.finished⟩
      | repeating id => exact ⟨ih.1, ih.2.calls, ih.2.ledger, ih.2.finished⟩
      | ended result =>
          obtain ⟨same, answer, makes⟩ := ih
          exact ⟨same, answer, makes.calls, makes.ledger, makes.finished⟩
      | _ => exact ih.elim

theorem treat_known {delivery : Delivery} {state : State σ τ}
    (known : state.finished.contains delivery.id = true) :
    setup.treat delivery state = (.ok (.duplicate delivery.id),
      { state with bench := (Action.acknowledge setup.host delivery.id state.bench).2 }) := by
  unfold Setup.treat
  rw [Work.bind_apply, Work.get_apply]
  simp only [known]
  rfl

theorem treat_unknown {delivery : Delivery} {state : State σ τ}
    (unknown : state.finished.contains delivery.id = false) :
    setup.treat delivery state = setup.treatFresh delivery state := by
  unfold Setup.treat
  rw [Work.bind_apply, Work.get_apply]
  simp only [unknown]
  rfl

/-- An entry was acknowledged, and nothing else was done: nobody but the queue was called, and the
files, the store, the ledger, what is remembered and the cursor are as before. -/
structure AcknowledgesOnly (setup : Setup σ τ) (id : Id) (before after : State σ τ) : Prop where
  calls : ∃ answer, after.bench.calls = before.bench.calls ++ [.acknowledge id answer]
  host : after.bench.host = (setup.host.acknowledge id before.bench.host).2
  files : after.bench.files = before.bench.files
  sink : after.bench.sink = before.bench.sink
  ledger : after.bench.ledger = before.bench.ledger
  finished : after.finished = before.finished
  cursor : after.cursor = before.cursor

theorem acknowledge_apply (host : Host σ) (id : Id) (bench : Bench σ τ) :
    ∃ journal, (Action.acknowledge host id bench).2 =
      { bench with host := (host.acknowledge id bench.host).2, journal } := by
  unfold Action.acknowledge
  rw [Action.bind_apply, Action.bind_apply]
  cases (Action.onHost (host.acknowledge id) bench).1 with
  | ok value => exact ⟨_, rfl⟩
  | error error => exact ⟨_, rfl⟩

theorem acknowledgesOnly (setup : Setup σ τ) (id : Id) (state : State σ τ) :
    AcknowledgesOnly setup id state
      { state with bench := (Action.acknowledge setup.host id state.bench).2 } := by
  obtain ⟨answer, makes⟩ := Action.acknowledge_makes setup.host state.bench id
  obtain ⟨journal, same⟩ := acknowledge_apply setup.host id state.bench
  refine ⟨⟨answer, makes.calls⟩, ?_, ?_, ?_, makes.ledger, rfl, rfl⟩
  all_goals
    dsimp only
    rw [same]

/-! ### Main result -/

/-- A delivery is handled as the iterations before it demand, and whatever others do meanwhile, it
ends so. A failed iteration completes nothing. -/
structure Recognizes (setup : Setup σ τ) (past : List (Except Error Iteration))
    (delivery : Delivery) (state : State σ τ) : Prop where
  duplicate : (setup.treat delivery state).1 = .ok (.duplicate delivery.id) ↔
    delivery.id ∈ recent past
  repeats : delivery.id ∈ recent past →
    AcknowledgesOnly setup delivery.id state (setup.treat delivery state).2
  fresh : delivery.id ∉ recent past →
    setup.treat delivery state = setup.treatFresh delivery state
  known : delivery.id ∈ recent past → ∀ result after,
    setup.Path ⟨.received delivery, state⟩ ⟨.ended result, after⟩ →
    result = .ok (.duplicate delivery.id) ∧
      ∃ answer, state.Makes after [.acknowledge delivery.id answer]
  unknown : delivery.id ∉ recent past → ∀ result after,
    setup.Path ⟨.received delivery, state⟩ ⟨.ended result, after⟩ →
    (completed? result = some delivery.id ∧
        after.finished = state.finished.insert delivery.id) ∨
      ((∃ error, result = .error error) ∧ after.finished = state.finished)

theorem recognizes_of_ids {past : List (Except Error Iteration)} {state : State σ τ}
    (same : state.finished.ids = recent past) (delivery : Delivery) :
    Recognizes setup past delivery state := by
  have asked : state.finished.contains delivery.id = true ↔ delivery.id ∈ recent past := by
    rw [← same]
    exact List.contains_iff_mem
  have unasked (unknown : delivery.id ∉ recent past) :
      state.finished.contains delivery.id = false := by
    rw [← Bool.not_eq_true]
    exact fun known => unknown (asked.mp known)
  have fresh (unknown : delivery.id ∉ recent past) (result : Except Error Iteration)
      (after : State σ τ)
      (path : setup.Path ⟨.received delivery, state⟩ ⟨.ended result, after⟩) :
      (completed? result = some delivery.id ∧
          after.finished = state.finished.insert delivery.id) ∨
        ((∃ error, result = .error error) ∧ after.finished = state.finished) := by
    rcases path_handles path with ⟨known, _, _⟩ | ⟨_, completes⟩ | ⟨_, fails⟩
    · exact absurd (asked.mp known) unknown
    · exact Or.inl completes
    · exact Or.inr fails
  constructor
  · constructor
    · intro repeated
      -- An entry that is not known ends as completed or as a failure, never as a duplicate.
      by_contra unknown
      have treated := fresh unknown _ _ (setup.path_treat .refl)
      rw [repeated] at treated
      rcases treated with ⟨completes, _⟩ | ⟨⟨error, fails⟩, _⟩
      · cases completes
      · cases fails
    · intro known
      rw [treat_known (asked.mpr known)]
  · intro known
    rw [treat_known (asked.mpr known)]
    exact acknowledgesOnly setup delivery.id state
  · intro unknown
    exact treat_unknown (unasked unknown)
  · intro known result after path
    exact path_repeats (asked.mpr known) path
  · exact fresh

/-- Whatever entries are delivered to a coordinator, in whatever order and by whichever way, and
whatever others do: it takes an entry for a duplicate exactly if one of its latest iterations that
were not failures or duplicates completed it, as many of them as a window has room for. Then it
acknowledges the entry once and does nothing else. What it remembers is what a queue and a set would
hold that are kept in step, without repetition and within their room. -/
theorem redelivery_window (setup : Setup σ τ) :
    (∀ past worker, setup.Chronicle past worker →
      let ended := worker.stage.end?.toList ++ past
      let shelf := Shelf.ofFinished windowCapacity (ended.filterMap completed?)
      worker.state.finished.ids = recent ended ∧
      shelf.InStep windowCapacity ∧ shelf.queue.reverse = worker.state.finished.ids ∧
      (∀ id, id ∈ shelf.known ↔ worker.state.finished.contains id = true) ∧
      ∀ delivery, worker.stage = .received delivery →
        Recognizes setup past delivery worker.state) ∧
    ∀ host sink files cursor activities,
      let state := setup.life (setup.start host sink files cursor) activities
      let past := setup.lifePast (setup.start host sink files cursor) [] activities
      setup.Chronicle past ⟨.resting, state⟩ ∧
      ∀ delivery, Recognizes setup past delivery state ∧
        Recognizes setup past delivery { state with cursor := state.cursor.advance delivery.id } := by
  constructor
  · intro past worker chronicle ended shelf
    have remembers := chronicle.chronicled.remembers
    have inStep : shelf.InStep windowCapacity := Shelf.ofFinished_inStep _ _
    have holds : shelf.queue = worker.state.finished.ids.reverse := remembers.shelf
    refine ⟨remembers.ids, inStep, ?_, ?_, ?_⟩
    · rw [holds, List.reverse_reverse]
    · intro id
      rw [inStep.same, holds, List.mem_reverse]
      exact List.contains_iff_mem.symm
    · intro delivery received
      have ids := remembers.ids
      rw [received] at ids
      exact recognizes_of_ids ids delivery
  · intro host sink files cursor activities state past
    have chronicle : setup.Chronicle past ⟨.resting, state⟩ :=
      Setup.Chronicle.lifePast activities (.start host sink files cursor)
    have ids : state.finished.ids = recent past := chronicle.chronicled.remembers.ids
    refine ⟨chronicle, ?_⟩
    intro delivery
    let advanced : State σ τ := { state with cursor := state.cursor.advance delivery.id }
    have sameIds : advanced.finished.ids = recent past := ids
    exact ⟨recognizes_of_ids ids delivery, recognizes_of_ids sameIds delivery⟩

/-- In a rehearsal an entry that cannot be read is passed over, and is known when it comes again. -/
theorem redelivery_window_rehearsed :
    ∃ (past : List (Except Error Iteration)) (worker : Worker Rehearsal.Script (Option String)),
      Setup.rehearsed.Chronicle past worker ∧ recent past = [⟨1, 0⟩] ∧
      (Setup.rehearsed.treat ⟨⟨1, 0⟩, .unreadable "torn"⟩ worker.state).1 =
        .ok (.duplicate ⟨1, 0⟩) := by
  let delivery : Delivery := { id := ⟨1, 0⟩, body := .unreadable "torn" }
  have started : Setup.rehearsed.Chronicle _ _ := .start .start none .empty .undelivered
  have closed := (started.move (.accept delivery rfl) (Or.inl rfl)).step.step
  have again := (closed.rest rfl).move (.accept delivery rfl) (Or.inl rfl)
  refine ⟨_, _, again, rfl, ?_⟩
  exact (((redelivery_window Setup.rehearsed).1 _ _ again).2.2.2.2 delivery rfl).duplicate.mpr
    List.mem_cons_self

end BuildBench.Coordinator
