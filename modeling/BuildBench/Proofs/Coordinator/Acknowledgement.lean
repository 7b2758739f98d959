import BuildBench.Proofs.Coordinator.Completion

set_option autoImplicit false

/-! What an iteration acknowledges and remembers. Main statement: that is settled by how it ends, and
not by how the acknowledgement is answered. -/

namespace BuildBench.Run

open BuildBench.Entry

def Event.acknowledged? : Event → Option Id
  | .acknowledge id _ => some id
  | _ => none

/-- The ids for which an acknowledgement was sent, the oldest first. -/
def Bench.acknowledged {σ τ : Type} (bench : Bench σ τ) : List Id :=
  bench.calls.filterMap Event.acknowledged?

end BuildBench.Run

namespace BuildBench.Coordinator

open BuildBench.Definition BuildBench.Entry BuildBench.Run

variable {σ τ : Type}

def acknowledges : Except Error Iteration → List Id
  | .ok (.skipped id _) | .ok (.duplicate id) => [id]
  | .ok (.processed report) => [report.id]
  | .ok .idle | .error _ => []

/-- What is remembered after an iteration with such a result. -/
def remembers (window : Window) : Except Error Iteration → Window
  | .ok (.skipped id _) => window.insert id
  | .ok (.processed report) => window.insert report.id
  | .ok .idle | .ok (.duplicate _) | .error _ => window

structure Iterates (before after : State σ τ) (result : Except Error Iteration) : Prop where
  acknowledged : after.bench.acknowledged = before.bench.acknowledged ++ acknowledges result
  finished : after.finished = remembers before.finished result
  /-- What is acknowledged is remembered. -/
  remembered : ∀ id ∈ acknowledges result, after.finished.contains id = true

theorem Window.contains_insert (window : Window) (id : Id) :
    (window.insert id).contains id = true := by
  unfold Window.contains Window.insert
  rw [List.contains_iff_mem]
  split
  · assumption
  · exact List.mem_cons_self

theorem Stage.Calls.acknowledged {stage : Stage} {made : List Event}
    (listed : stage.Calls made) : made.filterMap Event.acknowledged? = stage.acknowledges := by
  cases listed with
  | claim idle answer => rfl
  | read cursor answer => rfl
  | pass others =>
      refine List.filterMap_eq_nil_iff.mpr fun event member => ?_
      have other := others event member
      cases event with
      | acknowledge id answer => cases other
      | _ => rfl
  | finish id iteration answer => rfl
  | again id answer => rfl
  | nothing silent => exact silent.symm

theorem step_acknowledged (setup : Setup σ τ) (stage : Stage) (state : State σ τ) :
    (setup.step stage state).2.bench.acknowledged =
      state.bench.acknowledged ++ stage.acknowledges := by
  obtain ⟨made, listed, calls, _⟩ := setup.step_makes state stage
  unfold Bench.acknowledged
  rw [calls, List.filterMap_append, listed.acknowledged]

/-! ### In the course of an iteration -/

/-- What a stage says of the ids that were acknowledged since the iteration began with a window, and
of the ids that are remembered. -/
def Stage.Tallies (window : Window) : Stage → List Id → Window → Prop
  | .ended result, sent, finished =>
      sent = Coordinator.acknowledges result ∧ finished = remembers window result ∧
        ∀ id ∈ sent, finished.contains id = true
  | .closing id iteration, sent, finished =>
      sent = [] ∧ finished = window ∧ Coordinator.acknowledges (.ok iteration) = [id] ∧
        remembers window (.ok iteration) = window.insert id
  | .repeating id, sent, finished =>
      sent = [] ∧ finished = window ∧ window.contains id = true
  | _, sent, finished => sent = [] ∧ finished = window

theorem step_tallies {setup : Setup σ τ} {window : Window} {stage : Stage} {state : State σ τ}
    {sent : List Id} (tallies : stage.Tallies window sent state.finished) :
    (setup.step stage state).1.2.Tallies window (sent ++ stage.acknowledges)
      (setup.step stage state).2.finished := by
  rw [Setup.step_finished]
  have nothing (quiet : sent = [] ∧ state.finished = window) :
      sent ++ [] = [] ∧ state.finished = window :=
    ⟨by rw [quiet.1, List.append_nil], quiet.2⟩
  have settles {result : Except Error Iteration} (none : Coordinator.acknowledges result = [])
      (same : remembers window result = window) (quiet : sent = [] ∧ state.finished = window) :
      (Stage.ended result).Tallies window (sent ++ []) state.finished := by
    refine ⟨(nothing quiet).1.trans none.symm, quiet.2.trans same.symm, ?_⟩
    intro id member
    rw [(nothing quiet).1] at member
    cases member
  cases stage with
  | resting => exact nothing tallies
  | claimed delivery => cases delivery <;> exact nothing tallies
  | answered answer =>
      cases answer with
      | error error => exact settles rfl rfl tallies
      | ok delivery =>
          cases delivery with
          | some delivery => exact nothing tallies
          | none => exact settles rfl rfl tallies
  | received delivery =>
      have met : setup.step (.received delivery) state = Setup.meet delivery state := rfl
      rw [met]
      rcases meet_cases state delivery with ⟨known, same⟩ | ⟨_, reason, same⟩ | ⟨_, build, _, _, same⟩
      · rw [same]
        rw [tallies.2] at known
        exact ⟨(nothing tallies).1, tallies.2, known⟩
      · rw [same]
        exact ⟨(nothing tallies).1, tallies.2, rfl, rfl⟩
      · rw [same]
        exact nothing tallies
  | described build =>
      have surveyed : setup.step (.described build) state = setup.survey build state := rfl
      rw [surveyed]
      rcases survey_cases setup state build with ⟨error, same⟩ | ⟨files, _, same⟩
      · rw [same]
        exact settles rfl rfl tallies
      · rw [same]
        exact nothing tallies
  | amidFiles build files outcomes =>
      cases files with
      | nil => exact ⟨(nothing tallies).1, tallies.2, rfl, rfl⟩
      | cons path rest =>
          have turned : setup.step (.amidFiles build (path :: rest) outcomes) state =
            setup.turnTo build path rest outcomes state := rfl
          rw [turned]
          rcases turnTo_cases setup state build path rest outcomes with
            ⟨error, _, same⟩ | ⟨suite, _, same⟩
          · rw [same]
            exact nothing tallies
          · rw [same]
            exact nothing tallies
  | amidSlots build suite slots files outcomes => cases slots <;> exact nothing tallies
  | closing id iteration =>
      obtain ⟨rfl, same, acknowledged, remembered⟩ := tallies
      refine ⟨acknowledged.symm, ?_, ?_⟩
      · rw [remembered, ← same]
      · intro known member
        rw [List.mem_singleton.mp member]
        exact Window.contains_insert _ _
  | repeating id =>
      obtain ⟨rfl, same, known⟩ := tallies
      refine ⟨rfl, same, ?_⟩
      intro other member
      rw [List.mem_singleton.mp member]
      change state.finished.contains id = true
      rw [same]
      exact known
  | ended result =>
      obtain ⟨acknowledged, remembered, known⟩ := tallies
      have unchanged : sent ++ (Stage.ended result).acknowledges = sent := List.append_nil _
      rw [unchanged]
      exact ⟨acknowledged, remembered, known⟩

/-- What the stage says is so all the way, however others meddle. -/
theorem path_tallies {setup : Setup σ τ} {first last : Worker σ τ} (path : setup.Path first last)
    (begins : first.stage.Tallies first.state.finished [] first.state.finished) :
    ∃ sent, last.bench.acknowledged = first.bench.acknowledged ++ sent ∧
      last.stage.Tallies first.state.finished sent last.state.finished := by
  -- Others reach neither the journal nor the window, so only the steps count.
  induction path with
  | refl => exact ⟨[], (List.append_nil _).symm, begins⟩
  | step path ih =>
      rename_i worker
      obtain ⟨sent, sends, tallies⟩ := ih
      refine ⟨sent ++ worker.stage.acknowledges, ?_, step_tallies tallies⟩
      refine (step_acknowledged setup worker.stage worker.state).trans ?_
      change worker.bench.acknowledged ++ _ = _
      rw [sends, List.append_assoc]
  | meddle path host sink files ih => exact ih

theorem path_iterates {setup : Setup σ τ} {first last : Worker σ τ}
    {result : Except Error Iteration} (path : setup.Path first last)
    (begins : first.stage.Tallies first.state.finished [] first.state.finished)
    (ends : last.stage = .ended result) : Iterates first.state last.state result := by
  obtain ⟨sent, sends, tallies⟩ := path_tallies path begins
  rw [ends] at tallies
  obtain ⟨rfl, finished, known⟩ := tallies
  exact ⟨sends, finished, known⟩

/-- An iteration sends one acknowledgement if it ends with an entry that was processed, passed over,
or known, and none otherwise. Whatever the answer is, the entry is remembered. -/
theorem iterate_iterates (setup : Setup σ τ) (state : State σ τ) :
    Iterates state (setup.iterate state).2 (setup.iterate state).1 := by
  have here : setup.Path ⟨.resting, state⟩ ⟨.resting, state⟩ := .refl
  exact path_iterates (setup.path_iterate here) ⟨rfl, rfl⟩ rfl

theorem accept_iterates (setup : Setup σ τ) (delivery : Delivery) (state : State σ τ) :
    Iterates state (setup.accept delivery state).2 (setup.accept delivery state).1 := by
  let moved : State σ τ := { state with cursor := state.cursor.advance delivery.id }
  have here : setup.Path ⟨.received delivery, moved⟩ ⟨.received delivery, moved⟩ := .refl
  have iterates := path_iterates (setup.path_accept here) ⟨rfl, rfl⟩ rfl
  exact ⟨iterates.acknowledged, iterates.finished, iterates.remembered⟩

/-- An iteration that the operator stops acknowledges nothing. -/
theorem runUnlessCancelled_iterates (setup : Setup σ τ) (state : State σ τ) :
    match (setup.runUnlessCancelled state).1 with
    | some result => Iterates state (setup.runUnlessCancelled state).2 result
    | none =>
        (setup.runUnlessCancelled state).2.bench.acknowledged = state.bench.acknowledged ∧
          (setup.runUnlessCancelled state).2.finished = state.finished := by
  have here : setup.Path ⟨.resting, state⟩ ⟨.resting, state⟩ := .refl
  obtain ⟨stage, path, ends⟩ := setup.path_runUnlessCancelled here
  cases answer : (setup.runUnlessCancelled state).1 with
  | some result =>
      rw [answer] at ends
      exact path_iterates path ⟨rfl, rfl⟩ ends
  | none =>
      rw [answer] at ends
      obtain ⟨sent, sends, tallies⟩ := path_tallies path ⟨rfl, rfl⟩
      have still : sent = [] ∧ (setup.runUnlessCancelled state).2.finished = state.finished := by
        cases stage with
        | resting => exact tallies
        | claimed delivery => exact tallies
        | answered answer => exact tallies
        | _ => cases ends
      exact ⟨by rw [← List.append_nil state.bench.acknowledged, ← still.1]; exact sends, still.2⟩

end BuildBench.Coordinator
