import BuildBench.Proofs.Coordinator.Completion

set_option autoImplicit false

/-! The order of the stages of an iteration. Main statement: a step leads only from one stage to one
of those listed here as following it, and whether the entry at hand is known is asked once, when it
is received. -/

namespace BuildBench.Coordinator

open BuildBench.Definition BuildBench.Entry BuildBench.Run

variable {σ τ : Type}

inductive Stage.Follows (finished : Window) : Stage → Stage → Prop
  | claimed (delivery : Option Delivery) : Follows finished .resting (.claimed delivery)
  | taken (delivery : Delivery) :
      Follows finished (.claimed (some delivery)) (.received delivery)
  | answered (answer : Except QueueError (Option Delivery)) :
      Follows finished (.claimed none) (.answered answer)
  | unread (error : QueueError) :
      Follows finished (.answered (.error error)) (.ended (.error (.queue error)))
  | read (delivery : Delivery) :
      Follows finished (.answered (.ok (some delivery))) (.received delivery)
  | idle : Follows finished (.answered (.ok none)) (.ended (.ok .idle))
  | known {delivery : Delivery} (known : finished.contains delivery.id = true) :
      Follows finished (.received delivery) (.repeating delivery.id)
  | rejected {delivery : Delivery} (fresh : finished.contains delivery.id = false)
      (reason : String) :
      Follows finished (.received delivery)
        (.closing delivery.id (.skipped delivery.id reason))
  | begun {delivery : Delivery} {build : Build}
      (fresh : finished.contains delivery.id = false) (same : build.id = delivery.id) :
      Follows finished (.received delivery) (.described build)
  | unlisted (build : Build) (directory : String) (error : Definition.Error) :
      Follows finished (.described build) (.ended (.error (.suites directory error)))
  | listed (build : Build) (files : List String) :
      Follows finished (.described build) (.amidFiles build files [])
  | filesDone (build : Build) (outcomes : List Outcome) :
      Follows finished (.amidFiles build [] outcomes)
        (.closing build.id (.processed { id := build.id, gitHash := build.gitHash, outcomes }))
  | passedOver (build : Build) (path : String) (rest : List String) (outcomes : List Outcome) :
      Follows finished (.amidFiles build (path :: rest) outcomes) (.amidFiles build rest outcomes)
  | opened (build : Build) (suite : Suite) (slots : List Slot) (path : String)
      (rest : List String) (outcomes : List Outcome) :
      Follows finished (.amidFiles build (path :: rest) outcomes)
        (.amidSlots build suite slots rest outcomes)
  | slotsDone (build : Build) (suite : Suite) (files : List String) (outcomes : List Outcome) :
      Follows finished (.amidSlots build suite [] files outcomes)
        (.amidFiles build files outcomes)
  | ran (build : Build) (suite : Suite) (slot : Slot) (rest : List Slot) (files : List String)
      (outcomes : List Outcome) (outcome : Outcome) :
      Follows finished (.amidSlots build suite (slot :: rest) files outcomes)
        (.amidSlots build suite rest files (outcomes ++ [outcome]))
  | closed (id : Id) (iteration : Iteration) :
      Follows finished (.closing id iteration) (.ended (.ok iteration))
  | repeated (id : Id) : Follows finished (.repeating id) (.ended (.ok (.duplicate id)))
  | settled (result : Except Error Iteration) : Follows finished (.ended result) (.ended result)

theorem meet_known {state : State σ τ} {delivery : Delivery}
    (known : state.finished.contains delivery.id = true) :
    Setup.meet delivery state = ((none, .repeating delivery.id), state) := by
  unfold Setup.meet
  rw [Work.bind_apply, Work.get_apply]
  simp only [known]
  rfl

theorem meet_follows (state : State σ τ) (delivery : Delivery) :
    Stage.Follows state.finished (.received delivery) (Setup.meet delivery state).1.2 := by
  cases asked : state.finished.contains delivery.id with
  | true =>
      rw [meet_known asked]
      exact .known asked
  | false =>
      rcases meet_cases state delivery with ⟨known, _⟩ | ⟨_, reason, same⟩ |
        ⟨_, build, _, decoded, same⟩
      · rw [asked] at known
        cases known
      · rw [same]
        exact .rejected asked reason
      · rw [same]
        exact .begun asked (decode_id decoded)

/-- A step leads to a stage that follows. -/
theorem step_follows (setup : Setup σ τ) (stage : Stage) (state : State σ τ) :
    stage.Follows state.finished (setup.step stage state).1.2 := by
  cases stage with
  | resting => exact .claimed _
  | claimed delivery =>
      cases delivery with
      | some delivery => exact .taken delivery
      | none => exact .answered _
  | answered answer =>
      cases answer with
      | error error => exact .unread error
      | ok delivery =>
          cases delivery with
          | some delivery => exact .read delivery
          | none => exact .idle
  | received delivery => exact meet_follows state delivery
  | described build =>
      have surveyed : setup.step (.described build) state = setup.survey build state := rfl
      rw [surveyed]
      rcases survey_cases setup state build with ⟨error, same⟩ | ⟨files, _, same⟩
      · rw [same]
        exact .unlisted build _ error
      · rw [same]
        exact .listed build files
  | amidFiles build files outcomes =>
      cases files with
      | nil => exact .filesDone build outcomes
      | cons path rest =>
          have turned : setup.step (.amidFiles build (path :: rest) outcomes) state =
            setup.turnTo build path rest outcomes state := rfl
          rw [turned]
          rcases turnTo_cases setup state build path rest outcomes with
            ⟨error, _, same⟩ | ⟨suite, _, same⟩
          · rw [same]
            exact .passedOver build path rest outcomes
          · rw [same]
            exact .opened build suite _ path rest outcomes
  | amidSlots build suite slots files outcomes =>
      cases slots with
      | nil => exact .slotsDone build suite files outcomes
      | cons slot rest => exact .ran build suite slot rest files outcomes _
  | closing id iteration => exact .closed id iteration
  | repeating id => exact .repeated id
  | ended result => exact .settled result

end BuildBench.Coordinator
