import BuildBench.Proofs.Coordinator.Cursor
import BuildBench.Proofs.Coordinator.Group
import BuildBench.Proofs.Coordinator.Redelivery
import BuildBench.Proofs.Run.Files
import Mathlib

set_option autoImplicit false

/-! Iterations for which no run is made: the entry describes no build, or was finished before, or the
suites cannot be listed, or no entry could be read. Main statement: such an iteration acknowledges
the entry or does not, as its end says, and otherwise leaves everything as it is; and an entry that
it does not acknowledge stays pending and is handled in full when it comes again. -/

namespace BuildBench.Coordinator

open BuildBench.Definition BuildBench.Entry BuildBench.Run

variable {ι σ τ : Type} {setup : Setup σ τ}

/-- Certain calls were made. The files, the metrics store, the ledger and the cursor are as they
were. -/
structure State.Abstains (before after : State σ τ) (made : List Event) : Prop where
  calls : after.bench.calls = before.bench.calls ++ made
  files : after.bench.files = before.bench.files
  sink : after.bench.sink = before.bench.sink
  ledger : after.bench.ledger = before.bench.ledger
  cursor : after.cursor = before.cursor

/-- No run is made for a delivery, and so its handling ends. -/
inductive Setup.Unrun (setup : Setup σ τ) (delivery : Delivery) (state : State σ τ) :
    Except Error Iteration → Prop
  | known (known : state.finished.contains delivery.id = true) :
      Unrun setup delivery state (.ok (.duplicate delivery.id))
  | unreadable {reason : String} (unknown : state.finished.contains delivery.id = false)
      (body : delivery.body = .unreadable reason) :
      Unrun setup delivery state (.ok (.skipped delivery.id reason))
  | undescribed {fields : Fields} {error : DecodeError}
      (unknown : state.finished.contains delivery.id = false)
      (body : delivery.body = .fields fields)
      (undecoded : Build.decode delivery.id fields = .error error) :
      Unrun setup delivery state (.ok (.skipped delivery.id error.message))
  | unlisted {fields : Fields} {build : Build} {error : Definition.Error}
      (unknown : state.finished.contains delivery.id = false)
      (body : delivery.body = .fields fields)
      (decoded : Build.decode delivery.id fields = .ok build)
      (refused : (setup.suiteFiles state.bench).1 = .error error) :
      Unrun setup delivery state (.error (.suites setup.settings.suitesDirectory error))

/-! ### Handling a delivery -/

theorem inspect_apply {ε α : Type} (host : Host σ) (request : FileRequest)
    (refusal : Files.IoError → ε) (reading : Files.Tree → Except ε α) (bench : Bench σ τ) :
    ∃ after, (Action.inspect host request refusal reading bench).2 =
      { bench with host := after } := by
  unfold Action.inspect
  rw [Action.bind_apply]
  cases (Action.onHost (host.refuse request) bench).1 with
  | some cause => exact ⟨_, rfl⟩
  | none => exact ⟨_, rfl⟩

theorem passOver_abstains (setup : Setup σ τ) (id : Id) (notice : Notice) (reason : String)
    (state : State σ τ) :
    (setup.passOver id notice reason state).1 = .skipped id reason ∧
    (∃ answer, state.Abstains (setup.passOver id notice reason state).2 [.acknowledge id answer]) ∧
    (setup.passOver id notice reason state).2.finished = state.finished.insert id := by
  have reported := Action.report_makes notice state.bench
  obtain ⟨answer, acknowledged⟩ :=
    Action.acknowledge_makes setup.host (Action.report notice state.bench).2 id
  obtain ⟨journal, same⟩ :=
    acknowledge_apply setup.host id (Action.report notice state.bench).2
  have calls := acknowledged.calls
  rw [reported.calls, List.append_nil] at calls
  have ledger := acknowledged.ledger.trans reported.ledger
  refine ⟨rfl, ⟨answer, calls, ?_, ?_, ledger, rfl⟩, rfl⟩
  · change (Action.acknowledge setup.host id (Action.report notice state.bench).2).2.files = _
    rw [same]
    rfl
  · change (Action.acknowledge setup.host id (Action.report notice state.bench).2).2.sink = _
    rw [same]
    rfl

theorem benchmark_unlisted {build : Build} {state : State σ τ} {error : Definition.Error}
    (refused : (setup.suiteFiles state.bench).1 = .error error) :
    (setup.benchmark build state).1 = .error (.suites setup.settings.suitesDirectory error) ∧
    state.Abstains (setup.benchmark build state).2 [] ∧
    (setup.benchmark build state).2.finished = state.finished := by
  have listed := setup.suiteFiles_makes state.bench
  obtain ⟨host, same⟩ : ∃ host, (setup.suiteFiles state.bench).2 = { state.bench with host } :=
    inspect_apply setup.host _ _ _ state.bench
  have ended : setup.benchmark build state =
      (.error (.suites setup.settings.suitesDirectory error),
        { state with bench := (setup.suiteFiles state.bench).2 }) := by
    unfold Setup.benchmark
    rw [Work.bind_apply, Work.act_apply]
    simp only [refused]
    rfl
  rw [ended]
  refine ⟨rfl, ⟨listed.calls, ?_, ?_, listed.ledger, rfl⟩, rfl⟩
  · dsimp only
    rw [same]
  · dsimp only
    rw [same]

theorem Setup.Unrun.abstains {delivery : Delivery} {state : State σ τ}
    {result : Except Error Iteration} (unrun : setup.Unrun delivery state result) :
    (setup.treat delivery state).1 = result ∧
    (∃ answer, state.Abstains (setup.treat delivery state).2
      ((acknowledges result).map (.acknowledge · answer))) ∧
    (setup.treat delivery state).2.finished = remembers state.finished result := by
  cases unrun with
  | known known =>
      have only := acknowledgesOnly setup delivery.id state
      obtain ⟨answer, calls⟩ := only.calls
      rw [treat_known known]
      exact ⟨rfl, ⟨answer, calls, only.files, only.sink, only.ledger, only.cursor⟩, only.finished⟩
  | unreadable unknown body =>
      rename_i reason
      obtain ⟨ended, abstains, finished⟩ := passOver_abstains setup delivery.id .entryUnreadable
        reason state
      rw [treat_unknown unknown]
      unfold Setup.treatFresh
      simp only [body]
      exact ⟨congrArg Except.ok ended, abstains, finished⟩
  | undescribed unknown body undecoded =>
      rename_i fields error
      obtain ⟨ended, abstains, finished⟩ := passOver_abstains setup delivery.id .buildUndescribed
        error.message state
      rw [treat_unknown unknown]
      unfold Setup.treatFresh
      simp only [body, undecoded]
      exact ⟨congrArg Except.ok ended, abstains, finished⟩
  | unlisted unknown body decoded refused =>
      obtain ⟨ended, abstains, finished⟩ := benchmark_unlisted refused
      rw [treat_unknown unknown]
      unfold Setup.treatFresh
      simp only [body, decoded]
      exact ⟨ended, ⟨.ok (), abstains⟩, finished⟩

theorem benchmark_listed {build : Build} {state : State σ τ} {files : List String}
    (listed : (setup.suiteFiles state.bench).1 = .ok files) :
    setup.benchmark build state =
      (.ok (.processed
        { id := build.id
          gitHash := build.gitHash
          outcomes := (setup.runFiles build files (setup.suiteFiles state.bench).2).1 }),
        (setup.finish build.id { state with
          bench := (setup.runFiles build files (setup.suiteFiles state.bench).2).2 }).2) := by
  unfold Setup.benchmark
  rw [Work.bind_apply, Work.act_apply]
  simp only [listed]
  rfl

theorem unrun_or_processed (setup : Setup σ τ) (delivery : Delivery) (state : State σ τ) :
    (∃ result, setup.Unrun delivery state result) ∨
      ∃ report, (setup.treat delivery state).1 = .ok (.processed report) := by
  cases known : state.finished.contains delivery.id with
  | true => exact Or.inl ⟨_, .known known⟩
  | false =>
      rw [treat_unknown known]
      unfold Setup.treatFresh
      cases body : delivery.body with
      | unreadable reason => exact Or.inl ⟨_, .unreadable known body⟩
      | fields fields =>
          cases decoded : Build.decode delivery.id fields with
          | error error => exact Or.inl ⟨_, .undescribed known body decoded⟩
          | ok build =>
              cases listed : (setup.suiteFiles state.bench).1 with
              | error error => exact Or.inl ⟨_, .unlisted known body decoded listed⟩
              | ok files =>
                  simp only [decoded, benchmark_listed listed]
                  exact Or.inr ⟨_, rfl⟩

/-! ### When others meddle -/

/-- What was done for a delivery since it was received, as long as no run was made for it. -/
def Worker.Abstains (first : State σ τ) (worker : Worker σ τ) : Prop :=
  let asBefore (made : List Event) : Prop :=
    worker.bench.calls = first.bench.calls ++ made ∧ worker.bench.ledger = first.bench.ledger
  match worker.stage with
  | .received _ | .described _ | .repeating _ => asBefore []
  | .closing id iteration =>
      (∃ report, iteration = .processed report) ∨
        ((∃ reason, iteration = .skipped id reason) ∧ asBefore [])
  | .ended result =>
      (∃ report, result = .ok (.processed report)) ∨
        ∃ answer, asBefore ((acknowledges result).map (.acknowledge · answer))
  | _ => True

theorem Stage.Calls.silent {stage : Stage} {made : List Event} (listed : stage.Calls made)
    (silent : stage.acknowledges = []) (asked : stage.canCancel = false)
    (noRun : stage.isPass = false) : made = [] := by
  cases listed with
  | claim idle answer => cases asked
  | read cursor answer => cases asked
  | pass others => cases noRun
  | finish id iteration answer => cases silent
  | again id answer => cases silent
  | nothing silent => rfl

theorem step_abstains {first : State σ τ} {worker : Worker σ τ}
    (handling : worker.stage.canCancel = false) (abstains : worker.Abstains first) :
    (setup.next worker).Abstains first := by
  obtain ⟨stage, state⟩ := worker
  have follows := step_follows setup stage state
  obtain ⟨made, listed, calls, ledger⟩ := setup.step_makes state stage
  have quiet (silent : stage.acknowledges = []) (noRun : stage.isPass = false)
      {earlier : List Event}
      (before : state.bench.calls = first.bench.calls ++ earlier ∧
        state.bench.ledger = first.bench.ledger) :
      (setup.step stage state).2.bench.calls = first.bench.calls ++ earlier ∧
        (setup.step stage state).2.bench.ledger = first.bench.ledger := by
    rw [listed.silent silent handling noRun, List.append_nil] at calls
    exact ⟨calls.trans before.1, (ledger noRun).trans before.2⟩
  unfold Worker.Abstains Setup.next
  dsimp only [Worker.bench]
  generalize (setup.step stage state).1.2 = next at follows ⊢
  cases follows with
  | claimed delivery => cases handling
  | taken delivery => cases handling
  | answered answer => cases handling
  | unread error => cases handling
  | read delivery => cases handling
  | idle => cases handling
  | known known => exact quiet rfl rfl abstains
  | rejected unknown reason => exact Or.inr ⟨⟨reason, rfl⟩, quiet rfl rfl abstains⟩
  | begun unknown same => exact quiet rfl rfl abstains
  | unlisted build directory error => exact Or.inr ⟨.ok (), quiet rfl rfl abstains⟩
  | filesDone build outcomes => exact Or.inl ⟨_, rfl⟩
  | closed id iteration =>
      rcases abstains with ⟨report, rfl⟩ | ⟨⟨reason, rfl⟩, before⟩
      · exact Or.inl ⟨report, rfl⟩
      · refine Or.inr ?_
        cases listed with
        | finish id iteration answer =>
            refine ⟨answer, ?_, (ledger rfl).trans before.2⟩
            rw [calls]
            exact congrArg (· ++ _) (before.1.trans (List.append_nil _))
        | nothing silent => cases silent
  | repeated id =>
      refine Or.inr ?_
      cases listed with
      | again id answer =>
          refine ⟨answer, ?_, (ledger rfl).trans abstains.2⟩
          rw [calls]
          exact congrArg (· ++ _) (abstains.1.trans (List.append_nil _))
      | nothing silent => cases silent
  | settled result =>
      rcases abstains with ⟨report, rfl⟩ | ⟨answer, before⟩
      · exact Or.inl ⟨report, rfl⟩
      · exact Or.inr ⟨answer, quiet rfl rfl before⟩
  | _ => trivial

theorem path_abstains {delivery : Delivery} {state : State σ τ} {last : Worker σ τ}
    (path : setup.Path ⟨.received delivery, state⟩ last) : last.Abstains state := by
  induction path with
  | refl => exact ⟨(List.append_nil _).symm, rfl⟩
  | step path ih => exact step_abstains (path_cursor path).2 ih
  | meddle path host sink files ih => exact ih

/-! ### A read that fails -/

/-- Since an iteration began entries were claimed and read, and the coordinator is as it was. -/
structure Awaits (first current : State σ τ) (reads : List Event) : Prop where
  made : ∃ claims, (∀ event ∈ claims, ∃ idle answer, event = .takeOver idle answer) ∧
    first.Makes current (claims ++ reads)
  cursor : current.cursor = first.cursor

theorem Awaits.begins (state : State σ τ) : Awaits state state [] where
  made := ⟨[], (by intro event member; cases member), .nothing rfl rfl⟩
  cursor := rfl

theorem Awaits.claim {first state : State σ τ} (awaits : Awaits first state []) :
    Awaits first (setup.claim state).2 [] := by
  obtain ⟨⟨claims, asked, makes⟩, cursor⟩ := awaits
  obtain ⟨made, claimed, listed⟩ := setup.claim_makes state
  refine ⟨⟨claims ++ made, ?_, ?_⟩, (claim_keepsCursor setup state).trans cursor⟩
  · intro event member
    rcases List.mem_append.mp member with earlier | own
    · exact asked event earlier
    · cases listed with
      | claim idle answer => exact ⟨idle, answer, List.mem_singleton.mp own⟩
      | nothing silent => cases own
  · have both := makes.trans claimed
    rw [List.append_nil] at both ⊢
    exact both

theorem Awaits.read {first state : State σ τ} (awaits : Awaits first state []) :
    Awaits first (setup.readNext state).2 [.read first.cursor (setup.readNext state).1] := by
  obtain ⟨⟨claims, asked, makes⟩, cursor⟩ := awaits
  have read : state.Makes (setup.readNext state).2
      [.read state.cursor (setup.readNext state).1] :=
    .ofAction (Action.read_makes setup.host state.bench state.cursor)
  rw [List.append_nil] at makes
  refine ⟨⟨claims, asked, ?_⟩, (readNext_keepsCursor setup state).trans cursor⟩
  rw [← cursor]
  exact makes.trans read

/-- What was done since an iteration began, as long as no entry has come. -/
def Worker.Awaits (first : State σ τ) (worker : Worker σ τ) : Prop :=
  match worker.stage with
  | .resting | .claimed _ => Coordinator.Awaits first worker.state []
  | .answered answer => Coordinator.Awaits first worker.state [.read first.cursor answer]
  | .ended (.error (.queue error)) =>
      Coordinator.Awaits first worker.state [.read first.cursor (.error error)]
  | _ => True

theorem step_awaits {first : State σ τ} {worker : Worker σ τ} (awaits : worker.Awaits first) :
    (setup.next worker).Awaits first := by
  obtain ⟨stage, state⟩ := worker
  have follows := step_follows setup stage state
  cases stage with
  | resting => exact Coordinator.Awaits.claim awaits
  | claimed delivery =>
      cases delivery with
      | some delivery => trivial
      | none => exact Coordinator.Awaits.read awaits
  | answered answer =>
      cases answer with
      | error error => exact awaits
      | ok delivery => cases delivery <;> trivial
  | ended result => exact awaits
  | _ =>
      -- An entry is at hand, so that the iteration no longer ends with a failed read.
      unfold Worker.Awaits Setup.next
      dsimp only
      generalize (setup.step _ state).1.2 = next at follows ⊢
      cases follows <;> trivial

theorem path_awaits {first : State σ τ} {last : Worker σ τ}
    (path : setup.Path ⟨.resting, first⟩ last) : last.Awaits first := by
  induction path with
  | refl => exact .begins first
  | step path ih => exact step_awaits ih
  | meddle path host sink files ih =>
      rename_i worker
      obtain ⟨stage, state⟩ := worker
      have meddled {reads : List Event} (awaits : Coordinator.Awaits first state reads) :
          Coordinator.Awaits first
            { state with bench := { state.bench with host, sink, files } } reads := by
        obtain ⟨⟨claims, asked, makes⟩, cursor⟩ := awaits
        exact ⟨⟨claims, asked, makes.calls, makes.ledger, makes.finished⟩, cursor⟩
      unfold Worker.Awaits at ih ⊢
      dsimp only [Setup.meddled] at ih ⊢
      split at ih
      all_goals first | exact meddled ih | trivial

theorem claim_abstains (setup : Setup σ τ) (state : State σ τ) :
    (setup.claim state).2.bench.files = state.bench.files ∧
      (setup.claim state).2.bench.sink = state.bench.sink := by
  unfold Setup.claim
  cases setup.settings.claimIdle with
  | none => exact ⟨rfl, rfl⟩
  | some idle =>
      dsimp only
      rw [Work.bind_apply, Work.act_apply]
      cases (Action.takeOver setup.host idle state.bench).1 with
      | ok delivery => exact ⟨rfl, rfl⟩
      | error error => exact ⟨rfl, rfl⟩

theorem treat_ne_queue (setup : Setup σ τ) (delivery : Delivery) (state : State σ τ)
    (error : QueueError) : (setup.treat delivery state).1 ≠ .error (.queue error) := by
  intro fails
  rcases unrun_or_processed setup delivery state with ⟨result, unrun⟩ | ⟨report, processed⟩
  · have ended := unrun.abstains.1.symm.trans fails
    cases unrun <;> cases ended
  · cases processed.symm.trans fails

theorem iterate_unread {state : State σ τ} {error : QueueError}
    (fails : (setup.iterate state).1 = .error (.queue error)) :
    (∃ claims, (∀ event ∈ claims, ∃ idle answer, event = .takeOver idle answer) ∧
      state.Abstains (setup.iterate state).2 (claims ++ [.read state.cursor (.error error)])) ∧
    (setup.iterate state).2.finished = state.finished := by
  have awaits := path_awaits (setup.path_iterate (.refl : setup.Path ⟨.resting, state⟩ _))
  rw [fails] at awaits
  obtain ⟨⟨claims, asked, makes⟩, cursor⟩ := awaits
  have kept : (setup.iterate state).2.bench.files = state.bench.files ∧
      (setup.iterate state).2.bench.sink = state.bench.sink := by
    have claimed := claim_abstains setup state
    unfold Setup.iterate at fails ⊢
    rw [Work.bind_apply] at fails ⊢
    cases given : (setup.claim state).1 with
    | some delivery =>
        simp only [given] at fails
        exact absurd fails (treat_ne_queue setup delivery _ error)
    | none =>
        simp only [given] at fails ⊢
        rw [Work.bind_apply] at fails ⊢
        cases answer : (setup.readNext (setup.claim state).2).1 with
        | error error => exact claimed
        | ok delivery =>
            simp only [answer] at fails
            cases delivery with
            | none => cases fails
            | some delivery => exact absurd fails (treat_ne_queue setup delivery _ error)
  exact ⟨⟨claims, asked, makes.calls, kept.1, kept.2, makes.ledger, cursor⟩, makes.finished⟩

/-! ### Entries that come again -/

theorem remembers_unknown {window : Window} {result : Except Error Iteration} {id : Id}
    (unknown : window.contains id = false) (other : completed? result ≠ some id) :
    (remembers window result).contains id = false := by
  have inserted {done : Id} (different : done ≠ id) : (window.insert done).contains id = false := by
    rw [← Bool.not_eq_true] at unknown ⊢
    intro known
    rcases Window.mem_insert (List.contains_iff_mem.mp known) with same | earlier
    · exact different same.symm
    · exact unknown (List.contains_iff_mem.mpr earlier)
  cases result with
  | error error => exact unknown
  | ok iteration =>
      cases iteration with
      | idle => exact unknown
      | duplicate done => exact unknown
      | skipped done reason => exact inserted fun same => other (congrArg some same)
      | processed report => exact inserted fun same => other (congrArg some same)

section Later

variable {id : Id}

theorem runPast_suffix (iterations : Nat) (state : State σ τ)
    (past : List (Except Error Iteration)) : past <:+ setup.runPast iterations state past := by
  induction iterations generalizing state past with
  | zero => exact List.suffix_rfl
  | succ iterations ih =>
      unfold Setup.runPast
      cases setup.runUnlessCancelled state with
      | mk result after =>
          cases result with
          | none => exact List.suffix_rfl
          | some result =>
              cases result with
              | ok iteration => exact (List.suffix_cons _ _).trans (ih _ _)
              | error error =>
                  dsimp only
                  split
                  · exact List.suffix_cons _ _
                  · exact (List.suffix_cons _ _).trans (ih _ _)

theorem lifePast_suffix (activities : List (Setup.Activity σ τ)) (state : State σ τ)
    (past : List (Except Error Iteration)) : past <:+ setup.lifePast state past activities := by
  induction activities generalizing state past with
  | nil => exact List.suffix_rfl
  | cons activity rest ih =>
      refine List.IsSuffix.trans ?_ (ih _ _)
      cases activity with
      | iterate => exact List.suffix_cons _ _
      | process delivery => exact List.suffix_cons _ _
      | run iterations => exact runPast_suffix iterations state past
      | meddle host sink files => exact List.suffix_rfl

theorem run_unknown (iterations : Nat) {state : State σ τ} {past : List (Except Error Iteration)}
    (unknown : state.finished.contains id = false)
    (others : ∀ result ∈ setup.runPast iterations state past, completed? result ≠ some id) :
    (setup.run iterations state).2.finished.contains id = false := by
  induction iterations generalizing state past with
  | zero => exact unknown
  | succ iterations ih =>
      have iterates := runUnlessCancelled_iterates setup state
      unfold Setup.runPast at others
      unfold Setup.run
      rw [Work.bind_apply]
      cases answer : setup.runUnlessCancelled state with
      | mk result after =>
          rw [answer] at iterates others
          cases result with
          | none =>
              change after.finished.contains id = false
              rw [iterates.2]
              exact unknown
          | some result =>
              have still (other : completed? result ≠ some id) :
                  after.finished.contains id = false := by
                rw [iterates.finished]
                exact remembers_unknown unknown other
              cases result with
              | ok iteration =>
                  have latest := others _ ((runPast_suffix iterations after _).subset
                    List.mem_cons_self)
                  exact ih (still latest) others
              | error error =>
                  have kept := still (fun completes => by cases completes)
                  simp only [Work.bind_apply] at others ⊢
                  cases asked :
                    (setup.cancelled (Setup.act (Action.report .iterationFailed) after).2).1 with
                  | true => exact kept
                  | false =>
                      simp only [asked] at others ⊢
                      exact ih kept others

theorem life_unknown (activities : List (Setup.Activity σ τ)) {state : State σ τ}
    {past : List (Except Error Iteration)} (unknown : state.finished.contains id = false)
    (others : ∀ result ∈ setup.lifePast state past activities, completed? result ≠ some id) :
    (setup.life state activities).finished.contains id = false := by
  induction activities generalizing state past with
  | nil => exact unknown
  | cons activity rest ih =>
      refine ih ?_ others
      have soFar (result : Except Error Iteration)
          (member : result ∈ setup.undertakePast state past activity) :
          completed? result ≠ some id :=
        others result ((lifePast_suffix rest _ _).subset member)
      cases activity with
      | iterate =>
          change (setup.iterate state).2.finished.contains id = false
          rw [(iterate_iterates setup state).finished]
          exact remembers_unknown unknown (soFar _ List.mem_cons_self)
      | process delivery =>
          change (setup.accept delivery state).2.finished.contains id = false
          rw [(accept_iterates setup delivery state).finished]
          exact remembers_unknown unknown (soFar _ List.mem_cons_self)
      | run iterations => exact run_unknown iterations unknown soFar
      | meddle host sink files => exact unknown

end Later

/-- Unless an iteration completes the entry meanwhile, it is handled in full whenever it is delivered
again, and wherever the cursor is then. -/
def Setup.StillOwes (setup : Setup σ τ) (id : Id) (state : State σ τ) : Prop :=
  ∀ activities, (∀ result ∈ setup.lifePast state [] activities, completed? result ≠ some id) →
    ∀ delivery cursor, delivery.id = id →
      let later := { setup.life state activities with cursor }
      setup.treat delivery later = setup.treatFresh delivery later

theorem stillOwes_of_unknown {id : Id} {state : State σ τ}
    (unknown : state.finished.contains id = false) : setup.StillOwes id state := by
  rintro activities others delivery cursor rfl
  exact treat_unknown (life_unknown activities unknown others)

/-! ### Main result -/

/-- The handling of an entry that ends without a run calls nobody but the queue, and leaves the
files, the metrics store, the ledger and the cursor alone. An entry that describes no build is
acknowledged once and remembered; one that is known is acknowledged once; and when the suites cannot
be listed the entry is neither acknowledged nor remembered, so that it stays pending and is handled
in full when it comes again. What others do meanwhile makes no difference to what the coordinator
does. A read that fails changes nothing about the coordinator. -/
theorem unrun_changes_nothing (setup : Setup σ τ) :
    (∀ delivery (state : State σ τ) result after, setup.treat delivery state = (result, after) →
      (∀ id reason, result = .ok (.skipped id reason) →
        id = delivery.id ∧ Undescribed delivery ∧
        (∃ answer, state.Abstains after [.acknowledge id answer]) ∧
        after.finished = state.finished.insert id) ∧
      (∀ id, result = .ok (.duplicate id) →
        id = delivery.id ∧ state.finished.contains id = true ∧
        (∃ answer, state.Abstains after [.acknowledge id answer]) ∧
        after.finished = state.finished) ∧
      ∀ error, result = .error error →
        (∃ cause, error = .suites setup.settings.suitesDirectory cause ∧
          (setup.suiteFiles state.bench).1 = .error cause) ∧
        state.Abstains after [] ∧ after.finished = state.finished ∧
        (∀ (consumer : ι) group served made, after.bench.calls = state.bench.calls ++ made →
          Group.Serves consumer made group served → served = group) ∧
        setup.StillOwes delivery.id after) ∧
    (∀ delivery (state : State σ τ) result after,
      setup.Path ⟨.received delivery, state⟩ ⟨.ended result, after⟩ →
      (∃ report, result = .ok (.processed report)) ∨
        ((∃ answer, after.bench.calls =
            state.bench.calls ++ (acknowledges result).map (.acknowledge · answer)) ∧
          after.bench.ledger = state.bench.ledger ∧
          after.finished = remembers state.finished result ∧ after.cursor = state.cursor)) ∧
    (∀ (state : State σ τ) error, (setup.claim state).1 = none →
      (setup.readNext (setup.claim state).2).1 = .error error →
      (setup.iterate state).1 = .error (.queue error) ∧
      (∃ claims, (∀ event ∈ claims, ∃ idle answer, event = .takeOver idle answer) ∧
        state.Abstains (setup.iterate state).2 (claims ++ [.read state.cursor (.error error)])) ∧
      (setup.iterate state).2.finished = state.finished) ∧
    ∀ (state : State σ τ) error after,
      setup.Path ⟨.resting, state⟩ ⟨.ended (.error (.queue error)), after⟩ →
      Awaits state after [.read state.cursor (.error error)] := by
  refine ⟨?_, ?_, ?_, fun state error after path => path_awaits path⟩
  · intro delivery state result after treated
    have unrun (other : ¬∃ report, result = .ok (.processed report)) :
        setup.Unrun delivery state result ∧
          (∃ answer, state.Abstains after ((acknowledges result).map (.acknowledge · answer))) ∧
          after.finished = remembers state.finished result := by
      rcases unrun_or_processed setup delivery state with ⟨ended, unrun⟩ | processed
      · obtain ⟨same, abstains, finished⟩ := unrun.abstains
        rw [treated] at same abstains finished
        cases same
        exact ⟨unrun, abstains, finished⟩
      · rw [treated] at processed
        exact absurd processed other
    refine ⟨?_, ?_, ?_⟩
    · rintro id reason rfl
      obtain ⟨unrun, abstains, finished⟩ := unrun (by rintro ⟨report, same⟩; cases same)
      cases unrun with
      | unreadable unknown body => exact ⟨rfl, Or.inl ⟨_, body⟩, abstains, finished⟩
      | undescribed unknown body undecoded =>
          exact ⟨rfl, Or.inr ⟨_, _, body, undecoded⟩, abstains, finished⟩
    · rintro id rfl
      obtain ⟨unrun, abstains, finished⟩ := unrun (by rintro ⟨report, same⟩; cases same)
      cases unrun with
      | known known => exact ⟨rfl, known, abstains, finished⟩
    · rintro error rfl
      obtain ⟨unrun, ⟨_, abstains⟩, finished⟩ := unrun (by rintro ⟨report, same⟩; cases same)
      cases unrun with
      | unlisted unknown body decoded refused =>
          refine ⟨⟨_, rfl, refused⟩, abstains, finished, ?_, ?_⟩
          · intro consumer group served made calls serves
            have none : made = [] := List.append_cancel_left (calls.symm.trans abstains.calls)
            rw [none] at serves
            cases serves
            rfl
          · refine stillOwes_of_unknown ?_
            rw [finished]
            exact unknown
  · intro delivery state result after path
    rcases path_abstains path with processed | ⟨answer, calls, ledger⟩
    · exact Or.inl processed
    · refine Or.inr ⟨⟨answer, calls⟩, ledger, ?_, (path_cursor path).1⟩
      exact (path_iterates path ⟨rfl, rfl⟩ rfl).finished
  · intro state error unclaimed unread
    have fails : (setup.iterate state).1 = .error (.queue error) := by
      unfold Setup.iterate
      rw [Work.bind_apply, unclaimed]
      dsimp only
      rw [Work.bind_apply, unread]
      rfl
    exact ⟨fails, iterate_unread fails⟩

/-- In a rehearsal without suites an entry that describes a build stays pending. -/
theorem unrun_changes_nothing_rehearsed :
    let delivery : Delivery :=
      { id := ⟨1, 0⟩, body := .fields (.ofList [("git_hash", [48]), ("build_image", [105])]) }
    let state := Setup.rehearsed.start .start none .empty .undelivered
    let after := (Setup.rehearsed.treat delivery state).2
    (Setup.rehearsed.treat delivery state).1 =
        .error (.suites "test-suites" (.unreadable "test-suites" .notFound)) ∧
      state.Abstains after [] ∧ Setup.rehearsed.StillOwes delivery.id after := by
  intro delivery state after
  have steps : Files.steps "test-suites" = ["test-suites"] := by decide
  have walked : Files.Tree.empty.walk .target 40 [] ["test-suites"] = .ok ["test-suites"] := by cbv
  have resolved : Files.Tree.empty.resolve "test-suites" .target = .ok ["test-suites"] := by
    unfold Files.Tree.resolve
    rw [steps]
    exact walked
  have missing : Files.Tree.empty.listDirectory "test-suites" = .error .notFound := by
    unfold Files.Tree.listDirectory Files.Tree.find
    rw [resolved]
    rfl
  have decoded : ∃ build, Build.decode delivery.id
      (.ofList [("git_hash", [48]), ("build_image", [105])]) = .ok build := ⟨_, by cbv⟩
  obtain ⟨build, decoded⟩ := decoded
  have refused : (Setup.rehearsed.suiteFiles state.bench).1 =
      .error (.unreadable "test-suites" .notFound) := by
    change definitionFiles .empty "test-suites" = _
    unfold definitionFiles
    rw [missing]
  have ended := (Setup.Unrun.unlisted rfl rfl decoded refused).abstains.1
  obtain ⟨-, abstains, -, -, owes⟩ :=
    ((@unrun_changes_nothing Unit _ _ Setup.rehearsed).1 delivery state _ after
      (Prod.ext ended rfl)).2.2 _ rfl
  exact ⟨ended, abstains, owes⟩

end BuildBench.Coordinator
