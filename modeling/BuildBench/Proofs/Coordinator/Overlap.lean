import BuildBench.Proofs.Coordinator.Conservation
import BuildBench.Proofs.Coordinator.Outcomes
import BuildBench.Proofs.Run.Deferral

set_option autoImplicit false

/-! Runs that fail since their CPUs are taken. Main statement: a slice overlaps nothing but a
reservation that a deferred stop of an earlier run pins, and that stop failed once more right before
the run; so where no stop fails, runs fail for want of CPUs only if the pool is too small for
them. -/

namespace BuildBench.Coordinator

open BuildBench.Definition BuildBench.Entry BuildBench.Run

variable {σ τ : Type} {setup : Setup σ τ}

/-! ### What is owed -/

theorem owes_step {stage : Stage} {state : State σ τ} (owes : state.bench.Owes) :
    (setup.step stage state).2.bench.Owes := by
  rcases setup.step_bench state stage with
    ⟨build, suite, slot, rest, files, outcomes, -, ran⟩ | ⟨made, -, -, calls, ledger⟩
  · rw [ran]
    exact slot.perform_owes setup.collaborators setup.settings build suite owes
  · exact owes.more calls (congrArg Cpu.Ledger.deferred ledger)

theorem owes_move {before after : Worker σ τ} {deed : Option Deed} (owes : before.bench.Owes)
    (move : setup.Move before deed after) : after.bench.Owes := by
  rcases Setup.move_bench move with rfl | ⟨calls, ledger⟩
  · exact owes_step owes
  · exact owes.more (calls.trans (List.append_nil _).symm) (congrArg Cpu.Ledger.deferred ledger)

theorem Setup.Reached.owes {worker : Worker σ τ} (reached : setup.Reached worker) :
    worker.bench.Owes := by
  induction reached with
  | start host sink files cursor => exact .start host sink files _
  | move reached move ih => exact owes_move ih move

/-! ### Where outcomes come from -/

def endOutcomes : Except Error Iteration → List Outcome
  | .ok (.processed report) => report.outcomes
  | _ => []

/-- The outcomes of the entry at hand, or of the one that was handled last. -/
def Stage.outcomes : Stage → List Outcome
  | .amidFiles _ _ outcomes | .amidSlots _ _ _ _ outcomes => outcomes
  | .closing _ iteration => endOutcomes (.ok iteration)
  | .ended result => endOutcomes result
  | _ => []

/-- A run was made on a bench that a coordinator has reached, for a slot that was due. -/
inductive Setup.Makes (setup : Setup σ τ) : Slot → Suite → Bench σ τ → Bench σ τ → Outcome → Prop
  | run {build : Build} {suite : Suite} {slot : Slot} {rest : List Slot} {files : List String}
      {outcomes : List Outcome} {state : State σ τ}
      (reached : setup.Reached ⟨.amidSlots build suite (slot :: rest) files outcomes, state⟩) :
      Makes setup slot suite state.bench
        (slot.perform setup.collaborators setup.settings build suite state.bench).2
        (slot.perform setup.collaborators setup.settings build suite state.bench).1

/-- Among the calls are those of the run that ended so. -/
def Setup.Made (setup : Setup σ τ) (calls : List Event) (outcome : Outcome) : Prop :=
  ∃ slot suite before after later,
    setup.Makes slot suite before after outcome ∧ calls = after.calls ++ later

theorem Setup.Made.more {calls : List Event} {outcome : Outcome} (made : setup.Made calls outcome)
    (later : List Event) : setup.Made (calls ++ later) outcome := by
  obtain ⟨slot, suite, before, after, others, makes, rfl⟩ := made
  exact ⟨slot, suite, before, after, others ++ later, makes, List.append_assoc _ _ _⟩

theorem move_calls {before after : Worker σ τ} {deed : Option Deed}
    (move : setup.Move before deed after) :
    ∃ later, after.bench.calls = before.bench.calls ++ later := by
  rcases Setup.move_bench move with rfl | ⟨calls, -⟩
  · obtain ⟨made, _, calls, _⟩ := setup.step_makes before.state before.stage
    exact ⟨made, calls⟩
  · exact ⟨[], calls.trans (List.append_nil _).symm⟩

theorem step_outcomes {stage : Stage} {state : State σ τ} {outcome : Outcome}
    (member : outcome ∈ (setup.step stage state).1.2.outcomes) :
    outcome ∈ stage.outcomes ∨
      ∃ build suite slot rest files outcomes,
        stage = .amidSlots build suite (slot :: rest) files outcomes ∧
        outcome = (slot.perform setup.collaborators setup.settings build suite state.bench).1 := by
  have follows := step_follows setup stage state
  cases stage with
  | amidSlots build suite slots files outcomes =>
      cases slots with
      | nil => exact Or.inl member
      | cons slot rest =>
          rcases List.mem_append.mp member with earlier | own
          · exact Or.inl earlier
          · exact Or.inr ⟨build, suite, slot, rest, files, outcomes, rfl, List.mem_singleton.mp own⟩
  | ended result => exact Or.inl member
  | _ =>
      generalize (setup.step _ state).1.2 = next at follows member
      cases follows <;> exact Or.inl member

theorem Setup.Chronicle.reached {past : List (Except Error Iteration)} {worker : Worker σ τ}
    (chronicle : setup.Chronicle past worker) : setup.Reached worker := by
  induction chronicle with
  | start host sink files cursor => exact .start host sink files cursor
  | move chronicle move goesOn ih => exact ih.move move
  | rest chronicle ended ih => exact ih.move (.rest ended)

/-- Every outcome that was ever reported is that of a run that was made. -/
theorem Setup.Chronicle.made {past : List (Except Error Iteration)} {worker : Worker σ τ}
    (chronicle : setup.Chronicle past worker) :
    ∀ outcome ∈ worker.stage.outcomes ++ past.flatMap endOutcomes,
      setup.Made worker.bench.calls outcome := by
  induction chronicle with
  | start host sink files cursor =>
      intro outcome member
      cases member
  | @move past worker after deed chronicle move goesOn ih =>
      obtain ⟨later, calls⟩ := move_calls move
      intro outcome member
      rw [calls]
      rcases List.mem_append.mp member with current | earlier
      · have kept (same : after.stage.outcomes = worker.stage.outcomes) :
            setup.Made (worker.bench.calls ++ later) outcome := by
          rw [same] at current
          exact (ih outcome (List.mem_append_left _ current)).more later
        cases move with
        | step =>
            rcases step_outcomes current with earlier | ⟨build, suite, slot, rest, files, outcomes,
              due, rfl⟩
            · exact (ih outcome (List.mem_append_left _ earlier)).more later
            · obtain ⟨stage, state⟩ := worker
              cases due
              rw [← calls]
              exact ⟨slot, suite, _, _, [], .run chronicle.reached, (List.append_nil _).symm⟩
        | meddle host sink files => exact kept rfl
        | cancel early => cases current
        | rest ended => cases current
        | notice notice => exact kept rfl
        | accept delivery resting => cases current
      · exact (ih outcome (List.mem_append_right _ earlier)).more later
  | @rest past worker result chronicle ended ih =>
      intro outcome member
      refine ih outcome ?_
      rw [ended]
      rw [List.flatMap_cons] at member
      exact member

/-! ### Overlaps -/

def StopFails (event : Event) : Prop :=
  ∃ handle error, event = .stop handle (.error error)

/-- When deferred stops are tried again, all in turn, one that pins a slice of an earlier run fails
once more. -/
structure PinnedBy (before retried : Bench σ τ) (live : Cpu.Slice) (stop : Cpu.PendingStop) :
    Prop where
  deferred : stop ∈ retried.ledger.deferred
  pins : live ∈ stop.slices
  earlier : ∃ event ∈ before.calls, LaunchedOn live stop.handle event
  failed : ∃ (answers : List (Except Sandbox.Error Unit)) (index : Nat) (error : Sandbox.Error),
    answers.length = before.ledger.deferred.length ∧
    retried.calls = before.calls ++
      (before.ledger.deferred.zip answers).map (fun (stop, answer) => .stop stop.handle answer) ∧
    before.ledger.deferred[index]? = some stop ∧ answers[index]? = some (.error error)

theorem PinnedBy.stopFails {before retried : Bench σ τ} {live : Cpu.Slice} {stop : Cpu.PendingStop}
    (pinned : PinnedBy before retried live stop) : ∃ event ∈ retried.calls, StopFails event := by
  obtain ⟨answers, index, error, _, calls, askedAt, answeredAt⟩ := pinned.failed
  refine ⟨.stop stop.handle (.error error), ?_, stop.handle, error, rfl⟩
  rw [calls]
  refine List.mem_append_right _ (List.mem_map.mpr ⟨(stop, .error error), ?_, rfl⟩)
  exact List.mem_iff_getElem?.mpr ⟨index, List.getElem?_zip_eq_some.mpr ⟨askedAt, answeredAt⟩⟩

/-- What is reserved when a run begins is pinned by stops that failed right before. -/
theorem pinnedBy_of_live {cpus : Nat} {before : Bench σ τ} {live : Cpu.Slice} (host : Host σ)
    (owes : before.Owes) (custody : Custody cpus before [] [])
    (reserved : live ∈ (Slot.retryDeferred host before).2.ledger.live) :
    ∃ stop, PinnedBy before (Slot.retryDeferred host before).2 live stop := by
  have accounts := (custody.retryDeferred host).accounts
  unfold Cpu.Ledger.Accounts at accounts
  rw [List.append_nil] at accounts
  obtain ⟨stop, member, pins⟩ := List.mem_flatMap.mp (accounts.mem_iff.mp reserved)
  obtain ⟨answers, each, calls, deferred⟩ := Slot.retryDeferred_retries host before
  have still := member
  rw [deferred] at still
  obtain ⟨index, error, askedAt, answeredAt⟩ := mem_stillOwed still
  exact ⟨stop, member, pins, (owes stop (List.mem_of_getElem? askedAt)).launched live pins,
    answers, index, error, each, calls, askedAt, answeredAt⟩

theorem overlap_pinned {slot : Slot} {suite : Suite} {before after : Bench σ τ} {outcome : Outcome}
    {slice live : Cpu.Slice} (made : setup.Makes slot suite before after outcome)
    (overlap : outcome.result = .error (.cpu (.overlap slice live))) :
    live.overlaps slice = true ∧
      ∃ stop, PinnedBy before (Slot.retryDeferred setup.host before).2 live stop := by
  cases made with
  | run reached =>
      rename_i build rest files outcomes state
      cases slot with
      | unknown name => cases overlap
      | planned topology position =>
          have refused := ((Pass.perform_reserves setup.collaborators setup.settings
            { build, suite, topology } (plan topology suite.client position).slices
            (Slot.retryDeferred setup.host state.bench).2).1 _).mp overlap
          cases planned : (plan topology suite.client position).slices with
          | error error =>
              rw [planned] at refused
              obtain ⟨reason, rfl⟩ := plan_eq_error planned
              cases refused
          | ok granted =>
              rw [planned] at refused
              obtain ⟨other, _, ⟨_, exceeds⟩ | ⟨taken, reserved, overlaps, same⟩⟩ :=
                Cpu.Ledger.reserveAll_eq_error (plan_spans planned).apart refused
              · cases exceeds
              · cases same
                exact ⟨overlaps, pinnedBy_of_live setup.host reached.owes reached.custody reserved⟩

theorem ledger_of_stopped {worker : Worker σ τ} (reached : setup.Reached worker)
    (stopped : ∀ event ∈ worker.bench.calls, ¬StopFails event) :
    worker.bench.ledger = .ofPool setup.settings.cpuCount := by
  have deferred : worker.bench.ledger.deferred = [] := by
    refine List.eq_nil_iff_forall_not_mem.mpr fun stop member => ?_
    obtain ⟨error, called⟩ := (reached.owes stop member).failed
    exact stopped _ called ⟨stop.handle, error, rfl⟩
  exact reached.custody.ledger_of_settled deferred

theorem Setup.Made.no_overlap {calls : List Event} {outcome : Outcome}
    (made : setup.Made calls outcome) (stopped : ∀ event ∈ calls, ¬StopFails event)
    (slice live : Cpu.Slice) : outcome.result ≠ .error (.cpu (.overlap slice live)) := by
  intro overlap
  obtain ⟨slot, suite, before, after, later, makes, rfl⟩ := made
  obtain ⟨_, stop, pinned⟩ := overlap_pinned makes overlap
  obtain ⟨event, called, fails⟩ := pinned.stopFails
  refine stopped event (List.mem_append_left _ ?_) fails
  cases makes with
  | run reached =>
      rename_i build rest files outcomes state
      cases slot with
      | unknown name => cases overlap
      | planned topology position =>
          obtain ⟨made, performed⟩ := Pass.perform_besides setup.collaborators setup.settings
            { build, suite, topology } (plan topology suite.client position).slices
            (Slot.retryDeferred setup.host state.bench).2
          have calls : (Slot.perform setup.collaborators setup.settings build suite
              (.planned topology position) state.bench).2.calls = _ := performed.calls
          rw [calls]
          exact List.mem_append_left _ called

/-! ### Main result -/

/-- Whenever a run of a coordinator ended with an overlap, the slice that it overlapped belonged to a
sandbox of an earlier run, was pinned by the deferred stop of that sandbox, and the stop failed once
more when it was tried again right before the run. Where no stop ever fails no run ends so, and a run
whose requests can be met fails at its reservation exactly if its last slice goes beyond the pool,
and then for that reason. -/
theorem overlap_unconfirmed (setup : Setup σ τ) :
    (∀ past worker, setup.Chronicle past worker →
      ∀ outcome ∈ worker.stage.outcomes ++ past.flatMap endOutcomes,
        (∀ slice live, outcome.result = .error (.cpu (.overlap slice live)) →
          ∃ slot suite before after later, setup.Makes slot suite before after outcome ∧
            worker.bench.calls = after.calls ++ later ∧ live.overlaps slice = true ∧
            ∃ stop, PinnedBy before (Slot.retryDeferred setup.host before).2 live stop) ∧
        ((∀ event ∈ worker.bench.calls, ¬StopFails event) →
          ∀ slice live, outcome.result ≠ .error (.cpu (.overlap slice live)))) ∧
    (∀ host sink files cursor activities,
      let start := setup.start host sink files cursor
      (∀ event ∈ (setup.life start activities).bench.calls, ¬StopFails event) →
      ∀ outcome ∈ (setup.lifePast start [] activities).flatMap endOutcomes,
        ∀ slice live, outcome.result ≠ .error (.cpu (.overlap slice live))) ∧
    ∀ topology position suite before after outcome granted,
      setup.Makes (.planned topology position) suite before after outcome →
      (∀ event ∈ before.calls, ¬StopFails event) →
      (plan topology suite.client position).slices = .ok granted →
      ((∃ cause, outcome.result = .error (.cpu cause)) ↔
        setup.settings.cpuCount < granted.final.stop) ∧
      ∀ cause, outcome.result = .error (.cpu cause) →
        ∃ slice ∈ granted.inOrder, setup.settings.cpuCount < slice.stop ∧
          cause = .exceedsPool slice setup.settings.cpuCount := by
  refine ⟨?_, ?_, ?_⟩
  · intro past worker chronicle outcome member
    have made := chronicle.made outcome member
    refine ⟨?_, fun stopped => made.no_overlap stopped⟩
    intro slice live overlap
    obtain ⟨slot, suite, before, after, later, makes, calls⟩ := made
    exact ⟨slot, suite, before, after, later, makes, calls, overlap_pinned makes overlap⟩
  · intro host sink files cursor activities start stopped outcome member
    have chronicle : setup.Chronicle _ _ :=
      Setup.Chronicle.lifePast activities (.start host sink files cursor)
    exact (chronicle.made outcome (List.mem_append_right _ member)).no_overlap stopped
  · intro topology position suite before after outcome granted makes stopped planned
    cases makes with
    | run reached =>
        rename_i build rest files outcomes state
        have settled : state.bench.ledger = .ofPool setup.settings.cpuCount :=
          ledger_of_stopped reached stopped
        have untried : (Slot.retryDeferred setup.host state.bench).2 = state.bench := by
          unfold Slot.retryDeferred
          rw [Action.bind_apply, Action.get_apply, settled]
          rfl
        have causes (cause : Cpu.Error) :
            ((Slot.planned topology position).perform setup.collaborators setup.settings build suite
              state.bench).1.result = .error (.cpu cause) ↔
            reservation (.ofPool setup.settings.cpuCount) (.ok granted) = .error cause := by
          have exactly := (Pass.perform_reserves setup.collaborators setup.settings
            { build, suite, topology } (plan topology suite.client position).slices
            (Slot.retryDeferred setup.host state.bench).2).1 cause
          rw [planned, untried, settled] at exactly
          rw [← exactly, ← planned]
          change (Pass.perform _ _ _ _ (Slot.retryDeferred setup.host state.bench).2).1.result = _ ↔ _
          rw [untried]
        have empty : (Cpu.Ledger.ofPool setup.settings.cpuCount).live = [] := rfl
        obtain ⟨exceeds, reasons⟩ := reservation_eq_error_iff empty planned
        constructor
        · exact (exists_congr causes).trans exceeds
        · intro cause failed
          exact reasons cause ((causes cause).mp failed)

theorem next_described {delivery : Delivery} {fields : Fields} {build : Build} {state : State σ τ}
    (unknown : state.finished.contains delivery.id = false) (body : delivery.body = .fields fields)
    (decoded : Build.decode delivery.id fields = .ok build) :
    setup.next ⟨.received delivery, state⟩ = ⟨.described build, state⟩ := by
  change Worker.mk (Setup.meet delivery state).1.2 (Setup.meet delivery state).2 = _
  unfold Setup.meet
  rw [Work.bind_apply, Work.get_apply]
  simp only [unknown, body, decoded]
  rfl

theorem next_surveyed {build : Build} {files : List String} {state : State σ τ}
    (listed : (setup.suiteFiles state.bench).1 = .ok files) :
    setup.next ⟨.described build, state⟩ =
      ⟨.amidFiles build files [], { state with bench := (setup.suiteFiles state.bench).2 }⟩ := by
  change Worker.mk (setup.survey build state).1.2 (setup.survey build state).2 = _
  unfold Setup.survey
  rw [Work.bind_apply, Work.act_apply]
  simp only [listed]
  rfl

theorem next_opened {build : Build} {path : String} {rest : List String} {outcomes : List Outcome}
    {suite : Suite} {state : State σ τ} (loaded : (setup.loadSuite path state.bench).1 = .ok suite) :
    setup.next ⟨.amidFiles build (path :: rest) outcomes, state⟩ =
      ⟨.amidSlots build suite (slots setup.catalog suite) rest outcomes,
        { state with bench := (setup.loadSuite path state.bench).2 }⟩ := by
  change Worker.mk (setup.turnTo build path rest outcomes state).1.2
    (setup.turnTo build path rest outcomes state).2 = _
  unfold Setup.turnTo
  rw [Work.bind_apply, Work.act_apply]
  simp only [loaded]
  rfl

theorem next_ran {build : Build} {suite : Suite} {slot : Slot} {rest : List Slot}
    {files : List String} {outcomes : List Outcome} {state : State σ τ} :
    (setup.next ⟨.amidSlots build suite (slot :: rest) files outcomes, state⟩).bench =
      (slot.perform setup.collaborators setup.settings build suite state.bench).2 :=
  rfl

theorem path_runs {delivery : Delivery} {fields : Fields} {build : Build} {path : String}
    {rest : List String} {suite : Suite} {state : State σ τ}
    (unknown : state.finished.contains delivery.id = false) (body : delivery.body = .fields fields)
    (decoded : Build.decode delivery.id fields = .ok build)
    (listed : (setup.suiteFiles state.bench).1 = .ok (path :: rest))
    (loaded : (setup.loadSuite path (setup.suiteFiles state.bench).2).1 = .ok suite) :
    ∃ bench, setup.Path ⟨.received delivery, state⟩
      ⟨.amidSlots build suite (slots setup.catalog suite) rest [], { state with bench }⟩ ∧
      bench.calls = state.bench.calls := by
  let surveyed : State σ τ := { state with bench := (setup.suiteFiles state.bench).2 }
  have described : setup.Path ⟨.received delivery, state⟩ ⟨.described build, state⟩ :=
    Setup.Path.refl.stepTo (next_described unknown body decoded)
  have opened := (described.stepTo (next_surveyed listed)).stepTo (next_opened loaded)
  have listing := setup.suiteFiles_makes state.bench
  have loading := setup.loadSuite_makes path surveyed.bench
  refine ⟨_, opened, ?_⟩
  rw [loading.calls, List.append_nil]
  exact listing.calls.trans (List.append_nil _)

theorem reached_runs {delivery : Delivery} {fields : Fields} {build : Build} {path : String}
    {rest : List String} {suite : Suite} {state : State σ τ}
    (reached : setup.Reached ⟨.received delivery, state⟩)
    (unknown : state.finished.contains delivery.id = false) (body : delivery.body = .fields fields)
    (decoded : Build.decode delivery.id fields = .ok build)
    (listed : (setup.suiteFiles state.bench).1 = .ok (path :: rest))
    (loaded : (setup.loadSuite path (setup.suiteFiles state.bench).2).1 = .ok suite) :
    ∃ bench, setup.Reached
      ⟨.amidSlots build suite (slots setup.catalog suite) rest [], { state with bench }⟩ ∧
      bench.calls = state.bench.calls := by
  obtain ⟨bench, path, calls⟩ := path_runs unknown body decoded listed loaded
  exact ⟨bench, reached.ofPath path, calls⟩

/-- In a rehearsal without CPUs the first run of the suite fails since the pool is too small. -/
theorem overlap_unconfirmed_rehearsed :
    ∃ before after outcome,
      (Setup.withSuite 0).Makes (.planned Pass.rehearsedJob.topology 0) suiteOfText before after
        outcome ∧
      ∃ cause, outcome.result = .error (.cpu cause) := by
  have accepted : (Setup.withSuite 0).Reached _ :=
    (Setup.Reached.start .start () suiteTree .undelivered).move (.accept suiteDelivery rfl)
  obtain ⟨bench, reached, calls⟩ := reached_runs accepted rfl rfl
    (show Build.decode suiteDelivery.id _ = .ok _ by cbv) suiteTree_listed suiteTree_loaded
  have planned : (plan Pass.rehearsedJob.topology suiteOfText.client 0).slices =
      .ok ⟨Cpu.sliceAt 0 1, none⟩ := by decide
  have stopped : ∀ event ∈ bench.calls, ¬StopFails event := by
    rw [calls]
    intro event member
    cases member
  have makes := Setup.Makes.run reached
  refine ⟨_, _, _, makes, ?_⟩
  exact ((overlap_unconfirmed (Setup.withSuite 0)).2.2 _ 0 _ _ _ _ _ makes stopped planned).1.mpr
    Nat.zero_lt_one

end BuildBench.Coordinator
