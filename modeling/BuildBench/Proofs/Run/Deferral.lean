import BuildBench.Proofs.Run.Ending

set_option autoImplicit false

/-! Why stops are deferred, and what becomes of them. Main statements: a deferred stop failed before,
and each of its slices is one on which its sandbox was launched; and when deferred stops are tried
again, each of them is called for once, and exactly those that fail stay deferred. -/

namespace BuildBench.Run

open BuildBench.Definition BuildBench.Entry BuildBench.Files

variable {σ τ : Type}

/-! ### Why stops are deferred -/

/-- An event launches a sandbox on a slice. Afterwards it is stopped under the handle. -/
inductive LaunchedOn (slice : Cpu.Slice) : Sandbox.Handle → Event → Prop
  | database {spec : Sandbox.Spec} {files : Tree} {handle : Sandbox.Handle}
      (cpus : spec.cpus = some slice) :
      LaunchedOn slice handle (.launchDatabase spec files (.ok handle))
  | client {spec : Sandbox.Spec} {files : Tree} {answer : Except Sandbox.Error Sandbox.ClientRun}
      (cpus : spec.cpus = some slice) :
      LaunchedOn slice .completed (.launchClient spec files answer)

/-- A stop failed, and its sandbox was launched on each of its slices. -/
structure Owed (events : List Event) (stop : Cpu.PendingStop) : Prop where
  failed : ∃ error, .stop stop.handle (.error error) ∈ events
  launched : ∀ slice ∈ stop.slices, ∃ event ∈ events, LaunchedOn slice stop.handle event

theorem Owed.more {events : List Event} {stop : Cpu.PendingStop} (owed : Owed events stop)
    (later : List Event) : Owed (events ++ later) stop where
  failed := by
    obtain ⟨error, member⟩ := owed.failed
    exact ⟨error, List.mem_append_left _ member⟩
  launched := by
    intro slice holds
    obtain ⟨event, member, launched⟩ := owed.launched slice holds
    exact ⟨event, List.mem_append_left _ member, launched⟩

def Bench.Owes (bench : Bench σ τ) : Prop :=
  ∀ stop ∈ bench.ledger.deferred, Owed bench.calls stop

namespace Bench.Owes

variable {bench after : Bench σ τ}

theorem start (host : σ) (sink : τ) (files : Tree) (cpus : Nat) :
    (Bench.start host sink files cpus).Owes := by
  intro stop member
  cases member

theorem more {made : List Event} (owes : bench.Owes) (calls : after.calls = bench.calls ++ made)
    (deferred : after.ledger.deferred = bench.ledger.deferred) : after.Owes := by
  intro stop member
  rw [deferred] at member
  rw [calls]
  exact (owes stop member).more made

theorem stops {action : Action σ τ Unit} {handle : Option Sandbox.Handle}
    {slices : List Cpu.Slice} {answer : Except Sandbox.Error Unit} (owes : bench.Owes)
    (stops : action.Stops bench handle slices answer)
    (launched : ∀ given, handle = some given →
      ∀ slice ∈ slices, ∃ event ∈ bench.calls, LaunchedOn slice given event) :
    (action bench).2.Owes := by
  have released (ledger : (action bench).2.ledger = bench.ledger.releaseAll slices) :
      (action bench).2.Owes :=
    owes.more stops.calls (by rw [ledger, Cpu.Ledger.releaseAll_deferred])
  cases handle with
  | none => exact released stops.ledger
  | some handle =>
      cases answer with
      | ok value => exact released stops.ledger
      | error error =>
          have ledger : (action bench).2.ledger = bench.ledger.defer handle slices := stops.ledger
          intro stop member
          rw [ledger] at member
          rw [stops.calls]
          rcases List.mem_append.mp member with earlier | own
          · exact (owes stop earlier).more _
          · rw [List.mem_singleton.mp own]
            refine ⟨⟨error, List.mem_append_right _ List.mem_cons_self⟩, ?_⟩
            intro slice holds
            obtain ⟨event, present, on⟩ := launched handle rfl slice holds
            exact ⟨event, List.mem_append_left _ present, on⟩

theorem retryAll (host : Host σ) (stops : List Cpu.PendingStop) (owes : bench.Owes)
    (owed : ∀ stop ∈ stops, Owed bench.calls stop) : (Action.retryAll host stops bench).2.Owes := by
  induction stops generalizing bench with
  | nil => exact owes
  | cons stop rest ih =>
      have retried := Action.retryStop_stops host stop bench
      refine ih (owes.stops retried ?_) ?_
      · rintro given same
        rw [← Option.some.inj same]
        exact (owed stop List.mem_cons_self).launched
      · intro other member
        have later := (owed other (List.mem_cons_of_mem _ member)).more
          (stopCalls (some stop.handle) (Action.stop host stop.handle bench).1)
        rw [← retried.calls] at later
        exact later

theorem retryDeferred (host : Host σ) (owes : bench.Owes) :
    (Slot.retryDeferred host bench).2.Owes := by
  unfold Slot.retryDeferred
  rw [Action.bind_apply, Action.get_apply]
  cases bench.ledger.awaitsStops with
  | true =>
      have emptied : { bench with ledger := bench.ledger.withoutDeferred }.Owes := by
        intro stop member
        cases member
      exact emptied.retryAll host bench.ledger.deferred owes
  | false => exact owes

end Bench.Owes

namespace Course

variable {course : Course} (layout : Layout)

theorem database_mem_calls {database : Started} (started : course.database? = some database) :
    database.call ∈ course.calls layout := by
  cases course <;> cases started <;> exact List.mem_cons_self

theorem client_mem_calls {spec : Sandbox.Spec} (asked : course.clientSpec? = some spec) :
    ∃ files answer, .launchClient spec files answer ∈ course.calls layout := by
  cases course with
  | clientFailed database other files error =>
      cases asked
      exact ⟨files, .error error, by simp [calls]⟩
  | measured database other files output answer =>
      cases asked
      exact ⟨files, .ok output, by simp [calls]⟩
  | _ => cases asked

end Course

namespace Pass

theorem Stands.giveBack_owes {pass : Pass} {course : Course} {before : Bench σ τ}
    {scene : Scene σ τ} (host : Host σ) (stands : pass.Stands before course scene)
    (owes : before.Owes) : (giveBack host scene.held scene.bench).2.Owes := by
  obtain ⟨databaseStop, database⟩ :=
    settle_stops host scene.held.database scene.held.databaseSlice scene.bench
  obtain ⟨clientStop, client⟩ := settle_stops host scene.held.client scene.held.clientSlice
    (settle host scene.held.database scene.held.databaseSlice scene.bench).2
  have removed := removeDirectory_makes host scene.held.directory
    (settle host scene.held.client scene.held.clientSlice
      (settle host scene.held.database scene.held.databaseSlice scene.bench).2).2
  have stood : scene.bench.Owes := owes.more stands.calls stands.ledger.deferred
  refine Bench.Owes.more ((stood.stops database ?_).stops client ?_) removed.calls
    (congrArg Cpu.Ledger.deferred removed.ledger)
  · intro given same slice member
    rw [stands.database] at same
    obtain ⟨started, startedAt, rfl⟩ := Option.map_eq_some_iff.mp same
    refine ⟨started.call, ?_, .database ?_⟩
    · rw [stands.calls]
      exact List.mem_append_right _ (Course.database_mem_calls _ startedAt)
    · rw [stands.databaseCpus started.spec (course.databaseSpec_of_database startedAt)]
      exact Option.mem_toList.mp member
  · intro given same slice member
    rw [stands.client] at same
    obtain ⟨spec, asked, rfl⟩ := Option.map_eq_some_iff.mp same
    obtain ⟨files, answer, called⟩ := Course.client_mem_calls pass.settings.layout asked
    refine ⟨.launchClient spec files answer, ?_, .client ?_⟩
    · rw [database.calls, stands.calls]
      exact List.mem_append_left _ (List.mem_append_right _ called)
    · rw [stands.clientCpus spec asked]
      exact Option.mem_toList.mp member

theorem perform_owes (collaborators : Collaborators σ τ) (settings : Settings) (job : Job)
    (slices : Except Cpu.Error Slices) {bench : Bench σ τ} (owes : bench.Owes) :
    (perform collaborators settings job slices bench).2.Owes := by
  have opening := opening_makes collaborators.host settings job bench
  have opened := owes.more opening.calls (congrArg Cpu.Ledger.deferred opening.ledger)
  rw [perform_eq, Action.bind_apply, Action.bind_apply]
  generalize (Pass.opening collaborators.host settings job bench).1 = pass
  obtain ⟨course, stands, _⟩ := carryOut_course collaborators.host pass slices
    (Pass.opening collaborators.host settings job bench).2
  obtain ⟨pushed, closing⟩ := closing_makes collaborators pass _
    (pass.runToEnd collaborators.host slices
      (Pass.opening collaborators.host settings job bench).2).2
  exact (stands.giveBack_owes collaborators.host opened).more closing.calls
    (congrArg Cpu.Ledger.deferred closing.ledger)

end Pass

theorem Slot.perform_owes (collaborators : Collaborators σ τ) (settings : Settings) (build : Build)
    (suite : Suite) (slot : Slot) {bench : Bench σ τ} (owes : bench.Owes) :
    (slot.perform collaborators settings build suite bench).2.Owes := by
  cases slot with
  | unknown name =>
      have reported := Action.report_makes .topologyUnknown bench
      exact owes.more reported.calls (congrArg Cpu.Ledger.deferred reported.ledger)
  | planned topology position =>
      exact Pass.perform_owes collaborators settings _ _ (owes.retryDeferred collaborators.host)

/-! ### Trying again -/

def stillOwed? : Cpu.PendingStop × Except Sandbox.Error Unit → Option Cpu.PendingStop
  | (stop, .error _) => some stop
  | (_, .ok _) => none

/-- What goes back to the pool when a stop is answered. -/
def freed : Cpu.PendingStop × Except Sandbox.Error Unit → List Cpu.Slice
  | (stop, .ok _) => stop.slices
  | (_, .error _) => []

/-- The ledger when stops were answered one after the other. -/
def afterAnswers (ledger : Cpu.Ledger)
    (answered : List (Cpu.PendingStop × Except Sandbox.Error Unit)) : Cpu.Ledger :=
  answered.foldl
    (fun ledger (stop, answer) => ledger.afterStop (some stop.handle) stop.slices answer) ledger

/-- Releasing and deferring do not touch each other, so it does not matter in which order they
come. -/
theorem afterAnswers_eq (ledger : Cpu.Ledger)
    (answered : List (Cpu.PendingStop × Except Sandbox.Error Unit)) :
    afterAnswers ledger answered =
      { ledger.releaseAll (answered.flatMap freed) with
        deferred := ledger.deferred ++ answered.filterMap stillOwed? } := by
  induction answered generalizing ledger with
  | nil => simp [afterAnswers, Cpu.Ledger.releaseAll]
  | cons asked rest ih =>
      obtain ⟨stop, answer⟩ := asked
      have later := ih (ledger.afterStop (some stop.handle) stop.slices answer)
      rw [afterAnswers] at later
      rw [afterAnswers, List.foldl_cons, later, Cpu.Ledger.afterStop_deferred]
      cases answer with
      | ok value =>
          have released : (ledger.releaseAll stop.slices).releaseAll (rest.flatMap freed) =
              ledger.releaseAll (stop.slices ++ rest.flatMap freed) := List.foldl_append.symm
          simp [Cpu.Ledger.afterStop, Cpu.unconfirmed, freed, List.filterMap_cons, stillOwed?,
            released]
      | error error =>
          have apart : (ledger.defer stop.handle stop.slices).releaseAll (rest.flatMap freed) =
              { ledger.releaseAll (rest.flatMap freed) with
                deferred := (ledger.defer stop.handle stop.slices).deferred } :=
            Cpu.Ledger.releaseAll_withDeferred _ _ _
          simp [Cpu.Ledger.afterStop, Cpu.unconfirmed, freed, stillOwed?, apart]

/-- What a host answers when it is asked to stop sandboxes one after the other. -/
def Host.stopAll (host : Host σ) :
    List Cpu.PendingStop → StateM σ (List (Except Sandbox.Error Unit))
  | [] => return []
  | stop :: rest => do
      let answer ← host.stop stop.handle
      return answer :: (← host.stopAll rest)

/-- Stops were called for in order and answered, and the ledger is what the answers make of it. -/
structure Bench.Retries (before after : Bench σ τ) (stops : List Cpu.PendingStop)
    (answers : List (Except Sandbox.Error Unit)) : Prop where
  each : answers.length = stops.length
  calls : after.calls = before.calls ++
    (stops.zip answers).map fun (stop, answer) => .stop stop.handle answer
  ledger : after.ledger = afterAnswers before.ledger (stops.zip answers)

theorem Bench.Retries.deferred {before after : Bench σ τ} {stops : List Cpu.PendingStop}
    {answers : List (Except Sandbox.Error Unit)} (retries : before.Retries after stops answers) :
    after.ledger.deferred = before.ledger.deferred ++ (stops.zip answers).filterMap stillOwed? := by
  rw [retries.ledger, afterAnswers_eq]

theorem Bench.Retries.cons {first middle last : Bench σ τ} {stop : Cpu.PendingStop}
    {stops : List Cpu.PendingStop} {answer : Except Sandbox.Error Unit}
    {answers : List (Except Sandbox.Error Unit)}
    (calls : middle.calls = first.calls ++ [.stop stop.handle answer])
    (ledger : middle.ledger = first.ledger.afterStop (some stop.handle) stop.slices answer)
    (after : middle.Retries last stops answers) :
    first.Retries last (stop :: stops) (answer :: answers) where
  each := congrArg Nat.succ after.each
  calls := by
    rw [after.calls, calls, List.append_assoc]
    rfl
  ledger := by
    rw [after.ledger, ledger]
    rfl

/-- The host is asked for these stops and for nothing else. -/
theorem Action.retryStop_host (host : Host σ) (stop : Cpu.PendingStop) (bench : Bench σ τ) :
    (retryStop host stop bench).2.host = (host.stop stop.handle bench.host).2 := by
  have asked : (Action.stop host stop.handle bench).2.host =
      (host.stop stop.handle bench.host).2 := rfl
  rw [← asked, retryStop, bind_apply]
  cases (Action.stop host stop.handle bench).1 <;> rfl

theorem Action.retryAll_retries (host : Host σ) (stops : List Cpu.PendingStop) (bench : Bench σ τ) :
    bench.Retries (retryAll host stops bench).2 stops (host.stopAll stops bench.host).1 ∧
      (retryAll host stops bench).2.host = (host.stopAll stops bench.host).2 := by
  induction stops generalizing bench with
  | nil => exact ⟨⟨rfl, (List.append_nil _).symm, rfl⟩, rfl⟩
  | cons stop rest ih =>
      have stopped := retryStop_stops host stop bench
      obtain ⟨retries, ends⟩ := ih (retryStop host stop bench).2
      rw [retryStop_host] at retries ends
      exact ⟨.cons stopped.calls stopped.ledger retries, ends⟩

/-- Before a pass each deferred stop is called for once, and those that fail stay deferred. -/
theorem Slot.retryDeferred_retries (host : Host σ) (bench : Bench σ τ) :
    ∃ answers : List (Except Sandbox.Error Unit),
      answers.length = bench.ledger.deferred.length ∧
      (Slot.retryDeferred host bench).2.calls = bench.calls ++
        (bench.ledger.deferred.zip answers).map (fun (stop, answer) => .stop stop.handle answer) ∧
      (Slot.retryDeferred host bench).2.ledger.deferred =
        (bench.ledger.deferred.zip answers).filterMap stillOwed? := by
  unfold Slot.retryDeferred
  rw [Action.bind_apply, Action.get_apply]
  cases awaits : bench.ledger.awaitsStops with
  | true =>
      obtain ⟨retries, -⟩ := Action.retryAll_retries host bench.ledger.deferred
        { bench with ledger := bench.ledger.withoutDeferred }
      exact ⟨_, retries.each, retries.calls, retries.deferred⟩
  | false =>
      have none : bench.ledger.deferred = [] := by
        unfold Cpu.Ledger.awaitsStops at awaits
        rwa [Bool.not_eq_false', List.isEmpty_iff] at awaits
      refine ⟨[], congrArg List.length none.symm, ?_, ?_⟩
      · rw [none]
        exact (List.append_nil _).symm
      · rw [none]
        exact none

theorem mem_stillOwed {stops : List Cpu.PendingStop} {answers : List (Except Sandbox.Error Unit)}
    {stop : Cpu.PendingStop} (member : stop ∈ (stops.zip answers).filterMap stillOwed?) :
    ∃ (index : Nat) (error : Sandbox.Error),
      stops[index]? = some stop ∧ answers[index]? = some (.error error) := by
  obtain ⟨⟨asked, answer⟩, present, still⟩ := List.mem_filterMap.mp member
  obtain ⟨index, at_⟩ := List.mem_iff_getElem?.mp present
  obtain ⟨askedAt, answeredAt⟩ := List.getElem?_zip_eq_some.mp at_
  cases answer with
  | ok value => cases still
  | error error =>
      cases still
      exact ⟨index, error, askedAt, answeredAt⟩

/-- Where no stop was deferred, the run of a slot is a pass and nothing else. -/
theorem Slot.perform_settled (collaborators : Collaborators σ τ) (settings : Settings)
    (build : Build) (suite : Suite) (topology : Topology) (position : Nat) {bench : Bench σ τ}
    (settled : bench.ledger.deferred = []) :
    (planned topology position).perform collaborators settings build suite bench =
      Pass.perform collaborators settings { build, suite, topology }
        (plan topology suite.client position).slices bench := by
  have untried : (retryDeferred collaborators.host bench).2 = bench := by
    unfold retryDeferred
    rw [Action.bind_apply, Action.get_apply, Cpu.Ledger.awaitsStops, settled]
    rfl
  have retries : (planned topology position).perform collaborators settings build suite bench =
      Pass.perform collaborators settings { build, suite, topology }
        (plan topology suite.client position).slices
        (retryDeferred collaborators.host bench).2 := rfl
  rw [retries, untried]

end BuildBench.Run
