import BuildBench.Proofs.Run.Launches

set_option autoImplicit false

/-! A pass in two halves: what comes before the launch of its database, and what comes from it on.
Main statement: a pass launches its database exactly if its preparations succeed, and then once, in
the directory that they left. -/

namespace BuildBench.Run

open BuildBench.Definition BuildBench.Entry BuildBench.Files

variable {σ τ α β : Type}

/-! ### Steps and their calls -/

/-- From whatever bench, only calls of a kind are made. -/
def Step.AddsOnly (kind : Event → Prop) (step : Step σ τ α) : Prop :=
  ∀ scene : Scene σ τ, scene.bench.Adds kind (step scene).2.bench

namespace Step.AddsOnly

variable {kind : Event → Prop}

theorem still {step : Step σ τ α} (stays : ∀ scene, (step scene).2.bench = scene.bench) :
    AddsOnly kind step :=
  fun scene => .nothing (congrArg Bench.calls (stays scene))

theorem pure (value : α) : AddsOnly kind (pure value : Step σ τ α) :=
  still fun _ => rfl

theorem hold (change : Held → Held) : AddsOnly kind (hold change : Step σ τ Unit) :=
  still fun _ => rfl

theorem take {ε : Type} (wording : ε → Error) (answer : Except ε α) :
    AddsOnly kind (take wording answer : Step σ τ α) := by
  cases answer <;> exact still fun _ => rfl

theorem take_bind {ε : Type} {wording : ε → Error} {answer : Except ε α} {next : α → Step σ τ β}
    (rest : ∀ value, answer = .ok value → AddsOnly kind (next value)) :
    AddsOnly kind (Step.take wording answer >>= next) := by
  cases answer with
  | ok value => exact fun scene => rest value rfl scene
  | error error => exact still fun _ => rfl

theorem act {action : Action σ τ α} (adds : ∀ bench : Bench σ τ, bench.Adds kind (action bench).2) :
    AddsOnly kind (act action) :=
  fun scene => adds scene.bench

theorem quiet {action : Action σ τ α} (makes : ∀ bench, Action.Makes action bench []) :
    AddsOnly kind (Step.act action) :=
  act fun bench => .nothing ((makes bench).calls.trans (List.append_nil _))

theorem bind {step : Step σ τ α} {next : α → Step σ τ β} (first : AddsOnly kind step)
    (rest : ∀ value, AddsOnly kind (next value)) : AddsOnly kind (step >>= next) := by
  intro scene
  have adds := first scene
  rw [bind_apply]
  cases ended : step scene with
  | mk result after =>
      rw [ended] at adds
      cases result with
      | ok value => exact adds.trans (rest value after)
      | error error => exact adds

theorem weaken {wider : Event → Prop} {step : Step σ τ α} (adds : AddsOnly kind step)
    (fits : ∀ event, kind event → wider event) : AddsOnly wider step :=
  fun scene => (adds scene).weaken fits

end Step.AddsOnly

/-! ### The two halves -/

def Event.startsDatabase : Event → Bool
  | .launchDatabase _ _ _ => true
  | _ => false

namespace Pass

/-- The steps of a pass before its first sandbox. -/
def prepare (host : Host σ) (pass : Pass) (slices : Except Cpu.Error Slices) :
    Step σ τ (Slices × Tool × String) := do
  let slices ← Step.take .cpu slices
  reserveSlices slices
  let tool ← Step.take id (chooseTool pass.job.suite.client)
  let directory ← makeDirectory host pass
  placeArtifacts host pass directory
  return (slices, tool, directory)

/-- The steps of a pass after the launch of its database, which was answered. -/
def measure (host : Host σ) (pass : Pass) (slices : Slices) (tool : Tool) (directory : String)
    (answer : Except Sandbox.Error Sandbox.Handle) : Step σ τ Report := do
  let handle ← Step.take (.sandbox .database) answer
  Step.hold fun held => { held with database := some handle }
  let layout := pass.settings.layout
  Step.take .probe (← Step.act (Action.awaitReady host layout.host layout.port))
  let spec ← Step.take id (clientSpec pass tool directory slices.client)
  let output ← launchClient host pass spec
  let results ← collectResults host tool (joinPath directory pass.outputFile) output.stdout
  return {
    databaseSlice := slices.database
    clientSlice := slices.client
    duration := output.duration
    results
    outputFile := pass.outputFile }

theorem carryOut_eq (host : Host σ) (pass : Pass) (slices : Except Cpu.Error Slices) :
    (carryOut host pass slices : Step σ τ Report) =
      prepare host pass slices >>= fun (slices, tool, directory) =>
        Step.act (Action.launchDatabase host (databaseSpec pass directory slices.database)) >>=
          measure host pass slices tool directory := by
  unfold carryOut prepare launchDatabase measure
  simp only [bind_assoc, pure_bind]

theorem prepare_adds (host : Host σ) (pass : Pass)
    (slices : Except Cpu.Error Slices) :
    Step.AddsOnly (fun _ => False) (prepare host pass slices : Step σ τ _) := by
  have reserves (slice : Cpu.Slice) :
      Step.AddsOnly (fun _ => False) (Step.act (Action.reserve slice) : Step σ τ _) := by
    refine .act fun bench => .nothing ?_
    cases reserved : bench.ledger.reserve slice with
    | error error => rw [Action.reserve_error reserved]
    | ok ledger =>
        rw [Action.reserve_ok reserved]
        rfl
  have takes (granted : Slices) :
      Step.AddsOnly (fun _ => False) (reserveSlices granted : Step σ τ _) := by
    refine .bind (reserves _) fun _ => .bind (.take _ _) fun _ => .bind (.hold _) fun _ => ?_
    cases granted.client with
    | none => exact .pure _
    | some slice => exact .bind (reserves slice) fun _ => .bind (.take _ _) fun _ => .hold _
  have makes : Step.AddsOnly (fun _ => False) (makeDirectory host pass : Step σ τ _) :=
    .bind (.quiet fun bench => Action.onHost_makes _ bench) fun _ =>
      .bind (.quiet fun bench => Action.change_makes host bench _ _) fun _ =>
        .bind (.take _ _) fun _ => .bind (.hold _) fun _ => .pure _
  have places (directory : String) :
      Step.AddsOnly (fun _ => False) (placeArtifacts host pass directory : Step σ τ _) := by
    refine .bind (.quiet fun bench => Action.putInPlace_makes host bench _ _ _) fun _ =>
      .bind (.take _ _) fun placed => ?_
    dsimp only
    split
    · exact .pure _
    · exact .still fun _ => rfl
  exact .bind (.take _ _) fun granted => .bind (takes granted) fun _ => .bind (.take _ _) fun _ =>
    .bind makes fun directory => .bind (places directory) fun _ => .pure _

/-- After the launch of the database a pass asks whether it is ready, runs a client on it, and shuts
it down. -/
theorem measure_calls {kind : Event → Prop} (host : Host σ) (pass : Pass) (slices : Slices)
    (tool : Tool) (directory : String) (answer : Except Sandbox.Error Sandbox.Handle)
    (asks : ∀ answer,
      kind (.awaitReady pass.settings.layout.host pass.settings.layout.port answer))
    (runs : ∀ spec, clientSpec pass tool directory slices.client = .ok spec →
      ∀ files answer, kind (.launchClient spec files answer))
    (shuts : ∀ answer,
      kind (.shutdown pass.settings.layout.host pass.settings.layout.port answer)) :
    Step.AddsOnly kind (measure host pass slices tool directory answer : Step σ τ Report) := by
  have awaits : Step.AddsOnly kind (Step.act (Action.awaitReady host pass.settings.layout.host
      pass.settings.layout.port) : Step σ τ _) :=
    .act fun bench => .single (Action.awaitReady_makes host bench _ _).calls (asks _)
  have launches {spec : Sandbox.Spec}
      (prepared : clientSpec pass tool directory slices.client = .ok spec) :
      Step.AddsOnly kind (launchClient host pass spec : Step σ τ _) := by
    have told (output : Sandbox.ClientRun) : Step.AddsOnly kind (do
          Step.act (Action.shutdown host pass.settings.layout.host pass.settings.layout.port)
          return output : Step σ τ Sandbox.ClientRun) := by
      refine .bind (.act fun bench => ?_) fun _ => .pure _
      obtain ⟨answer, shut⟩ := Action.shutdown_makes host bench pass.settings.layout.host
        pass.settings.layout.port
      exact .single shut.calls (shuts answer)
    refine .bind (.act fun bench => ?_) fun answer => .bind (.hold _) fun _ =>
      .bind (.take _ _) fun output => ?_
    · exact .single (Action.launchClient_makes host bench spec).calls (runs spec prepared _ _)
    · dsimp only
      split
      · exact .bind (.quiet fun bench => Action.report_makes _ bench) fun _ => told output
      · exact told output
  have collects (path stdout : String) : Step.AddsOnly kind
      (collectResults host tool path stdout : Step σ τ _) := by
    refine .bind (.quiet fun bench => ?_) fun _ => .bind (.take _ _) fun _ =>
      .bind (.quiet fun bench => ?_) fun _ => .take _ _
    · exact Action.storeResults_makes host bench tool path stdout
    · exact Action.inspect_makes host bench _ _ _
  exact .bind (.take _ _) fun handle => .bind (.hold _) fun _ => .bind awaits fun _ =>
    .bind (.take _ _) fun _ => .take_bind fun spec prepared => .bind (launches prepared)
      fun output => .bind (collects _ _) fun _ => .pure _

theorem measure_adds (host : Host σ) (pass : Pass) (slices : Slices) (tool : Tool)
    (directory : String) (answer : Except Sandbox.Error Sandbox.Handle) :
    Step.AddsOnly (fun event => event.startsDatabase = false)
      (measure host pass slices tool directory answer : Step σ τ Report) :=
  measure_calls host pass slices tool directory answer (fun _ => rfl) (fun _ _ _ _ => rfl)
    fun _ => rfl

/-- The calls that a pass can make. -/
inductive CanMake (pass : Pass) : Event → Prop
  | launchDatabase (directory : String) (slice : Cpu.Slice) (files : Tree)
      (answer : Except Sandbox.Error Sandbox.Handle) :
      CanMake pass (.launchDatabase (databaseSpec pass directory slice) files answer)
  | awaitReady (answer : Except ProbeError Unit) :
      CanMake pass (.awaitReady pass.settings.layout.host pass.settings.layout.port answer)
  | launchClient {tool : Tool} {directory : String} {slice : Option Cpu.Slice}
      {spec : Sandbox.Spec} (prepared : clientSpec pass tool directory slice = .ok spec)
      (files : Tree) (answer : Except Sandbox.Error Sandbox.ClientRun) :
      CanMake pass (.launchClient spec files answer)
  | shutdown (answer : Except ProbeError Unit) :
      CanMake pass (.shutdown pass.settings.layout.host pass.settings.layout.port answer)
  | stop (handle : Sandbox.Handle) (answer : Except Sandbox.Error Unit) :
      CanMake pass (.stop handle answer)
  | push (outcome : Outcome) (answer : Except MetricsError Unit) :
      CanMake pass (.push (pass.summary outcome) answer)

theorem perform_canMake (collaborators : Collaborators σ τ) (settings : Settings) (job : Job)
    (slices : Except Cpu.Error Slices) (bench : Bench σ τ) :
    bench.Adds (opening collaborators.host settings job bench).1.CanMake
      (perform collaborators settings job slices bench).2 := by
  let pass := (opening collaborators.host settings job bench).1
  have prepares : Step.AddsOnly pass.CanMake
      (prepare collaborators.host pass slices : Step σ τ _) :=
    (prepare_adds collaborators.host pass slices).weaken fun _ => False.elim
  have launches (directory : String) (slice : Cpu.Slice) : Step.AddsOnly pass.CanMake (Step.act
      (Action.launchDatabase collaborators.host (databaseSpec pass directory slice)) :
        Step σ τ _) :=
    .act fun bench => .single (Action.launchDatabase_makes collaborators.host bench _).calls
      (.launchDatabase directory slice _ _)
  have carries : Step.AddsOnly pass.CanMake
      (carryOut collaborators.host pass slices : Step σ τ Report) := by
    rw [carryOut_eq]
    refine prepares.bind fun (granted, tool, directory) => ?_
    refine (launches directory granted.database).bind fun answer => ?_
    apply measure_calls
    · exact .awaitReady
    · exact fun spec => .launchClient
    · exact .shutdown
  have opened : bench.Adds pass.CanMake (opening collaborators.host settings job bench).2 :=
    .nothing ((opening_makes collaborators.host settings job bench).calls.trans
      (List.append_nil _))
  exact (opened.trans (carries _)).trans
    (perform_ends collaborators settings job slices bench .stop .push)

/-! ### The launch -/

section Launch

variable (collaborators : Collaborators σ τ) (settings : Settings) (job : Job)
  (slices : Except Cpu.Error Slices) (bench : Bench σ τ)

/-- The preparations of a pass, with how they end and what they leave. -/
def prepared : Except Error (Slices × Tool × String) × Scene σ τ :=
  prepare collaborators.host (opening collaborators.host settings job bench).1 slices
    { bench := (opening collaborators.host settings job bench).2, held := .nothing }

theorem prepared_calls :
    (prepared collaborators settings job slices bench).2.bench.calls = bench.calls := by
  have opened := opening_makes collaborators.host settings job bench
  have added := prepare_adds collaborators.host
    (opening collaborators.host settings job bench).1 slices
    { bench := (opening collaborators.host settings job bench).2, held := .nothing }
  exact added.calls_eq.trans (opened.calls.trans (List.append_nil _))

variable {collaborators settings job slices bench}

/-- A pass whose preparations fail launches nothing. -/
theorem perform_unprepared {error : Error}
    (failed : (prepared collaborators settings job slices bench).1 = .error error) :
    bench.Adds (fun event => event.isLaunch = false)
      (perform collaborators settings job slices bench).2 := by
  have closes := perform_closes collaborators settings job slices bench
  have calls := prepared_calls collaborators settings job slices bench
  unfold prepared at failed calls
  rw [carryOut_eq, Step.bind_apply] at closes
  cases ended : prepare collaborators.host (opening collaborators.host settings job bench).1 slices
      { bench := (opening collaborators.host settings job bench).2, held := .nothing } with
  | mk result after =>
      rw [ended] at failed calls closes
      obtain rfl : result = .error error := failed
      exact Bench.Adds.trans (.nothing calls) closes

/-- A pass whose preparations succeed launches its database, and then none any more. -/
theorem perform_prepared {granted : Slices} {tool : Tool} {directory : String}
    (done : (prepared collaborators settings job slices bench).1 = .ok (granted, tool, directory)) :
    let spec := (opening collaborators.host settings job bench).1.databaseSpec directory
      granted.database
    let ready := (prepared collaborators settings job slices bench).2.bench
    ∃ made,
      (perform collaborators settings job slices bench).2.calls = bench.calls ++
        .launchDatabase spec ready.files (Action.launchDatabase collaborators.host spec ready).1 ::
          made ∧
      ∀ event ∈ made, event.startsDatabase = false := by
  have closes := perform_closes collaborators settings job slices bench
  have calls := prepared_calls collaborators settings job slices bench
  unfold prepared at done calls ⊢
  rw [carryOut_eq, Step.bind_apply] at closes
  cases ended : prepare collaborators.host (opening collaborators.host settings job bench).1 slices
      { bench := (opening collaborators.host settings job bench).2, held := .nothing } with
  | mk result after =>
      rw [ended] at done calls closes
      obtain rfl : result = .ok (granted, tool, directory) := done
      intro spec ready
      -- What follows the launch starts no database, whether the launch succeeded or not.
      have launched := Action.launchDatabase_makes collaborators.host ready spec
      have measured := measure_adds collaborators.host
        (opening collaborators.host settings job bench).1 granted tool directory
        (Action.launchDatabase collaborators.host spec ready).1
        { after with bench := (Action.launchDatabase collaborators.host spec ready).2 }
      have quiet (event : Event) (silent : event.isLaunch = false) :
          event.startsDatabase = false := by
        cases event <;> first | rfl | cases silent
      obtain ⟨made, further, others⟩ := measured.trans (closes.weaken quiet)
      refine ⟨made, ?_, others⟩
      rw [further, launched.calls, calls, List.append_assoc]
      rfl

end Launch

end Pass

end BuildBench.Run
