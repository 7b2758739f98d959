import BuildBench.Proofs.Run.Ending

set_option autoImplicit false

/-! Two benches side by side with the same host, the same files and the same ledger. What a pass does
rests on these alone. Main statements: actions that ask the same host give the same value on both
benches, change both in the same way and enter the same events; and so do the steps of a pass. -/

namespace BuildBench.Run

open BuildBench.Definition BuildBench.Entry BuildBench.Files

variable {σ τ υ α β : Type}

/-- A way for two journals to be alike. It is kept when the same event is entered in both. -/
structure Likeness where
  Journals : List Event → List Event → Prop
  enter {journal other : List Event} (alike : Journals journal other) (event : Event) :
    Journals (journal ++ [event]) (other ++ [event])

/-- The host, but stops are answered in another way, and so are requests to shut down, although
they have the effect that they had. -/
def Host.answering (host : Host σ) (stop : Sandbox.Handle → StateM σ (Except Sandbox.Error Unit))
    (shutdown : String → Nat → σ → Except ProbeError Unit) : Host σ :=
  { host with
    stop
    shutdown := fun address port state =>
      (shutdown address port state, (host.shutdown address port state).2) }

namespace Likeness

structure Holds (likeness : Likeness) (bench : Bench σ τ) (other : Bench σ υ) : Prop where
  host : bench.host = other.host
  files : bench.files = other.files
  ledger : bench.ledger = other.ledger
  journals : likeness.Journals bench.journal other.journal

/-- On benches that are alike, two actions give the same value and leave benches that are alike. -/
def Agree (likeness : Likeness) (left : Action σ τ α) (right : Action σ υ α) : Prop :=
  ∀ bench other, likeness.Holds bench other →
    (left bench).1 = (right other).1 ∧ likeness.Holds (left bench).2 (right other).2

variable {likeness : Likeness}

namespace Agree

theorem pure (value : α) :
    likeness.Agree (Pure.pure value : Action σ τ α) (Pure.pure value : Action σ υ α) :=
  fun _ _ alike => ⟨rfl, alike⟩

theorem bind {left : Action σ τ α} {right : Action σ υ α} {next : α → Action σ τ β}
    {rest : α → Action σ υ β} (first : likeness.Agree left right)
    (later : ∀ value, likeness.Agree (next value) (rest value)) :
    likeness.Agree (left >>= next) (right >>= rest) := by
  intro bench other alike
  obtain ⟨same, after⟩ := first bench other alike
  rw [Action.bind_apply, Action.bind_apply, same]
  exact later _ _ _ after

theorem get_bind {next : Bench σ τ → Action σ τ β} {rest : Bench σ υ → Action σ υ β}
    (later : ∀ bench other, likeness.Holds bench other →
      likeness.Agree (next bench) (rest other)) :
    likeness.Agree (get >>= next) (get >>= rest) :=
  fun bench other alike => later bench other alike bench other alike

theorem enter (event : Event) :
    likeness.Agree (Action.enter event : Action σ τ Unit) (Action.enter event : Action σ υ Unit) :=
  fun _ _ alike => ⟨rfl, alike.host, alike.files, alike.ledger, likeness.enter alike.journals event⟩

theorem report (notice : Notice) :
    likeness.Agree (Action.report notice : Action σ τ Unit)
      (Action.report notice : Action σ υ Unit) :=
  enter (.notice notice)

theorem onHost (step : StateM σ α) :
    likeness.Agree (Action.onHost step : Action σ τ α) (Action.onHost step : Action σ υ α) := by
  intro bench other alike
  have same : step bench.host = step other.host := congrArg step alike.host
  exact ⟨congrArg (·.1) same, congrArg (·.2) same, alike.files, alike.ledger, alike.journals⟩

theorem onHostFiles (step : StateM (σ × Tree) α) :
    likeness.Agree (Action.onHostFiles step : Action σ τ α)
      (Action.onHostFiles step : Action σ υ α) := by
  intro bench other alike
  have same : step (bench.host, bench.files) = step (other.host, other.files) := by
    rw [alike.host, alike.files]
  exact ⟨congrArg (·.1) same, congrArg (·.2.1) same, congrArg (·.2.2) same, alike.ledger,
    alike.journals⟩

theorem onFiles (step : StateM Tree α) :
    likeness.Agree (Action.onFiles step : Action σ τ α) (Action.onFiles step : Action σ υ α) := by
  intro bench other alike
  have same : step bench.files = step other.files := congrArg step alike.files
  exact ⟨congrArg (·.1) same, alike.host, congrArg (·.2) same, alike.ledger, alike.journals⟩

/-- Both ledgers are changed in the same way. -/
theorem onLedger (change : Cpu.Ledger → Cpu.Ledger) :
    likeness.Agree
      (modify fun bench => { bench with ledger := change bench.ledger } : Action σ τ Unit)
      (modify fun bench => { bench with ledger := change bench.ledger } : Action σ υ Unit) :=
  fun _ _ alike =>
    ⟨rfl, alike.host, alike.files, congrArg change alike.ledger, alike.journals⟩

/-- Somebody is asked, and the answer is entered. -/
theorem entered {left : Action σ τ α} {right : Action σ υ α} {next : α → Action σ τ β}
    {rest : α → Action σ υ β} (event : α → Event) (asked : likeness.Agree left right)
    (later : ∀ answer, likeness.Agree (next answer) (rest answer)) :
    likeness.Agree (do let answer ← left; Action.enter (event answer); next answer)
      (do let answer ← right; Action.enter (event answer); rest answer) :=
  asked.bind fun answer => (enter (event answer)).bind fun _ => later answer

end Agree

variable (likeness) (host : Host σ)

/-! ### Queue -/

theorem read_agree (cursor : Cursor) :
    likeness.Agree (Action.read host cursor : Action σ τ _) (Action.read host cursor : Action σ υ _) :=
  (Agree.onHost _).entered (.read cursor) fun _ => .pure _

theorem takeOver_agree (idle : Time.Duration) :
    likeness.Agree (Action.takeOver host idle : Action σ τ _)
      (Action.takeOver host idle : Action σ υ _) :=
  (Agree.onHost _).entered (.takeOver idle) fun _ => .pure _

theorem acknowledge_agree (id : Id) :
    likeness.Agree (Action.acknowledge host id : Action σ τ _)
      (Action.acknowledge host id : Action σ υ _) := by
  refine (Agree.onHost _).entered (.acknowledge id) fun answer => ?_
  cases answer with
  | ok value => exact .pure ()
  | error error => exact .report _

/-! ### Sandboxes -/

theorem launchDatabase_agree (spec : Sandbox.Spec) :
    likeness.Agree (Action.launchDatabase host spec : Action σ τ _)
      (Action.launchDatabase host spec : Action σ υ _) := by
  refine Agree.get_bind fun bench other alike => ?_
  rw [alike.files]
  exact (Agree.onHostFiles _).entered (.launchDatabase spec other.files) fun _ => .pure _

theorem launchClient_agree (spec : Sandbox.Spec) :
    likeness.Agree (Action.launchClient host spec : Action σ τ _)
      (Action.launchClient host spec : Action σ υ _) := by
  refine Agree.get_bind fun bench other alike => ?_
  rw [alike.files]
  exact (Agree.onHostFiles _).entered (.launchClient spec other.files) fun _ => .pure _

theorem stop_agree (handle : Sandbox.Handle) :
    likeness.Agree (Action.stop host handle : Action σ τ _)
      (Action.stop host handle : Action σ υ _) :=
  (Agree.onHost _).entered (.stop handle) fun _ => .pure _

theorem awaitReady_agree (address : String) (port : Nat) :
    likeness.Agree (Action.awaitReady host address port : Action σ τ _)
      (Action.awaitReady host address port : Action σ υ _) :=
  (Agree.onHost _).entered (.awaitReady address port) fun _ => .pure _

theorem shutdown_agree (address : String) (port : Nat) :
    likeness.Agree (Action.shutdown host address port : Action σ τ _)
      (Action.shutdown host address port : Action σ υ _) := by
  refine (Agree.onHost _).entered (.shutdown address port) fun answer => ?_
  cases answer with
  | ok value => exact .pure ()
  | error error => exact .report _

/-! ### Files -/

theorem inspect_agree {ε : Type} (request : FileRequest) (refusal : IoError → ε)
    (reading : Tree → Except ε α) :
    likeness.Agree (Action.inspect host request refusal reading : Action σ τ _)
      (Action.inspect host request refusal reading : Action σ υ _) := by
  refine (Agree.onHost _).bind fun refused => ?_
  cases refused with
  | some cause => exact .pure _
  | none =>
      refine Agree.get_bind fun bench other alike => ?_
      rw [alike.files]
      exact .pure _

theorem change_agree (request : FileRequest) (step : Tree → Except IoError Tree) :
    likeness.Agree (Action.change host request step : Action σ τ _)
      (Action.change host request step : Action σ υ _) := by
  refine (Agree.onHost _).bind fun refused => ?_
  cases refused with
  | some cause => exact .pure _
  | none => exact .onFiles _

theorem putInPlace_agree (build : Build) (names : List String) (directory : String) :
    likeness.Agree (putInPlace (Action.writeProgram host : _ → _ → Action σ τ _) build names directory)
      (putInPlace (Action.writeProgram host : _ → _ → Action σ υ _) build names directory) := by
  have written : ∀ payloads, likeness.Agree
      (writeArtifacts (Action.writeProgram host : _ → _ → Action σ τ _) directory payloads)
      (writeArtifacts (Action.writeProgram host : _ → _ → Action σ υ _) directory payloads) := by
    intro payloads
    induction payloads with
    | nil => exact .pure _
    | cons payload rest ih =>
        refine (likeness.change_agree host _ _).bind fun answer => ?_
        cases answer with
        | error cause => exact .pure _
        | ok value => exact ih
  unfold putInPlace
  cases artifactPayloads build names with
  | error cause => exact .pure _
  | ok payloads =>
      refine (written payloads).bind fun answer => ?_
      cases answer <;> exact .pure _

theorem storeResults_agree (tool : Tool) (path stdout : String) :
    likeness.Agree
      (storeResults (Action.writeFile host : _ → _ → Action σ τ _) tool path stdout)
      (storeResults (Action.writeFile host : _ → _ → Action σ υ _) tool path stdout) := by
  unfold storeResults
  cases tool.resultFile stdout with
  | error cause => exact .pure _
  | ok result =>
      cases result with
      | none => exact .pure _
      | some data =>
          refine (likeness.change_agree host _ _).bind fun answer => ?_
          cases answer <;> exact .pure _

/-! ### CPUs -/

theorem reserve_agree (slice : Cpu.Slice) :
    likeness.Agree (Action.reserve slice : Action σ τ _) (Action.reserve slice : Action σ υ _) := by
  intro bench other alike
  cases reserved : bench.ledger.reserve slice with
  | error error =>
      rw [Action.reserve_error reserved,
        Action.reserve_error (by rw [← alike.ledger]; exact reserved)]
      exact ⟨rfl, alike⟩
  | ok ledger =>
      rw [Action.reserve_ok reserved, Action.reserve_ok (by rw [← alike.ledger]; exact reserved)]
      exact ⟨rfl, alike.host, alike.files, rfl, alike.journals⟩

theorem releaseAll_agree (slices : List Cpu.Slice) :
    likeness.Agree (Action.releaseAll slices : Action σ τ _)
      (Action.releaseAll slices : Action σ υ _) :=
  .onLedger (·.releaseAll slices)

theorem defer_agree (handle : Sandbox.Handle) (slices : List Cpu.Slice) :
    likeness.Agree (Action.defer handle slices : Action σ τ _)
      (Action.defer handle slices : Action σ υ _) :=
  (Agree.report _).bind fun _ => .onLedger (·.defer handle slices)

/-- A sandbox is stopped, and what becomes of its slices rests on the answer. -/
theorem stopped_agree (handle : Sandbox.Handle) (slices : List Cpu.Slice) (notice : Notice) :
    likeness.Agree
      (do
        match ← Action.stop host handle with
        | .ok () => Action.releaseAll slices
        | .error _ =>
            Action.report notice
            Action.defer handle slices : Action σ τ Unit)
      (do
        match ← Action.stop host handle with
        | .ok () => Action.releaseAll slices
        | .error _ =>
            Action.report notice
            Action.defer handle slices : Action σ υ Unit) := by
  refine (likeness.stop_agree host handle).bind fun answer => ?_
  cases answer with
  | ok value => exact likeness.releaseAll_agree slices
  | error error => exact (Agree.report notice).bind fun _ => likeness.defer_agree handle slices

theorem retryAll_agree (stops : List Cpu.PendingStop) :
    likeness.Agree (Action.retryAll host stops : Action σ τ _)
      (Action.retryAll host stops : Action σ υ _) := by
  induction stops with
  | nil => exact .pure ()
  | cons stop rest ih =>
      exact (likeness.stopped_agree host stop.handle stop.slices .stopFailedAgain).bind fun _ => ih

theorem takeStops_agree :
    likeness.Agree (Action.takeStops : Action σ τ _) (Action.takeStops : Action σ υ _) := by
  refine Agree.get_bind fun bench other alike => ?_
  rw [alike.ledger]
  exact (Agree.onLedger _).bind fun _ => .pure _

theorem retryDeferred_agree :
    likeness.Agree (Slot.retryDeferred host : Action σ τ _)
      (Slot.retryDeferred host : Action σ υ _) := by
  refine Agree.get_bind fun bench other alike => ?_
  rw [alike.ledger]
  by_cases awaits : other.ledger.awaitsStops = true
  · rw [if_pos awaits, if_pos awaits]
    exact likeness.takeStops_agree.bind fun stops => likeness.retryAll_agree host stops
  · rw [if_neg awaits, if_neg awaits]
    exact .pure ()

/-! ### Steps -/

/-- From scenes that are alike, two steps end in the same way and leave scenes that are alike. -/
def StepsAgree (likeness : Likeness) (left : Step σ τ α) (right : Step σ υ α) : Prop :=
  ∀ scene other, likeness.Holds scene.bench other.bench → scene.held = other.held →
    (left scene).1 = (right other).1 ∧
      likeness.Holds (left scene).2.bench (right other).2.bench ∧
      (left scene).2.held = (right other).2.held

variable {likeness}

namespace StepsAgree

theorem pure (value : α) :
    likeness.StepsAgree (Pure.pure value : Step σ τ α) (Pure.pure value : Step σ υ α) :=
  fun _ _ alike held => ⟨rfl, alike, held⟩

theorem throw (error : Error) :
    likeness.StepsAgree (MonadExcept.throw error : Step σ τ α)
      (MonadExcept.throw error : Step σ υ α) :=
  fun _ _ alike held => ⟨rfl, alike, held⟩

theorem bind {left : Step σ τ α} {right : Step σ υ α} {next : α → Step σ τ β}
    {rest : α → Step σ υ β} (first : likeness.StepsAgree left right)
    (later : ∀ value, likeness.StepsAgree (next value) (rest value)) :
    likeness.StepsAgree (left >>= next) (right >>= rest) := by
  intro scene other alike held
  obtain ⟨same, after, kept⟩ := first scene other alike held
  rw [Step.bind_apply, Step.bind_apply]
  cases ended : left scene with
  | mk result last =>
      cases answered : right other with
      | mk answer final =>
          rw [ended, answered] at same after kept
          cases same
          cases result with
          | ok value => exact later value last final after kept
          | error error => exact ⟨rfl, after, kept⟩

theorem act {left : Action σ τ α} {right : Action σ υ α} (agree : likeness.Agree left right) :
    likeness.StepsAgree (Step.act left) (Step.act right) := by
  intro scene other alike held
  obtain ⟨same, after⟩ := agree _ _ alike
  exact ⟨congrArg Except.ok same, after, held⟩

theorem hold (change : Held → Held) :
    likeness.StepsAgree (Step.hold change : Step σ τ Unit) (Step.hold change : Step σ υ Unit) :=
  fun _ _ alike held => ⟨rfl, alike, congrArg change held⟩

theorem take {ε : Type} (wording : ε → Error) (answer : Except ε α) :
    likeness.StepsAgree (Step.take wording answer : Step σ τ α)
      (Step.take wording answer : Step σ υ α) := by
  cases answer with
  | ok value => exact pure value
  | error error => exact throw (wording error)

theorem take_act {ε : Type} {left : Action σ τ (Except ε α)} {right : Action σ υ (Except ε α)}
    {next : α → Step σ τ β} {rest : α → Step σ υ β} (wording : ε → Error)
    (agree : likeness.Agree left right)
    (later : ∀ value, likeness.StepsAgree (next value) (rest value)) :
    likeness.StepsAgree (Step.act left >>= fun answer => Step.take wording answer >>= next)
      (Step.act right >>= fun answer => Step.take wording answer >>= rest) :=
  (act agree).bind fun _ => (take wording _).bind later

end StepsAgree

section Steps

variable (likeness) (pass : Pass)

theorem reserveSlices_agree (slices : Slices) :
    likeness.StepsAgree (Pass.reserveSlices slices : Step σ τ Unit)
      (Pass.reserveSlices slices : Step σ υ Unit) := by
  refine StepsAgree.take_act _ (likeness.reserve_agree _) fun _ => ?_
  refine (StepsAgree.hold _).bind fun _ => ?_
  cases slices.client with
  | none => exact .pure ()
  | some slice => exact StepsAgree.take_act _ (likeness.reserve_agree slice) fun _ => .hold _

theorem makeDirectory_agree :
    likeness.StepsAgree (Pass.makeDirectory host pass : Step σ τ _)
      (Pass.makeDirectory host pass : Step σ υ _) := by
  refine (StepsAgree.act (.onHost _)).bind fun suffix => ?_
  refine StepsAgree.take_act _ (likeness.change_agree host _ _) fun _ => ?_
  exact (StepsAgree.hold _).bind fun _ => .pure _

theorem placeArtifacts_agree (directory : String) :
    likeness.StepsAgree (Pass.placeArtifacts host pass directory : Step σ τ _)
      (Pass.placeArtifacts host pass directory : Step σ υ _) := by
  refine StepsAgree.take_act _ (likeness.putInPlace_agree host _ _ _) fun placed => ?_
  dsimp only
  split
  · exact .pure ()
  · exact .throw _

theorem startDatabase_agree (directory : String) (slice : Cpu.Slice) :
    likeness.StepsAgree (Pass.launchDatabase host pass directory slice : Step σ τ _)
      (Pass.launchDatabase host pass directory slice : Step σ υ _) := by
  refine StepsAgree.take_act _ (likeness.launchDatabase_agree host _) fun handle => ?_
  refine (StepsAgree.hold _).bind fun _ => ?_
  exact (StepsAgree.act (likeness.awaitReady_agree host _ _)).bind fun _ => .take _ _

/-- The two hosts may answer stops and requests to shut down in different ways, if that makes no
difference to the benches. -/
theorem runClient_agree (stop : Sandbox.Handle → StateM σ (Except Sandbox.Error Unit))
    (answers : String → Nat → σ → Except ProbeError Unit)
    (shut : ∀ address port, likeness.Agree (Action.shutdown host address port : Action σ τ _)
      (Action.shutdown (host.answering stop answers) address port : Action σ υ _))
    (spec : Sandbox.Spec) :
    likeness.StepsAgree (Pass.launchClient host pass spec : Step σ τ _)
      (Pass.launchClient (host.answering stop answers) pass spec : Step σ υ _) := by
  have ending (output : Sandbox.ClientRun) :
      likeness.StepsAgree (do
        Step.act (Action.shutdown host pass.settings.layout.host pass.settings.layout.port)
        return output : Step σ τ _)
        (do
        Step.act (Action.shutdown (host.answering stop answers) pass.settings.layout.host
          pass.settings.layout.port)
        return output : Step σ υ _) :=
    (StepsAgree.act (shut _ _)).bind fun _ => .pure _
  refine (StepsAgree.act (likeness.launchClient_agree host spec)).bind fun answer => ?_
  refine (StepsAgree.hold _).bind fun _ => ?_
  refine (StepsAgree.take _ answer).bind fun output => ?_
  dsimp only
  split
  · exact (StepsAgree.act (.report _)).bind fun _ => ending output
  · exact ending output

theorem collectResults_agree (tool : Tool) (path stdout : String) :
    likeness.StepsAgree (Pass.collectResults host tool path stdout : Step σ τ _)
      (Pass.collectResults host tool path stdout : Step σ υ _) := by
  refine StepsAgree.take_act _ (likeness.storeResults_agree host tool path stdout) fun _ => ?_
  exact (StepsAgree.act (likeness.inspect_agree host _ _ _)).bind fun _ => .take _ _

theorem carryOut_agree (stop : Sandbox.Handle → StateM σ (Except Sandbox.Error Unit))
    (answers : String → Nat → σ → Except ProbeError Unit)
    (shut : ∀ address port, likeness.Agree (Action.shutdown host address port : Action σ τ _)
      (Action.shutdown (host.answering stop answers) address port : Action σ υ _))
    (slices : Except Cpu.Error Slices) :
    likeness.StepsAgree (Pass.carryOut host pass slices : Step σ τ Report)
      (Pass.carryOut (host.answering stop answers) pass slices : Step σ υ Report) := by
  refine (StepsAgree.take _ slices).bind fun granted => ?_
  refine (likeness.reserveSlices_agree granted).bind fun _ => ?_
  refine (StepsAgree.take _ _).bind fun tool => ?_
  refine (likeness.makeDirectory_agree host pass).bind fun directory => ?_
  refine (likeness.placeArtifacts_agree host pass directory).bind fun _ => ?_
  refine (likeness.startDatabase_agree host pass directory granted.database).bind fun _ => ?_
  refine (StepsAgree.take _ _).bind fun spec => ?_
  refine (likeness.runClient_agree host pass stop answers shut spec).bind fun output => ?_
  exact (likeness.collectResults_agree host tool _ _).bind fun _ => .pure _

end Steps

/-! ### Passes -/

variable (likeness) (pass : Pass)

theorem opening_agree (settings : Settings) (job : Job) :
    likeness.Agree (Pass.opening host settings job : Action σ τ Pass)
      (Pass.opening host settings job : Action σ υ Pass) :=
  (Agree.onHost _).bind fun _ => (Agree.onHost _).bind fun _ => .pure _

theorem settle_agree (handle : Option Sandbox.Handle) (slice : Option Cpu.Slice) :
    likeness.Agree (Pass.settle host handle slice : Action σ τ _)
      (Pass.settle host handle slice : Action σ υ _) := by
  cases handle with
  | none => exact likeness.releaseAll_agree slice.toList
  | some handle => exact likeness.stopped_agree host handle slice.toList .stopFailed

theorem removeDirectory_agree (directory : Option String) :
    likeness.Agree (Pass.removeDirectory host directory : Action σ τ _)
      (Pass.removeDirectory host directory : Action σ υ _) := by
  cases directory with
  | none => exact .pure ()
  | some path =>
      refine (likeness.change_agree host _ _).bind fun answer => ?_
      cases answer with
      | ok value => exact .pure ()
      | error cause => exact .report _

theorem giveBack_agree (held : Held) :
    likeness.Agree (Pass.giveBack host held : Action σ τ _)
      (Pass.giveBack host held : Action σ υ _) :=
  (likeness.settle_agree host held.database held.databaseSlice).bind fun _ =>
    (likeness.settle_agree host held.client held.clientSlice).bind fun _ =>
      likeness.removeDirectory_agree host held.directory

theorem runToEnd_agree (slices : Except Cpu.Error Slices) :
    likeness.Agree (Pass.runToEnd host pass slices : Action σ τ _)
      (Pass.runToEnd host pass slices : Action σ υ _) := by
  intro bench other alike
  -- The host answers stops and requests to shut down as it does.
  obtain ⟨same, after, held⟩ := likeness.carryOut_agree host pass host.stop
    (fun address port state => (host.shutdown address port state).1)
    (fun address port => likeness.shutdown_agree host address port) slices
    { bench, held := .nothing } { bench := other, held := .nothing } alike rfl
  refine ⟨same, ?_⟩
  change likeness.Holds
    (Pass.giveBack host (Pass.carryOut host pass slices { bench, held := .nothing }).2.held _).2 _
  rw [held]
  exact (likeness.giveBack_agree host _ _ _ after).2

end Likeness

end BuildBench.Run
