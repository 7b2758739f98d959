import BuildBench.Run.Schedule

set_option autoImplicit false

/-! The calls that actions make. A call is an event that is not a notice: somebody was asked and
has answered. For each action of the bench this module says which calls it adds to those made so
far, and that it leaves the CPU ledger alone unless that is its purpose. -/

namespace BuildBench.Run

open BuildBench.Entry BuildBench.Files

/-- The event is a call and not a notice. -/
def Event.isCall : Event → Bool
  | .notice _ => false
  | _ => true

def Bench.calls {σ τ : Type} (bench : Bench σ τ) : List Event :=
  bench.journal.filter Event.isCall

/-- Only events of a kind were added to the calls. -/
def Bench.Adds {σ τ : Type} (kind : Event → Prop) (before after : Bench σ τ) : Prop :=
  ∃ made, after.calls = before.calls ++ made ∧ ∀ event ∈ made, kind event

namespace Bench.Adds

variable {σ τ : Type} {kind : Event → Prop} {before middle after : Bench σ τ}

theorem nothing (calls : after.calls = before.calls) : before.Adds kind after := by
  refine ⟨[], calls.trans (List.append_nil _).symm, ?_⟩
  intro event member
  cases member

theorem single {event : Event} (calls : after.calls = before.calls ++ [event])
    (fits : kind event) : before.Adds kind after := by
  refine ⟨[event], calls, ?_⟩
  intro other member
  rw [List.mem_singleton.mp member]
  exact fits

theorem trans (first : before.Adds kind middle) (rest : middle.Adds kind after) :
    before.Adds kind after := by
  obtain ⟨made, calls, fits⟩ := first
  obtain ⟨later, further, others⟩ := rest
  refine ⟨made ++ later, by rw [further, calls, List.append_assoc], ?_⟩
  intro event member
  rcases List.mem_append.mp member with earlier | own
  · exact fits event earlier
  · exact others event own

theorem weaken {wider : Event → Prop} (adds : before.Adds kind after)
    (fits : ∀ event, kind event → wider event) : before.Adds wider after := by
  obtain ⟨made, calls, each⟩ := adds
  exact ⟨made, calls, fun event member => fits event (each event member)⟩

theorem calls_eq (adds : before.Adds (fun _ => False) after) : after.calls = before.calls := by
  obtain ⟨made, calls, never⟩ := adds
  cases made with
  | nil => exact calls.trans (List.append_nil _)
  | cons event rest => exact (never event List.mem_cons_self).elim

end Bench.Adds

namespace Action

variable {σ τ α β : Type}

@[simp]
theorem pure_apply (value : α) (bench : Bench σ τ) :
    (pure value : Action σ τ α) bench = (value, bench) :=
  rfl

@[simp]
theorem bind_apply (action : Action σ τ α) (next : α → Action σ τ β) (bench : Bench σ τ) :
    (action >>= next) bench = next (action bench).1 (action bench).2 :=
  rfl

@[simp]
theorem get_apply (bench : Bench σ τ) : (get : Action σ τ (Bench σ τ)) bench = (bench, bench) :=
  rfl

@[simp]
theorem modify_apply (change : Bench σ τ → Bench σ τ) (bench : Bench σ τ) :
    (modify change : Action σ τ Unit) bench = ((), change bench) :=
  rfl

/-- An action adds certain calls to a bench, and leaves its ledger as it is. -/
structure Makes (action : Action σ τ α) (bench : Bench σ τ) (made : List Event) : Prop where
  calls : (action bench).2.calls = bench.calls ++ made
  ledger : (action bench).2.ledger = bench.ledger

namespace Makes

variable {action : Action σ τ α} {bench : Bench σ τ} {made later : List Event}

theorem of_same (journal : (action bench).2.journal = bench.journal)
    (ledger : (action bench).2.ledger = bench.ledger) : Makes action bench [] where
  calls := by rw [Bench.calls, journal, List.append_nil, Bench.calls]
  ledger := ledger

theorem pure (value : α) : Makes (pure value : Action σ τ α) bench [] :=
  of_same rfl rfl

theorem bind {next : α → Action σ τ β} (first : Makes action bench made)
    (rest : Makes (next (action bench).1) (action bench).2 later) :
    Makes (action >>= next) bench (made ++ later) where
  calls := by
    rw [bind_apply, rest.calls, first.calls, List.append_assoc]
  ledger := by
    rw [bind_apply, rest.ledger, first.ledger]

theorem bind_quiet {next : α → Action σ τ β} (first : Makes action bench made)
    (rest : ∀ value bench, Makes (next value) bench []) : Makes (action >>= next) bench made := by
  simpa using first.bind (rest _ _)

end Makes

/-! ### Events -/

theorem enter_makes (event : Event) (bench : Bench σ τ) (call : event.isCall = true) :
    Makes (enter event) bench [event] where
  calls := by
    change (bench.journal ++ [event]).filter Event.isCall = _
    rw [List.filter_append, List.filter_cons_of_pos call, List.filter_nil, Bench.calls]
  ledger := rfl

theorem report_makes (notice : Notice) (bench : Bench σ τ) : Makes (report notice) bench [] where
  calls := by
    change (bench.journal ++ [Event.notice notice]).filter Event.isCall = _
    rw [List.filter_append]
    rfl
  ledger := rfl

theorem get_makes (bench : Bench σ τ) : Makes (get : Action σ τ (Bench σ τ)) bench [] :=
  Makes.of_same rfl rfl

theorem onHost_makes (step : StateM σ α) (bench : Bench σ τ) : Makes (onHost step) bench [] :=
  Makes.of_same rfl rfl

theorem onHostFiles_makes (step : StateM (σ × Tree) α) (bench : Bench σ τ) :
    Makes (onHostFiles step) bench [] :=
  Makes.of_same rfl rfl

theorem onFiles_makes (step : StateM Tree α) (bench : Bench σ τ) : Makes (onFiles step) bench [] :=
  Makes.of_same rfl rfl

theorem onSink_makes (step : StateM τ α) (bench : Bench σ τ) : Makes (onSink step) bench [] :=
  Makes.of_same rfl rfl

/-- Somebody is asked, the answer is entered as a call, and what follows makes no call. -/
theorem Makes.entered {asking : Action σ τ α} {bench : Bench σ τ} (event : α → Event)
    {next : α → Action σ τ β} (asked : Makes asking bench [])
    (call : ∀ answer, (event answer).isCall = true)
    (rest : ∀ answer bench, Makes (next answer) bench []) :
    Makes (do let answer ← asking; enter (event answer); next answer) bench
      [event (asking bench).1] :=
  asked.bind ((enter_makes _ _ (call _)).bind_quiet fun _ bench => rest _ bench)

/-! ### Queue -/

section Queue

variable (host : Host σ) (bench : Bench σ τ)

theorem read_makes (cursor : Cursor) :
    Makes (read host cursor) bench [.read cursor (read host cursor bench).1] :=
  (onHost_makes _ _).entered _ (fun _ => rfl) fun _ _ => Makes.pure _

theorem takeOver_makes (idle : Time.Duration) :
    Makes (takeOver host idle) bench [.takeOver idle (takeOver host idle bench).1] :=
  (onHost_makes _ _).entered _ (fun _ => rfl) fun _ _ => Makes.pure _

theorem acknowledge_makes (id : Id) :
    ∃ answer, Makes (acknowledge host id) bench [.acknowledge id answer] := by
  refine ⟨_, (onHost_makes _ _).entered (.acknowledge id) (fun _ => rfl) fun answer bench => ?_⟩
  cases answer with
  | ok value => exact Makes.pure ()
  | error cause => exact report_makes _ _

end Queue

/-! ### Sandboxes -/

section Sandboxes

variable (host : Host σ) (bench : Bench σ τ)

theorem launchDatabase_makes (spec : Sandbox.Spec) :
    Makes (launchDatabase host spec) bench
      [.launchDatabase spec bench.files (launchDatabase host spec bench).1] :=
  (get_makes bench).bind ((onHostFiles_makes _ _).entered (.launchDatabase spec bench.files)
    (fun _ => rfl) fun _ _ => Makes.pure _)

theorem launchClient_makes (spec : Sandbox.Spec) :
    Makes (launchClient host spec) bench
      [.launchClient spec bench.files (launchClient host spec bench).1] :=
  (get_makes bench).bind ((onHostFiles_makes _ _).entered (.launchClient spec bench.files)
    (fun _ => rfl) fun _ _ => Makes.pure _)

theorem stop_makes (handle : Sandbox.Handle) :
    Makes (Action.stop host handle) bench [.stop handle (Action.stop host handle bench).1] :=
  (onHost_makes _ _).entered _ (fun _ => rfl) fun _ _ => Makes.pure _

theorem awaitReady_makes (address : String) (port : Nat) :
    Makes (awaitReady host address port) bench
      [.awaitReady address port (awaitReady host address port bench).1] :=
  (onHost_makes _ _).entered _ (fun _ => rfl) fun _ _ => Makes.pure _

theorem shutdown_makes (address : String) (port : Nat) :
    ∃ answer, Makes (shutdown host address port) bench [.shutdown address port answer] := by
  refine ⟨_, (onHost_makes _ _).entered (.shutdown address port) (fun _ => rfl)
    fun answer bench => ?_⟩
  cases answer with
  | ok value => exact Makes.pure ()
  | error cause => exact report_makes _ _

end Sandboxes

/-! ### Metrics -/

/-- The store is told once if there is one, and otherwise nobody is. -/
theorem push_makes (collaborators : Collaborators σ τ) (summary : Summary) (bench : Bench σ τ) :
    ∃ answer, Makes (push collaborators summary) bench
      (collaborators.sink.toList.map fun _ => .push summary answer) := by
  unfold push
  cases collaborators.sink with
  | none => exact ⟨.ok (), Makes.pure ()⟩
  | some sink =>
      refine ⟨_, (onSink_makes _ _).entered (.push summary) (fun _ => rfl) fun answer bench => ?_⟩
      cases answer with
      | ok value => exact Makes.pure ()
      | error cause => exact report_makes _ _

/-! ### Files -/

section Files

variable (host : Host σ) (bench : Bench σ τ)

theorem inspect_makes {ε : Type} (request : FileRequest) (refusal : IoError → ε)
    (reading : Tree → Except ε α) : Makes (inspect host request refusal reading) bench [] := by
  refine (onHost_makes _ _).bind_quiet fun refused bench => ?_
  cases refused with
  | some cause => exact Makes.pure _
  | none => exact Makes.of_same rfl rfl

theorem change_makes (request : FileRequest) (step : Tree → Except IoError Tree) :
    Makes (change host request step) bench [] := by
  refine (onHost_makes _ _).bind_quiet fun refused bench => ?_
  cases refused with
  | some cause => exact Makes.pure _
  | none => exact onFiles_makes _ _

/-- Artifacts are put in place without a call, however they are written. -/
theorem putInPlace_makes (build : Build) (names : List String) (directory : String) :
    Makes (putInPlace (writeProgram host) build names directory) bench [] := by
  have written : ∀ payloads (bench : Bench σ τ),
      Makes (writeArtifacts (writeProgram host) directory payloads) bench [] := by
    intro payloads
    induction payloads with
    | nil => exact fun _ => Makes.pure _
    | cons payload rest ih =>
        intro bench
        refine (change_makes host bench _ _).bind_quiet fun answer bench => ?_
        cases answer with
        | error cause => exact Makes.pure _
        | ok value => exact ih bench
  unfold putInPlace
  cases artifactPayloads build names with
  | error cause => exact Makes.pure _
  | ok payloads =>
      refine (written payloads bench).bind_quiet fun answer bench => ?_
      cases answer <;> exact Makes.pure _

theorem storeResults_makes (tool : Tool) (path stdout : String) :
    Makes (storeResults (writeFile host) tool path stdout) bench [] := by
  unfold storeResults
  cases tool.resultFile stdout with
  | error cause => exact Makes.pure _
  | ok result =>
      cases result with
      | none => exact Makes.pure _
      | some data =>
          refine (change_makes host bench _ _).bind_quiet fun answer bench => ?_
          cases answer <;> exact Makes.pure _

end Files

/-! ### CPUs -/

section Cpus

variable {bench : Bench σ τ} {slice : Cpu.Slice}

theorem reserve_error {error : Cpu.Error} (refused : bench.ledger.reserve slice = .error error) :
    reserve slice bench = (.error error, bench) := by
  simp only [reserve, bind_apply, get_apply, refused, pure_apply]

theorem reserve_ok {ledger : Cpu.Ledger} (reserved : bench.ledger.reserve slice = .ok ledger) :
    reserve slice bench = (.ok (), { bench with ledger }) := by
  simp only [reserve, bind_apply, get_apply, reserved, modify_apply, pure_apply]

end Cpus

end Action

end BuildBench.Run
