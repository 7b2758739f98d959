import BuildBench.Proofs.Run.Ending

set_option autoImplicit false

/-! Who has which CPUs. A database occupies its slice from its launch until a stop of it is
confirmed. Main statements: passes and retried stops keep every occupied slice reserved, and no
sandbox is launched on CPUs that another one may still occupy. -/

namespace BuildBench.Run

open BuildBench.Definition BuildBench.Entry BuildBench.Files

/-! ### Occupied slices -/

abbrev Occupant := Sandbox.Handle × Cpu.Slice

def Event.wanted? : Event → Option Cpu.Slice
  | .launchDatabase spec _ _ | .launchClient spec _ _ => spec.cpus
  | _ => none

/-- What an event changes about the databases that may be alive. -/
def Event.occupy (alive : List Occupant) : Event → List Occupant
  | .launchDatabase spec _ (.ok handle) => alive ++ spec.cpus.toList.map (handle, ·)
  | .stop handle (.ok ()) => alive.filter (·.1 ≠ handle)
  | _ => alive

def occupied (events : List Event) : List Occupant :=
  events.foldl Event.occupy []

/-- No event launches a sandbox on CPUs of a database that may be alive. -/
def ApartFrom (alive : List Occupant) : List Event → Prop
  | [] => True
  | event :: rest =>
      (∀ wanted ∈ event.wanted?, ∀ occupant ∈ alive,
        occupant.2.indices.Disjoint wanted.indices) ∧
      ApartFrom (event.occupy alive) rest

theorem occupied_append (events later : List Event) :
    occupied (events ++ later) = later.foldl Event.occupy (occupied events) :=
  List.foldl_append

theorem apartFrom_append (alive : List Occupant) (events later : List Event) :
    ApartFrom alive (events ++ later) ↔
      ApartFrom alive events ∧ ApartFrom (events.foldl Event.occupy alive) later := by
  induction events generalizing alive with
  | nil => simp [ApartFrom]
  | cons event rest ih =>
      simp only [List.cons_append, ApartFrom, List.foldl_cons, ih, and_assoc]

/-- Notices are neither launches nor stops. -/
theorem apartFrom_calls (alive : List Occupant) (events : List Event) :
    ApartFrom alive (events.filter Event.isCall) ↔ ApartFrom alive events := by
  induction events generalizing alive with
  | nil => exact Iff.rfl
  | cons event rest ih =>
      by_cases call : event.isCall = true
      · rw [List.filter_cons_of_pos call]
        exact and_congr_right fun _ => ih _
      · rw [List.filter_cons_of_neg call, ih]
        cases event with
        | notice notice => simp [ApartFrom, Event.wanted?, Event.occupy]
        | _ => exact absurd rfl call

/-- A database occupies its slice as long as no stop of it is confirmed. -/
theorem mem_foldl_occupy {alive : List Occupant} {occupant : Occupant} {events : List Event}
    (present : occupant ∈ alive) (unconfirmed : .stop occupant.1 (.ok ()) ∉ events) :
    occupant ∈ events.foldl Event.occupy alive := by
  induction events generalizing alive with
  | nil => exact present
  | cons event rest ih =>
      rw [List.mem_cons, not_or] at unconfirmed
      refine ih ?_ unconfirmed.2
      cases event with
      | launchDatabase spec files answer =>
          cases answer with
          | ok handle => exact List.mem_append_left _ present
          | error error => exact present
      | stop handle answer =>
          cases answer with
          | ok value =>
              refine List.mem_filter.mpr ⟨present, ?_⟩
              rw [decide_eq_true_iff]
              intro same
              exact unconfirmed.1 (by rw [same])
          | error error => exact present
      | _ => exact present

/-- A sandbox is launched on CPUs of its own: whenever a database was launched before and no stop
of it has been confirmed since, the two slices have no index in common. -/
def LaunchesApart (journal : List Event) : Prop :=
  ∀ first middle last spec files handle event,
    journal = first ++ .launchDatabase spec files (.ok handle) :: (middle ++ event :: last) →
    .stop handle (.ok ()) ∉ middle →
    ∀ taken ∈ spec.cpus, ∀ wanted ∈ event.wanted?, taken.indices.Disjoint wanted.indices

theorem launchesApart_of_apartFrom {journal : List Event} (apart : ApartFrom [] journal) :
    LaunchesApart journal := by
  rintro first middle last spec files handle event rfl unconfirmed taken takes wanted wants
  rw [apartFrom_append, ApartFrom, apartFrom_append, ApartFrom] at apart
  refine apart.2.2.2.1 wanted wants (handle, taken) (mem_foldl_occupy ?_ unconfirmed)
  rw [Option.mem_def] at takes
  simp [Event.occupy, takes]

/-! ### Custody -/

variable {σ τ : Type}

def pins (stop : Cpu.PendingStop) : List Occupant :=
  stop.slices.map (stop.handle, ·)

/-- The reservations are those of deferred stops and those in hand, and each occupied slice belongs
to a deferred stop or to a database that is `kept`. -/
structure Custody (cpus : Nat) (bench : Bench σ τ) (inHand : List Cpu.Slice)
    (kept : List Occupant) : Prop where
  pool : bench.ledger.pool = cpus
  accounts : bench.ledger.Accounts inHand
  exclusive : bench.ledger.Exclusive
  covered : ∀ occupant ∈ occupied bench.calls,
    occupant ∈ bench.ledger.deferred.flatMap pins ∨ occupant ∈ kept
  apart : ApartFrom [] bench.calls

def Event.IsNeutral (event : Event) : Prop :=
  event.wanted? = none ∧ ∀ alive, event.occupy alive = alive

theorem foldl_neutral (alive : List Occupant) (events : List Event)
    (neutral : ∀ event ∈ events, event.IsNeutral) :
    events.foldl Event.occupy alive = alive ∧ ApartFrom alive events := by
  induction events with
  | nil => exact ⟨rfl, trivial⟩
  | cons event rest ih =>
      obtain ⟨none, same⟩ := neutral event List.mem_cons_self
      obtain ⟨later, apart⟩ := ih fun event member => neutral event (List.mem_cons_of_mem _ member)
      rw [List.foldl_cons, ApartFrom, same, none]
      refine ⟨later, ?_, apart⟩
      intro wanted wants
      cases wants

namespace Course

def occupants (course : Course) : List Occupant :=
  course.database?.toList.flatMap fun database =>
    database.spec.cpus.toList.map (database.handle, ·)

theorem foldl_occupy (course : Course) (layout : Layout) (alive : List Occupant) :
    (course.calls layout).foldl Event.occupy alive = alive ++ course.occupants := by
  cases course <;>
    simp [calls, occupants, database?, Started.call, Event.occupy]

theorem apartFrom_calls (course : Course) (layout : Layout) (alive : List Occupant)
    (database : ∀ spec ∈ course.databaseSpec?, ∀ wanted ∈ spec.cpus, ∀ occupant ∈ alive,
      occupant.2.indices.Disjoint wanted.indices)
    (client : ∀ spec ∈ course.clientSpec?, ∀ wanted ∈ spec.cpus,
      ∀ occupant ∈ alive ++ course.occupants, occupant.2.indices.Disjoint wanted.indices) :
    ApartFrom alive (course.calls layout) := by
  have others (wanted : Cpu.Slice) (wants : wanted ∈ (none : Option Cpu.Slice)) : False := by
    cases wants
  cases course with
  | unlaunched => trivial
  | launchFailed spec files error => exact ⟨database spec rfl, trivial⟩
  | notReady started error =>
      exact ⟨database started.spec rfl, fun wanted wants => (others wanted wants).elim, trivial⟩
  | ready started =>
      exact ⟨database started.spec rfl, fun wanted wants => (others wanted wants).elim, trivial⟩
  | clientFailed started spec files error =>
      simp only [occupants, database?, Option.toList_some, List.flatMap_singleton] at client
      exact ⟨database started.spec rfl, fun wanted wants => (others wanted wants).elim,
        client spec rfl, trivial⟩
  | measured started spec files output answer =>
      simp only [occupants, database?, Option.toList_some, List.flatMap_singleton] at client
      exact ⟨database started.spec rfl, fun wanted wants => (others wanted wants).elim,
        client spec rfl, fun wanted wants => (others wanted wants).elim, trivial⟩

end Course

namespace Custody

variable {cpus : Nat} {bench after : Bench σ τ} {inHand : List Cpu.Slice} {kept : List Occupant}

theorem start (host : σ) (sink : τ) (files : Tree) (cpus : Nat) :
    Custody cpus (Bench.start host sink files cpus) [] [] where
  pool := rfl
  accounts := Cpu.Ledger.ofPool_accounts cpus
  exclusive := Cpu.Ledger.ofPool_exclusive cpus
  covered := by intro occupant member; cases member
  apart := trivial

/-- Neutral events change nothing about who has which CPUs. -/
theorem neutral {made : List Event} (custody : Custody cpus bench inHand kept)
    (calls : after.calls = bench.calls ++ made) (ledger : after.ledger = bench.ledger)
    (harmless : ∀ event ∈ made, event.IsNeutral) : Custody cpus after inHand kept := by
  obtain ⟨same, apart⟩ := foldl_neutral (occupied bench.calls) made harmless
  constructor
  · rw [ledger]; exact custody.pool
  · rw [ledger]; exact custody.accounts
  · rw [ledger]; exact custody.exclusive
  · rw [calls, occupied_append, same, ledger]; exact custody.covered
  · rw [calls, apartFrom_append]; exact ⟨custody.apart, apart⟩

theorem released {slices : List Cpu.Slice} {left : List Occupant}
    (custody : Custody cpus bench (slices ++ inHand) kept)
    (ledger : after.ledger = bench.ledger.releaseAll slices)
    (covered : ∀ occupant ∈ occupied after.calls,
      occupant ∈ bench.ledger.deferred.flatMap pins ∨ occupant ∈ left)
    (apart : ApartFrom [] after.calls) : Custody cpus after inHand left where
  pool := by rw [ledger, Cpu.Ledger.releaseAll_pool]; exact custody.pool
  accounts := by rw [ledger]; exact custody.accounts.releaseAll
  exclusive := by rw [ledger]; exact custody.exclusive.releaseAll slices
  covered := by rw [ledger, Cpu.Ledger.releaseAll_deferred]; exact covered
  apart := apart

/-- When a sandbox is settled, its slices either go back to the pool with the stop confirmed, or
pass from those in hand to a deferred stop. -/
theorem stops {action : Action σ τ Unit} {handle : Option Sandbox.Handle}
    {slices : List Cpu.Slice} {answer : Except Sandbox.Error Unit} {left : List Occupant}
    (custody : Custody cpus bench (slices ++ inHand) kept)
    (stops : action.Stops bench handle slices answer)
    (settled : ∀ occupant ∈ kept, occupant ∈ left ∨
      (handle = some occupant.1 ∧ occupant.2 ∈ slices)) :
    Custody cpus (action bench).2 inHand left := by
  cases handle with
  | none =>
      have calls : (action bench).2.calls = bench.calls := stops.calls.trans (List.append_nil _)
      refine custody.released stops.ledger ?_ (by rw [calls]; exact custody.apart)
      intro occupant member
      rw [calls] at member
      rcases custody.covered occupant member with pinned | isKept
      · exact Or.inl pinned
      · exact Or.inr ((settled occupant isKept).resolve_right fun gone => by cases gone.1)
  | some handle =>
      have calls : (action bench).2.calls = bench.calls ++ [.stop handle answer] := stops.calls
      have apart : ApartFrom [] (action bench).2.calls := by
        rw [calls, apartFrom_append]
        refine ⟨custody.apart, ?_, trivial⟩
        intro wanted wants
        cases wants
      -- A confirmed stop ends the occupation and frees the slices; any other one keeps both.
      cases answer with
      | ok value =>
          refine custody.released stops.ledger ?_ apart
          intro occupant member
          rw [calls, occupied_append] at member
          obtain ⟨present, other⟩ := List.mem_filter.mp member
          rw [decide_eq_true_iff] at other
          rcases custody.covered occupant present with pinned | isKept
          · exact Or.inl pinned
          · refine Or.inr ((settled occupant isKept).resolve_right fun gone => ?_)
            exact other (Option.some.inj gone.1).symm
      | error error =>
          have ledger : (action bench).2.ledger = bench.ledger.defer handle slices := stops.ledger
          constructor
          · rw [ledger]; exact custody.pool
          · rw [ledger]; exact custody.accounts.defer
          · rw [ledger]; exact ⟨custody.exclusive.apart, custody.exclusive.inside⟩
          · intro occupant member
            rw [calls, occupied_append] at member
            rw [ledger]
            change occupant ∈ (bench.ledger.deferred ++ [_]).flatMap pins ∨ _
            rw [List.flatMap_append, List.mem_append, List.flatMap_singleton]
            rcases custody.covered occupant member with pinned | isKept
            · exact Or.inl (Or.inl pinned)
            · rcases settled occupant isKept with remains | ⟨same, slice⟩
              · exact Or.inr remains
              · refine Or.inl (Or.inr (List.mem_map.mpr ⟨occupant.2, slice, ?_⟩))
                rw [Option.some.inj same]
          · exact apart

/-- The slices of the stops that are still to be retried are in hand. -/
theorem retryAll (host : Host σ) (stops : List Cpu.PendingStop)
    (custody : Custody cpus bench (stops.flatMap Cpu.PendingStop.slices ++ inHand)
      (stops.flatMap pins)) :
    Custody cpus (Action.retryAll host stops bench).2 inHand [] := by
  -- Each stop takes its own slices and sandbox out of what is in hand and kept.
  induction stops generalizing bench with
  | nil => exact custody
  | cons stop rest ih =>
      rw [List.flatMap_cons, List.flatMap_cons, List.append_assoc] at custody
      refine ih (custody.stops (Action.retryStop_stops host stop bench) ?_)
      intro occupant member
      rcases List.mem_append.mp member with own | other
      · obtain ⟨slice, present, rfl⟩ := List.mem_map.mp own
        exact Or.inr ⟨rfl, present⟩
      · exact Or.inl other

theorem retryStops (host : Host σ) (custody : Custody cpus bench [] []) :
    Custody cpus (Action.retryStops host bench).2 [] [] := by
  refine Custody.retryAll host bench.ledger.deferred ?_
  constructor
  · exact custody.pool
  · exact custody.accounts.withoutDeferred
  · exact ⟨custody.exclusive.apart, custody.exclusive.inside⟩
  · intro occupant member
    exact Or.inr ((custody.covered occupant member).resolve_right (List.not_mem_nil))
  · exact custody.apart

/-- A launch wants a slice that was in the ledger beside all that is occupied. -/
theorem wanted_apart {slices : List Cpu.Slice} {ledger : Cpu.Ledger}
    (custody : Custody cpus bench [] []) (takes : bench.ledger.Takes ledger slices) :
    ∀ wanted ∈ slices, ∀ occupant ∈ occupied bench.calls,
      occupant.2.indices.Disjoint wanted.indices := by
  intro wanted taken occupant member
  -- What is occupied is pinned, what is pinned is reserved, and reservations are apart.
  have pinned := (custody.covered occupant member).resolve_right List.not_mem_nil
  obtain ⟨stop, deferred, own⟩ := List.mem_flatMap.mp pinned
  obtain ⟨slice, present, rfl⟩ := List.mem_map.mp own
  have live : slice ∈ bench.ledger.live := by
    refine custody.accounts.mem_iff.mpr (List.mem_append_left _ ?_)
    exact List.mem_flatMap.mpr ⟨stop, deferred, present⟩
  have apart := (takes.exclusive custody.exclusive).apart
  rw [takes.live, List.pairwise_append] at apart
  exact apart.2.2 slice live wanted taken

/-- The steps of a pass put in hand what they take, and keep the database that they started. -/
theorem stands {pass : Pass} {course : Course} {scene : Scene σ τ}
    (custody : Custody cpus bench [] []) (stands : pass.Stands bench course scene) :
    Custody cpus scene.bench scene.held.slices course.occupants where
  pool := stands.ledger.pool.trans custody.pool
  accounts := stands.ledger.accounts custody.accounts
  exclusive := stands.ledger.exclusive custody.exclusive
  covered := by
    intro occupant member
    rw [stands.calls, occupied_append, course.foldl_occupy] at member
    rw [stands.ledger.deferred]
    rcases List.mem_append.mp member with earlier | own
    · exact Or.inl ((custody.covered occupant earlier).resolve_right List.not_mem_nil)
    · exact Or.inr own
  apart := by
    rw [stands.calls, apartFrom_append]
    refine ⟨custody.apart, course.apartFrom_calls _ _ ?_ ?_⟩
    · intro spec asked wanted wants
      rw [stands.databaseCpus spec asked] at wants
      exact custody.wanted_apart stands.ledger wanted
        (List.mem_append_left _ (Option.mem_toList.mpr wants))
    · intro spec asked wanted wants occupant member
      rw [stands.clientCpus spec asked] at wants
      rcases List.mem_append.mp member with earlier | own
      · exact custody.wanted_apart stands.ledger wanted
          (List.mem_append_right _ (Option.mem_toList.mpr wants)) occupant earlier
      · -- The other one is the database of this pass.
        obtain ⟨database, started, own⟩ := List.mem_flatMap.mp own
        obtain ⟨slice, taken, rfl⟩ := List.mem_map.mp own
        rw [Option.mem_toList] at started taken
        have held := stands.databaseCpus database.spec (course.databaseSpec_of_database started)
        rw [held] at taken
        have apart := (stands.ledger.exclusive custody.exclusive).apart
        rw [stands.ledger.live, Held.slices, List.pairwise_append, List.pairwise_append] at apart
        exact apart.2.1.2.2 slice (Option.mem_toList.mpr taken) wanted
          (Option.mem_toList.mpr wants)

/-- What a run holds is settled: its database and its slice first, then the client's slice. -/
theorem giveBack {pass : Pass} {course : Course} {before : Bench σ τ} {scene : Scene σ τ}
    (host : Host σ) (stands : pass.Stands before course scene)
    (custody : Custody cpus scene.bench scene.held.slices course.occupants) :
    Custody cpus (Pass.giveBack host scene.held scene.bench).2 [] [] := by
  obtain ⟨databaseStop, database⟩ := Pass.settle_stops host scene.held.database
    scene.held.databaseSlice scene.bench
  obtain ⟨clientStop, client⟩ := Pass.settle_stops host scene.held.client scene.held.clientSlice
    (Pass.settle host scene.held.database scene.held.databaseSlice scene.bench).2
  have withClient : Custody cpus
      (Pass.settle host scene.held.database scene.held.databaseSlice scene.bench).2
      (scene.held.clientSlice.toList ++ []) [] := by
    rw [List.append_nil]
    refine custody.stops database ?_
    intro occupant member
    obtain ⟨started, startedAt, own⟩ := List.mem_flatMap.mp member
    obtain ⟨slice, taken, rfl⟩ := List.mem_map.mp own
    rw [Option.mem_toList] at startedAt
    refine Or.inr ⟨?_, ?_⟩
    · rw [stands.database, startedAt]
      rfl
    · rw [← stands.databaseCpus started.spec (course.databaseSpec_of_database startedAt)]
      exact taken
  have settled : Custody cpus (Pass.settle host scene.held.client scene.held.clientSlice
      (Pass.settle host scene.held.database scene.held.databaseSlice scene.bench).2).2 [] [] :=
    withClient.stops client fun occupant member => by cases member
  have removed := Pass.removeDirectory_makes host scene.held.directory
    (Pass.settle host scene.held.client scene.held.clientSlice
      (Pass.settle host scene.held.database scene.held.databaseSlice scene.bench).2).2
  exact settled.neutral removed.calls removed.ledger fun event member => by cases member

theorem runToEnd (host : Host σ) (pass : Pass) (slices : Except Cpu.Error Slices)
    (custody : Custody cpus bench [] []) :
    Custody cpus (pass.runToEnd host slices bench).2 [] [] := by
  obtain ⟨course, stands, _⟩ := Pass.carryOut_course host pass slices bench
  exact giveBack host stands (custody.stands stands)

/-- A pass that begins with every reservation pinned by a deferred stop ends so. -/
theorem perform (collaborators : Collaborators σ τ) (settings : Settings) (job : Job)
    (slices : Except Cpu.Error Slices) (custody : Custody cpus bench [] []) :
    Custody cpus (Pass.perform collaborators settings job slices bench).2 [] [] := by
  have opening := Pass.opening_makes collaborators.host settings job bench
  have opened := custody.neutral opening.calls opening.ledger fun event member => by cases member
  rw [Pass.perform_eq, Action.bind_apply, Action.bind_apply]
  generalize (Pass.opening collaborators.host settings job bench).1 = pass
  have ended := opened.runToEnd collaborators.host pass slices
  obtain ⟨pushed, closing⟩ := Pass.closing_makes collaborators pass _
    (pass.runToEnd collaborators.host slices
      (Pass.opening collaborators.host settings job bench).2).2
  refine ended.neutral closing.calls closing.ledger fun event member => ?_
  obtain ⟨sink, _, rfl⟩ := List.mem_map.mp member
  exact ⟨rfl, fun _ => rfl⟩

theorem retryDeferred (host : Host σ) (custody : Custody cpus bench [] []) :
    Custody cpus (Slot.retryDeferred host bench).2 [] [] := by
  unfold Slot.retryDeferred
  rw [Action.bind_apply, Action.get_apply]
  cases bench.ledger.awaitsStops with
  | true => exact custody.retryStops host
  | false => exact custody

/-- A run of a suite is a pass, after the deferred stops were tried again. -/
theorem slot (collaborators : Collaborators σ τ) (settings : Settings) (build : Build)
    (suite : Suite) (slot : Slot) (custody : Custody cpus bench [] []) :
    Custody cpus (slot.perform collaborators settings build suite bench).2 [] [] := by
  cases slot with
  | unknown name =>
      have reported := Action.report_makes .topologyUnknown bench
      have named := reported.bind_quiet fun _ bench =>
        (Action.onHost_makes collaborators.host.newRunId bench).bind_quiet fun runId _ =>
          Action.Makes.pure (runId, suite.name, name)
      exact custody.neutral named.calls named.ledger fun event member => by cases member
  | planned topology position =>
      exact (custody.retryDeferred collaborators.host).perform collaborators settings _ _

/-- Once no stop is deferred the ledger is as it was at the beginning. -/
theorem ledger_of_settled (custody : Custody cpus bench [] [])
    (settled : bench.ledger.deferred = []) : bench.ledger = .ofPool cpus := by
  have live : bench.ledger.live = [] := by
    have accounts := custody.accounts
    unfold Cpu.Ledger.Accounts Cpu.Ledger.pinned at accounts
    rw [settled] at accounts
    exact accounts.eq_nil
  exact Cpu.Ledger.eq_ofPool custody.pool live settled

end Custody

end BuildBench.Run
