import BuildBench.Proofs.Run.Custody
import BuildBench.Proofs.Run.Lifecycle
import BuildBench.Proofs.Run.Positions

set_option autoImplicit false

/-! Which CPUs the runs of a suite are made on. Main statement: whatever anyone answers, and
whatever becomes of the runs, each sandbox of the run for a topology is launched on the slice that
was planned for it from the suite and the catalog alone. -/

namespace BuildBench.Run

open BuildBench.Definition BuildBench.Entry BuildBench.Files

variable {σ τ : Type}

def Event.isLaunch : Event → Bool
  | .launchDatabase _ _ _ | .launchClient _ _ _ => true
  | _ => false

/-- Sandboxes are launched on the slices of a run: the database first and then the client. If there
are no slices, nothing is launched. -/
structure LaunchesOn (slices : Option Slices) (made : List Event) : Prop where
  database : ∀ spec files answer, .launchDatabase spec files answer ∈ made →
    ∃ granted, slices = some granted ∧ spec.cpus = some granted.database
  client : ∀ spec files answer, .launchClient spec files answer ∈ made →
    ∃ granted, slices = some granted ∧ spec.cpus = granted.client
  wanted : made.filterMap Event.wanted? <+: slices.toList.flatMap Slices.inOrder

/-- Nothing is launched. -/
def Quiet (made : List Event) : Prop :=
  ∀ event ∈ made, event.isLaunch = false

theorem Quiet.nil : Quiet [] := by
  intro event member
  cases member

theorem Quiet.append {made others : List Event} (first : Quiet made) (rest : Quiet others) :
    Quiet (made ++ others) := by
  intro event member
  rcases List.mem_append.mp member with earlier | later
  · exact first event earlier
  · exact rest event later

theorem Quiet.wanted {made : List Event} (quiet : Quiet made) :
    made.filterMap Event.wanted? = [] := by
  apply List.filterMap_eq_nil_iff.mpr
  intro event member
  have silent := quiet event member
  cases event <;> first | rfl | cases silent

namespace LaunchesOn

variable {slices : Option Slices} {first made last : List Event}

theorem of_quiet (quiet : Quiet made) : LaunchesOn slices made where
  database := by
    intro spec files answer member
    cases quiet _ member
  client := by
    intro spec files answer member
    cases quiet _ member
  wanted := by
    rw [quiet.wanted]
    exact List.nil_prefix

theorem between (launches : LaunchesOn slices made) (before : Quiet first) (after : Quiet last) :
    LaunchesOn slices (first ++ made ++ last) where
  database := by
    intro spec files answer member
    rcases List.mem_append.mp member with member | late
    · rcases List.mem_append.mp member with early | own
      · cases before _ early
      · exact launches.database spec files answer own
    · cases after _ late
  client := by
    intro spec files answer member
    rcases List.mem_append.mp member with member | late
    · rcases List.mem_append.mp member with early | own
      · cases before _ early
      · exact launches.client spec files answer own
    · cases after _ late
  wanted := by
    rw [List.filterMap_append, List.filterMap_append, before.wanted, after.wanted, List.nil_append,
      List.append_nil]
    exact launches.wanted

end LaunchesOn

/-! ### Courses -/

namespace Course

variable {course : Course} {layout : Layout} {spec : Sandbox.Spec} {files : Tree}

theorem databaseSpec_of_launch {answer : Except Sandbox.Error Sandbox.Handle}
    (launched : .launchDatabase spec files answer ∈ course.calls layout) :
    spec ∈ course.databaseSpec? := by
  cases course <;> simp_all [calls, Started.call, databaseSpec?]

theorem clientSpec_of_launch {answer : Except Sandbox.Error Sandbox.ClientRun}
    (launched : .launchClient spec files answer ∈ course.calls layout) :
    spec ∈ course.clientSpec? := by
  cases course <;> simp_all [calls, Started.call, clientSpec?]

theorem filterMap_wanted_cons (event : Event) (rest : List Event) :
    (event :: rest).filterMap Event.wanted? =
      event.wanted?.toList ++ rest.filterMap Event.wanted? := by
  rw [List.filterMap_cons]
  cases event.wanted? <;> rfl

theorem calls_wanted (course : Course) (layout : Layout) :
    (course.calls layout).filterMap Event.wanted? =
      (course.databaseSpec?.bind (·.cpus)).toList ++ (course.clientSpec?.bind (·.cpus)).toList := by
  cases course <;>
    simp only [calls, Started.call, databaseSpec?, clientSpec?, filterMap_wanted_cons,
      List.filterMap_nil, Event.wanted?, Option.bind_some, Option.bind_none, Option.toList_none,
      List.append_nil, List.nil_append]

/-- If the sandboxes of a course have the CPUs of a run's slices, they are launched on these. -/
theorem launchesOn {granted : Slices} (course : Course) (layout : Layout)
    (database : ∀ spec ∈ course.databaseSpec?, spec.cpus = some granted.database)
    (client : ∀ spec ∈ course.clientSpec?, spec.cpus = granted.client) :
    LaunchesOn (some granted) (course.calls layout) where
  database := by
    intro spec files answer launched
    exact ⟨granted, rfl, database spec (databaseSpec_of_launch launched)⟩
  client := by
    intro spec files answer launched
    exact ⟨granted, rfl, client spec (clientSpec_of_launch launched)⟩
  wanted := by
    rw [calls_wanted, Option.toList_some, List.flatMap_singleton]
    cases asked : course.databaseSpec? with
    | none =>
        have unasked : course.clientSpec? = none := by
          cases course <;> first | rfl | cases asked
        rw [unasked]
        exact List.nil_prefix
    | some spec =>
        have first : (some spec).bind (·.cpus) = some granted.database := database spec asked
        rw [first]
        cases follows : course.clientSpec? with
        | none => exact List.prefix_append [granted.database] granted.client.toList
        | some other =>
            have second : (some other).bind (·.cpus) = granted.client := client other follows
            rw [second]
            exact List.prefix_rfl

end Course

/-! ### Passes -/

/-- The run has reserved its slices. -/
structure Scene.Equipped (granted : Slices) (scene : Scene σ τ) : Prop where
  database : scene.held.databaseSlice = some granted.database
  client : scene.held.clientSlice = granted.client

theorem Scene.Equipped.quiet {granted : Slices} {before after : Scene σ τ}
    (equipped : before.Equipped granted) (quiet : before.Quiet after) : after.Equipped granted where
  database := quiet.databaseSlice.trans equipped.database
  client := quiet.clientSlice.trans equipped.client

namespace Pass

theorem launchDatabase_equipped (host : Host σ) (pass : Pass) (directory : String)
    (slice : Cpu.Slice) {granted : Slices} {scene : Scene σ τ} (equipped : scene.Equipped granted) :
    Step.Ends (launchDatabase host pass directory slice) scene (fun _ => Scene.Equipped granted)
      fun _ => Scene.Equipped granted := by
  have same {bench : Bench σ τ} {handle : Option Sandbox.Handle} :
      Scene.Equipped granted { bench, held := { scene.held with database := handle } } :=
    ⟨equipped.database, equipped.client⟩
  refine Step.Ends.act_bind (Step.Ends.take_bind (fun handle _ => ?_) fun _ _ => same)
  exact Step.Ends.hold_bind (Step.Ends.act_bind
    (Step.Ends.take (fun _ _ => same) fun _ _ => same))

theorem launchClient_equipped (host : Host σ) (pass : Pass) (spec : Sandbox.Spec)
    {granted : Slices} {scene : Scene σ τ} (equipped : scene.Equipped granted) :
    Step.Ends (launchClient host pass spec) scene (fun _ => Scene.Equipped granted)
      fun _ => Scene.Equipped granted := by
  have same {bench : Bench σ τ} :
      Scene.Equipped granted { bench, held := { scene.held with client := some .completed } } :=
    ⟨equipped.database, equipped.client⟩
  refine Step.Ends.act_bind (Step.Ends.hold_bind
    (Step.Ends.take_bind (fun output _ => ?_) fun _ _ => same))
  dsimp only
  split
  · exact Step.Ends.act_bind (Step.Ends.act_bind (Step.Ends.pure same))
  · exact Step.Ends.act_bind (Step.Ends.pure same)

/-- The steps of a pass call somebody only when the run has reserved all its slices. -/
theorem carryOut_equipped (host : Host σ) (pass : Pass) (granted : Slices) (before : Bench σ τ) :
    let last := (carryOut host pass (.ok granted) { bench := before, held := .nothing }).2
    last.bench.calls = before.calls ∨ last.Equipped granted := by
  let Fits (after : Scene σ τ) : Prop := after.bench.calls = before.calls ∨ after.Equipped granted
  change Fits _
  apply Step.Ends.last
  have equips {after : Scene σ τ} (equipped : after.Equipped granted) : Fits after :=
    Or.inr equipped
  refine Step.Ends.take_bind (fun given same => ?_) fun error failed => by cases failed
  cases same
  refine Step.Ends.bind _ ((reserveSlices_ends pass granted before).weaken (fun _ _ => id)
    fun _ after stands => Or.inl (stands.calls.trans (List.append_nil _))) ?_
  rintro _ taken ⟨_, database, client⟩
  have equipped : taken.Equipped granted := ⟨database, client⟩
  refine Step.Ends.take_bind (fun tool _ => ?_) fun _ _ => equips equipped
  refine Step.Ends.bind _ ((makeDirectory_ends host pass taken).weaken
    (fun _ _ => equipped.quiet) fun _ _ quiet => equips (equipped.quiet quiet)) ?_
  intro directory made equipped
  refine Step.Ends.bind _ ((placeArtifacts_ends host pass made directory).weaken
    (fun _ _ => equipped.quiet) fun _ _ quiet => equips (equipped.quiet quiet)) ?_
  intro _ placed equipped
  refine Step.Ends.bind _ ((launchDatabase_equipped host pass directory granted.database
    equipped).weaken (fun _ _ => id) fun _ _ => equips) ?_
  intro _ started equipped
  refine Step.Ends.take_bind (fun spec _ => ?_) fun _ _ => equips equipped
  refine Step.Ends.bind _ ((launchClient_equipped host pass spec equipped).weaken
    (fun _ _ => id) fun _ _ => equips) ?_
  intro output measured equipped
  refine Step.Ends.bind _ ((collectResults_ends host measured tool _ output.stdout).weaken
    (fun _ _ => equipped.quiet) fun _ _ failed => equips (equipped.quiet failed.1)) ?_
  intro results last equipped
  exact Step.Ends.pure (equips equipped)

theorem carryOut_launches (host : Host σ) (pass : Pass) (slices : Except Cpu.Error Slices)
    (before : Bench σ τ) :
    ∃ made, (carryOut host pass slices { bench := before, held := .nothing }).2.bench.calls =
        before.calls ++ made ∧ LaunchesOn slices.toOption made := by
  cases slices with
  | error error => exact ⟨[], (List.append_nil _).symm, .of_quiet .nil⟩
  | ok granted =>
      obtain ⟨course, stands, _⟩ := carryOut_course host pass (.ok granted) before
      refine ⟨_, stands.calls, ?_⟩
      -- A pass that could not reserve its slices calls nobody, so it launches nothing elsewhere.
      rcases carryOut_equipped host pass granted before with untouched | equipped
      · have none : course.calls pass.settings.layout = [] := by
          have calls := stands.calls
          rw [untouched] at calls
          exact List.self_eq_append_right.mp calls
        rw [none]
        exact .of_quiet .nil
      · refine course.launchesOn _ ?_ ?_
        · intro spec asked
          rw [stands.databaseCpus spec asked, equipped.database]
        · intro spec asked
          rw [stands.clientCpus spec asked, equipped.client]

/-- After its steps a pass calls nobody but for stops, and to tell the metrics store. -/
theorem perform_ends {kind : Event → Prop} (collaborators : Collaborators σ τ)
    (settings : Settings) (job : Job) (slices : Except Cpu.Error Slices) (bench : Bench σ τ)
    (stops : ∀ handle answer, kind (.stop handle answer))
    (pushes : ∀ outcome answer,
      kind (.push ((opening collaborators.host settings job bench).1.summary outcome) answer)) :
    (carryOut collaborators.host (opening collaborators.host settings job bench).1 slices
      { bench := (opening collaborators.host settings job bench).2, held := .nothing }).2.bench.Adds
      kind (perform collaborators settings job slices bench).2 := by
  let pass := (opening collaborators.host settings job bench).1
  let start := (opening collaborators.host settings job bench).2
  let last := (carryOut collaborators.host pass slices { bench := start, held := .nothing }).2
  obtain ⟨databaseStop, clientStop, stopped, -⟩ := giveBack_stops collaborators.host last.held
    last.bench
  obtain ⟨pushed, closed⟩ := closing_makes collaborators pass
    (runToEnd collaborators.host pass slices start).1
    (runToEnd collaborators.host pass slices start).2
  have calls : (perform collaborators settings job slices bench).2.calls = last.bench.calls ++
      stopCalls last.held.database databaseStop ++ stopCalls last.held.client clientStop ++
        collaborators.sink.toList.map fun _ => .push
          (pass.summary (pass.outcome (runToEnd collaborators.host pass slices start).1))
          pushed := by
    rw [perform_eq, Action.bind_apply, Action.bind_apply, closed.calls]
    change (giveBack collaborators.host last.held last.bench).2.calls ++ _ = _
    rw [stopped]
  rw [List.append_assoc, List.append_assoc] at calls
  refine ⟨_, calls, ?_⟩
  intro event member
  rcases List.mem_append.mp member with database | member
  · obtain ⟨handle, -, rfl⟩ := List.mem_map.mp database
    exact stops handle databaseStop
  rcases List.mem_append.mp member with client | told
  · obtain ⟨handle, -, rfl⟩ := List.mem_map.mp client
    exact stops handle clientStop
  · obtain ⟨_, -, rfl⟩ := List.mem_map.mp told
    exact pushes _ pushed

theorem perform_closes (collaborators : Collaborators σ τ) (settings : Settings) (job : Job)
    (slices : Except Cpu.Error Slices) (bench : Bench σ τ) :
    (carryOut collaborators.host (opening collaborators.host settings job bench).1 slices
      { bench := (opening collaborators.host settings job bench).2, held := .nothing }).2.bench.Adds
      (fun event => event.isLaunch = false)
      (perform collaborators settings job slices bench).2 :=
  perform_ends collaborators settings job slices bench (fun _ _ => rfl) fun _ _ => rfl

theorem perform_launches (collaborators : Collaborators σ τ) (settings : Settings) (job : Job)
    (slices : Except Cpu.Error Slices) (bench : Bench σ τ) :
    ∃ made, (perform collaborators settings job slices bench).2.calls = bench.calls ++ made ∧
      LaunchesOn slices.toOption made := by
  have opened := opening_makes collaborators.host settings job bench
  obtain ⟨made, ran, launches⟩ := carryOut_launches collaborators.host
    (opening collaborators.host settings job bench).1 slices
    (opening collaborators.host settings job bench).2
  obtain ⟨later, closed, quiet⟩ := perform_closes collaborators settings job slices bench
  refine ⟨[] ++ made ++ later, ?_, launches.between .nil quiet⟩
  rw [closed, ran, opened.calls]
  simp only [List.append_nil, List.nil_append, List.append_assoc]

end Pass

/-! ### Suites -/

namespace Slot

section Suite

variable (collaborators : Collaborators σ τ) (settings : Settings) (build : Build) (suite : Suite)

theorem perform_launches (slot : Slot) (bench : Bench σ τ) :
    ∃ made, (slot.perform collaborators settings build suite bench).2.calls = bench.calls ++ made ∧
      LaunchesOn (slot.slices? suite.client) made := by
  cases slot with
  | unknown name =>
      exact ⟨[], (Action.report_makes .topologyUnknown bench).calls, .of_quiet .nil⟩
  | planned topology position =>
      obtain ⟨retried, calls, stops⟩ := retryDeferred_calls collaborators.host bench
      obtain ⟨made, performed, launches⟩ := Pass.perform_launches collaborators settings
        { build, suite, topology } (plan topology suite.client position).slices
        (retryDeferred collaborators.host bench).2
      have quiet : Quiet retried := by
        intro event member
        obtain ⟨_, _, rfl⟩ := stops event member
        rfl
      refine ⟨_, ?_, launches.between quiet .nil⟩
      rw [List.append_nil, ← List.append_assoc, ← calls]
      exact performed

theorem performAll_append (first rest : List Slot) (bench : Bench σ τ) :
    (performAll collaborators settings build suite (first ++ rest) bench).2 =
      (performAll collaborators settings build suite rest
        (performAll collaborators settings build suite first bench).2).2 := by
  induction first generalizing bench with
  | nil => rfl
  | cons slot others ih => exact ih _

/-- What is launched for several runs is launched on their slices, in their order. -/
theorem performAll_wanted (slots : List Slot) (bench : Bench σ τ) :
    ∃ made, (performAll collaborators settings build suite slots bench).2.calls =
        bench.calls ++ made ∧
      (made.filterMap Event.wanted?).Sublist
        (slots.flatMap fun slot => (slot.slices? suite.client).toList.flatMap Slices.inOrder) := by
  induction slots generalizing bench with
  | nil => exact ⟨[], (List.append_nil _).symm, List.nil_sublist _⟩
  | cons slot rest ih =>
      obtain ⟨made, performed, launches⟩ := perform_launches collaborators settings build suite slot
        bench
      obtain ⟨others, calls, wanted⟩ := ih
        (slot.perform collaborators settings build suite bench).2
      refine ⟨made ++ others, ?_, ?_⟩
      · rw [← List.append_assoc, ← performed]
        exact calls
      · rw [List.filterMap_append, List.flatMap_cons]
        exact launches.wanted.sublist.append wanted

end Suite

/-- The positions of a suite start at zero. Each run is made at the position of its topology, whose
turn moves the position on, by nothing but what the suite and the catalog ask for. In every
environment the run launches its sandboxes on the slices of that turn, and the slices of all
launches for the suite start in ascending order and have no index in common. -/
theorem performAll_positions (catalog : Catalog) (suite : Suite) :
    positionAt catalog suite 0 = 0 ∧
    (∀ index name, suite.topologies[index]? = some name →
      (slots catalog suite)[index]? =
        some (slotAt catalog (positionAt catalog suite index) name) ∧
      ∃ slices,
        Turn catalog suite.client (positionAt catalog suite index) name slices
          (positionAt catalog suite (index + 1)) ∧
        ∀ (σ τ : Type) (collaborators : Collaborators σ τ) (settings : Settings) (build : Build)
          (bench : Bench σ τ),
          let after (count : Nat) : Bench σ τ := (performAll collaborators settings build suite
            ((slots catalog suite).take count) bench).2
          ∃ made, (after (index + 1)).calls = (after index).calls ++ made ∧
            LaunchesOn slices made) ∧
    ∀ (σ τ : Type) (collaborators : Collaborators σ τ) (settings : Settings) (build : Build)
      (bench : Bench σ τ),
      ∃ made,
        (performAll collaborators settings build suite (slots catalog suite) bench).2.calls =
          bench.calls ++ made ∧
        (made.filterMap Event.wanted?).Pairwise fun earlier later =>
          earlier.start < later.start ∧ earlier.indices.Disjoint later.indices := by
  refine ⟨rfl, ?_, ?_⟩
  · intro index name named
    refine ⟨slots_getElem? named,
      (slotAt catalog (positionAt catalog suite index) name).slices? suite.client, ?_, ?_⟩
    · rw [positionAt_succ named]
      exact slotAt_turn (positionAt catalog suite index) name
    · intro σ τ collaborators settings build bench after
      let slot := slotAt catalog (positionAt catalog suite index) name
      have next : after (index + 1) =
          (slot.perform collaborators settings build suite (after index)).2 := by
        change (performAll collaborators settings build suite _ bench).2 = _
        rw [List.take_add_one, slots_getElem? named, Option.toList_some, performAll_append]
        rfl
      rw [next]
      exact perform_launches collaborators settings build suite slot (after index)
  · intro σ τ collaborators settings build bench
    obtain ⟨made, calls, wanted⟩ := performAll_wanted collaborators settings build suite
      (slots catalog suite) bench
    exact ⟨made, calls, List.Pairwise.sublist wanted (slots_spans catalog suite).increasing⟩

def rehearsedCatalog : Catalog where
  source := none
  topologies := [Pass.rehearsedJob.topology]

def rehearsedSuite : Suite :=
  { Pass.rehearsedJob.suite with topologies := ["missing", "one", "one"] }

theorem performAll_positions_rehearsed :
    let after (count : Nat) : Bench Rehearsal.Script Unit :=
      (performAll { host := Rehearsal.host ⟨0, 0⟩, sink := none } (.usual "/work" "bench" 8)
        Pass.rehearsedJob.build rehearsedSuite ((slots rehearsedCatalog rehearsedSuite).take count)
        (.start .start () .empty 8)).2
    ∃ slices, Turn rehearsedCatalog rehearsedSuite.client 1 "one" slices 2 ∧
      ∃ made, (after 3).calls = (after 2).calls ++ made ∧ LaunchesOn slices made := by
  have positions : positionAt rehearsedCatalog rehearsedSuite 2 = 1 ∧
      positionAt rehearsedCatalog rehearsedSuite 3 = 2 := by
    decide
  obtain ⟨_, slices, turn, launches⟩ :=
    (performAll_positions rehearsedCatalog rehearsedSuite).2.1 2 "one" rfl
  rw [positions.1, positions.2] at turn
  exact ⟨slices, turn, launches _ _ _ _ _ _⟩

end Slot

end BuildBench.Run
