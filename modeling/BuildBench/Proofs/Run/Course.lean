import BuildBench.Proofs.Cpu.Ledger
import BuildBench.Proofs.Run.Calls
import BuildBench.Proofs.Run.Step

set_option autoImplicit false

/-! The course of a pass: how far its steps come, and whom they call on the way. Main statement:
wherever the steps stop, the calls that were made, the slices that were taken, and the sandboxes
that were noted for their end are those of one course. -/

namespace BuildBench.Run

open BuildBench.Definition BuildBench.Entry BuildBench.Files

structure Started where
  spec : Sandbox.Spec
  files : Tree
  handle : Sandbox.Handle

def Started.call (database : Started) : Event :=
  .launchDatabase database.spec database.files (.ok database.handle)

/-- How far the steps of a pass come. -/
inductive Course
  /-- No database was asked for. -/
  | unlaunched
  | launchFailed (spec : Sandbox.Spec) (files : Tree) (error : Sandbox.Error)
  | notReady (database : Started) (error : ProbeError)
  /-- The database was ready, and no client was asked for. -/
  | ready (database : Started)
  | clientFailed (database : Started) (spec : Sandbox.Spec) (files : Tree)
      (error : Sandbox.Error)
  /-- The client ran to its end, and the database was told to shut down. -/
  | measured (database : Started) (spec : Sandbox.Spec) (files : Tree)
      (output : Sandbox.ClientRun) (answer : Except ProbeError Unit)

namespace Course

def calls (layout : Layout) : Course → List Event
  | .unlaunched => []
  | .launchFailed spec files error => [.launchDatabase spec files (.error error)]
  | .notReady database error =>
      [database.call, .awaitReady layout.host layout.port (.error error)]
  | .ready database => [database.call, .awaitReady layout.host layout.port (.ok ())]
  | .clientFailed database spec files error =>
      [database.call, .awaitReady layout.host layout.port (.ok ()),
        .launchClient spec files (.error error)]
  | .measured database spec files output answer =>
      [database.call, .awaitReady layout.host layout.port (.ok ()),
        .launchClient spec files (.ok output), .shutdown layout.host layout.port answer]

def database? : Course → Option Started
  | .unlaunched | .launchFailed _ _ _ => none
  | .notReady database _ | .ready database | .clientFailed database _ _ _
  | .measured database _ _ _ _ => some database

def databaseSpec? : Course → Option Sandbox.Spec
  | .unlaunched => none
  | .launchFailed spec _ _ => some spec
  | .notReady database _ | .ready database | .clientFailed database _ _ _
  | .measured database _ _ _ _ => some database.spec

def clientSpec? : Course → Option Sandbox.Spec
  | .clientFailed _ spec _ _ | .measured _ spec _ _ _ => some spec
  | _ => none

theorem databaseSpec_of_database (course : Course) {database : Started}
    (started : database ∈ course.database?) : database.spec ∈ course.databaseSpec? := by
  cases course <;> cases started <;> rfl

/-- The end of a pass fits its course. If a call failed, the run fails with the error of that call;
if the client was not asked for, the run fails; and once the client has run, only its results can
make the run fail. -/
def Explains : Course → Except Error Report → Prop
  | .unlaunched, result => ∃ error, result = .error error
  | .launchFailed _ _ error, result => result = .error (.sandbox .database error)
  | .notReady _ error, result => result = .error (.probe error)
  | .ready _, result => ∃ error, result = .error (.tool error)
  | .clientFailed _ _ _ error, result => result = .error (.sandbox .client error)
  | .measured _ _ _ output _, .ok report => report.duration = output.duration
  | .measured _ _ _ _ _, .error error =>
      (∃ cause, error = .tool cause) ∨ ∃ cause, error = .results cause

end Course

def Held.slices (held : Held) : List Cpu.Slice :=
  held.databaseSlice.toList ++ held.clientSlice.toList

/-- Nothing was called between two scenes, and the ledger and what the run holds are the same, its
directory aside. -/
structure Scene.Quiet {σ τ : Type} (before after : Scene σ τ) : Prop where
  calls : after.bench.calls = before.bench.calls
  ledger : after.bench.ledger = before.bench.ledger
  databaseSlice : after.held.databaseSlice = before.held.databaseSlice
  clientSlice : after.held.clientSlice = before.held.clientSlice
  database : after.held.database = before.held.database
  client : after.held.client = before.held.client

namespace Scene.Quiet

variable {σ τ α : Type}

theorem refl (scene : Scene σ τ) : scene.Quiet scene :=
  ⟨rfl, rfl, rfl, rfl, rfl, rfl⟩

theorem trans {first middle last : Scene σ τ} (left : first.Quiet middle)
    (right : middle.Quiet last) : first.Quiet last where
  calls := right.calls.trans left.calls
  ledger := right.ledger.trans left.ledger
  databaseSlice := right.databaseSlice.trans left.databaseSlice
  clientSlice := right.clientSlice.trans left.clientSlice
  database := right.database.trans left.database
  client := right.client.trans left.client

theorem act (scene : Scene σ τ) {action : Action σ τ α}
    (makes : Action.Makes action scene.bench []) :
    scene.Quiet { scene with bench := (action scene.bench).2 } where
  calls := by rw [makes.calls, List.append_nil]
  ledger := makes.ledger
  databaseSlice := rfl
  clientSlice := rfl
  database := rfl
  client := rfl

end Scene.Quiet

namespace Pass

variable {σ τ : Type}

/-- The pass has come so far: the calls since `before` are those of a course, the ledger has taken
what the run holds, and the sandboxes that were started are noted. -/
structure Stands (pass : Pass) (before : Bench σ τ) (course : Course) (scene : Scene σ τ) :
    Prop where
  calls : scene.bench.calls = before.calls ++ course.calls pass.settings.layout
  ledger : before.ledger.Takes scene.bench.ledger scene.held.slices
  database : scene.held.database = course.database?.map Started.handle
  client : scene.held.client = course.clientSpec?.map fun _ => .completed
  databaseCpus : ∀ spec ∈ course.databaseSpec?, spec.cpus = scene.held.databaseSlice
  clientCpus : ∀ spec ∈ course.clientSpec?, spec.cpus = scene.held.clientSlice

theorem Stands.quiet {pass : Pass} {before : Bench σ τ} {course : Course} {scene after : Scene σ τ}
    (stands : pass.Stands before course scene) (quiet : scene.Quiet after) :
    pass.Stands before course after where
  calls := quiet.calls.trans stands.calls
  ledger := by
    unfold Held.slices
    rw [quiet.ledger, quiet.databaseSlice, quiet.clientSlice]
    exact stands.ledger
  database := quiet.database.trans stands.database
  client := quiet.client.trans stands.client
  databaseCpus := by rw [quiet.databaseSlice]; exact stands.databaseCpus
  clientCpus := by rw [quiet.clientSlice]; exact stands.clientCpus

/-! ### Steps that call nobody -/

section Quiet

variable (host : Host σ) (pass : Pass) (scene : Scene σ τ)

theorem makeDirectory_ends :
    Step.Ends (makeDirectory host pass) scene (fun _ => scene.Quiet) fun _ => scene.Quiet := by
  have named := Scene.Quiet.act scene (Action.onHost_makes host.directorySuffix _)
  refine Step.Ends.act_bind (Step.Ends.act_bind (Step.Ends.take_bind ?_ ?_))
  · intro value _made
    refine Step.Ends.hold_bind (Step.Ends.pure ?_)
    exact named.trans ((Scene.Quiet.act _ (Action.change_makes host _ _ _)).trans
      ⟨rfl, rfl, rfl, rfl, rfl, rfl⟩)
  · intro error _refused
    exact named.trans (Scene.Quiet.act _ (Action.change_makes host _ _ _))

theorem placeArtifacts_ends (directory : String) :
    Step.Ends (placeArtifacts host pass directory) scene (fun _ => scene.Quiet)
      fun _ => scene.Quiet := by
  have quiet := Scene.Quiet.act scene (Action.putInPlace_makes host _
    pass.job.build pass.job.build.artifacts directory)
  refine Step.Ends.act_bind (Step.Ends.take_bind ?_ fun _ _ => quiet)
  intro placed _written
  dsimp only
  split
  · exact Step.Ends.pure quiet
  · exact Step.Ends.throw quiet

theorem collectResults_ends (tool : Tool) (path stdout : String) :
    Step.Ends (collectResults host tool path stdout) scene (fun _ => scene.Quiet)
      fun error after => scene.Quiet after ∧
        ((∃ cause, error = .tool cause) ∨ ∃ cause, error = .results cause) := by
  have stored := Scene.Quiet.act scene
    (Action.storeResults_makes host _ tool path stdout)
  refine Step.Ends.act_bind (Step.Ends.take_bind ?_ ?_)
  · intro value _stored
    have read := stored.trans (Scene.Quiet.act _ (Action.inspect_makes host _ (.read path) id
      (·.content path)))
    exact Step.Ends.act_bind
      (Step.Ends.take (fun _ _ => read) fun cause _ => ⟨read, Or.inr ⟨cause, rfl⟩⟩)
  · intro cause _refused
    exact ⟨stored, Or.inl ⟨cause, rfl⟩⟩

end Quiet

/-! ### Steps that take something -/

theorem reserve_ends {α : Type} {slice : Cpu.Slice} {rest : Unit → Step σ τ α}
    {scene : Scene σ τ} {post : α → Scene σ τ → Prop} {failure : Error → Scene σ τ → Prop}
    (reserves : ∀ ledger, scene.bench.ledger.reserve slice = .ok ledger →
      Step.Ends (rest ()) { scene with bench := { scene.bench with ledger } } post failure)
    (fails : ∀ error, scene.bench.ledger.reserve slice = .error error →
      failure (.cpu error) scene) :
    Step.Ends (Step.act (Action.reserve slice) >>= fun answer => Step.take .cpu answer >>= rest)
      scene post failure := by
  apply Step.Ends.act_bind
  cases reserved : scene.bench.ledger.reserve slice with
  | error error =>
      rw [Action.reserve_error reserved]
      exact fails error reserved
  | ok ledger =>
      rw [Action.reserve_ok reserved]
      exact reserves ledger reserved

/-- When slices are refused, those that were granted before stay with the run. -/
theorem reserveSlices_ends (pass : Pass) (granted : Slices) (before : Bench σ τ) :
    Step.Ends (reserveSlices granted) { bench := before, held := .nothing }
      (fun _ after => pass.Stands before .unlaunched after ∧
        after.held.databaseSlice = some granted.database ∧
        after.held.clientSlice = granted.client)
      fun _ => pass.Stands before .unlaunched := by
  have nothing : before.ledger.Takes before.ledger [] := .nothing _
  have stands {bench : Bench σ τ} {database client : Option Cpu.Slice}
      (calls : bench.calls = before.calls)
      (takes : before.ledger.Takes bench.ledger (database.toList ++ client.toList)) :
      pass.Stands before .unlaunched
        { bench, held := { Held.nothing with databaseSlice := database, clientSlice := client } } :=
    { calls := by rw [calls]; exact (List.append_nil _).symm
      ledger := takes
      database := rfl
      client := rfl
      databaseCpus := by intro spec member; cases member
      clientCpus := by intro spec member; cases member }
  refine reserve_ends (fun ledger reserved => ?_) fun _ _ => stands rfl nothing
  have first := nothing.reserve reserved
  apply Step.Ends.hold_bind
  cases wanted : granted.client with
  | none => exact ⟨stands rfl first, rfl, rfl⟩
  | some slice =>
      refine reserve_ends (fun ledger reserved => ?_) fun _ _ => stands rfl first
      exact ⟨stands rfl (first.reserve reserved), rfl, rfl⟩

/-- A database that was started is noted before anything else can fail. -/
theorem launchDatabase_ends (host : Host σ) (pass : Pass) (directory : String) (slice : Cpu.Slice)
    {before : Bench σ τ} {scene : Scene σ τ} (stands : pass.Stands before .unlaunched scene)
    (cpus : scene.held.databaseSlice = some slice) :
    Step.Ends (launchDatabase host pass directory slice) scene
      (fun _ after => ∃ database, pass.Stands before (.ready database) after ∧
        after.held.clientSlice = scene.held.clientSlice)
      fun error after => ∃ course, pass.Stands before course after ∧
        course.Explains (.error error) := by
  have launched := Action.launchDatabase_makes host scene.bench
    (databaseSpec pass directory slice)
  have reached {course : Course} {bench : Bench σ τ} {handle : Option Sandbox.Handle}
      (calls : bench.calls = before.calls ++ course.calls pass.settings.layout)
      (ledger : bench.ledger = scene.bench.ledger)
      (database : handle = course.database?.map Started.handle)
      (spec : course.databaseSpec? = some (databaseSpec pass directory slice))
      (client : course.clientSpec? = none) :
      pass.Stands before course { bench, held := { scene.held with database := handle } } :=
    { calls := calls
      ledger := by rw [ledger]; exact stands.ledger
      database := database
      client := by rw [client]; exact stands.client
      databaseCpus := by
        rw [spec]
        intro given same
        rw [← Option.some.inj same]
        exact cpus.symm
      clientCpus := by rw [client]; intro given same; cases same }
  refine Step.Ends.act_bind (Step.Ends.take_bind ?_ ?_)
  · intro handle answer
    rw [answer] at launched
    have asked := Action.awaitReady_makes host
      (Action.launchDatabase host (databaseSpec pass directory slice) scene.bench).2
      pass.settings.layout.host pass.settings.layout.port
    let database : Started :=
      { spec := databaseSpec pass directory slice, files := scene.bench.files, handle }
    refine Step.Ends.hold_bind (Step.Ends.act_bind (Step.Ends.take ?_ ?_))
    · intro value ready
      rw [ready] at asked
      refine ⟨database, ?_, rfl⟩
      exact reached (by
        rw [asked.calls, launched.calls, stands.calls]
        simp [Course.calls, Started.call, database])
        (asked.ledger.trans launched.ledger) rfl rfl rfl
    · intro error failed
      rw [failed] at asked
      refine ⟨.notReady database error, ?_, rfl⟩
      exact reached (by
        rw [asked.calls, launched.calls, stands.calls]
        simp [Course.calls, Started.call, database])
        (asked.ledger.trans launched.ledger) rfl rfl rfl
  · intro error answer
    rw [answer] at launched
    refine ⟨.launchFailed (databaseSpec pass directory slice) scene.bench.files error, ?_, rfl⟩
    exact reached (by rw [launched.calls, stands.calls]; simp [Course.calls])
      launched.ledger stands.database rfl rfl

theorem clientSpec_cpus {pass : Pass} {tool : Tool} {directory : String}
    {slice : Option Cpu.Slice} {spec : Sandbox.Spec}
    (prepared : clientSpec pass tool directory slice = .ok spec) : spec.cpus = slice := by
  unfold clientSpec at prepared
  dsimp only at prepared
  split at prepared
  · cases prepared
  · rw [← Except.ok.inj prepared]

theorem clientSpec_error {pass : Pass} {tool : Tool} {directory : String}
    {slice : Option Cpu.Slice} {error : Error}
    (refused : clientSpec pass tool directory slice = .error error) :
    ∃ cause, error = .tool cause := by
  unfold clientSpec at refused
  dsimp only at refused
  split at refused
  · exact ⟨_, (Except.error.inj refused).symm⟩
  · cases refused

/-- The client's sandbox is noted whatever became of it. -/
theorem launchClient_ends (host : Host σ) (pass : Pass) (spec : Sandbox.Spec)
    {before : Bench σ τ} {database : Started} {scene : Scene σ τ}
    (stands : pass.Stands before (.ready database) scene)
    (cpus : spec.cpus = scene.held.clientSlice) :
    Step.Ends (launchClient host pass spec) scene
      (fun output after => ∃ files answer,
        pass.Stands before (.measured database spec files output answer) after)
      fun error after => ∃ course, pass.Stands before course after ∧
        course.Explains (.error error) := by
  have launched := Action.launchClient_makes host scene.bench spec
  have reached {course : Course} {bench : Bench σ τ}
      (calls : bench.calls = before.calls ++ course.calls pass.settings.layout)
      (ledger : bench.ledger = scene.bench.ledger)
      (same : course.database? = some database)
      (asked : course.databaseSpec? = some database.spec)
      (client : course.clientSpec? = some spec) :
      pass.Stands before course
        { bench, held := { scene.held with client := some .completed } } :=
    { calls := calls
      ledger := by rw [ledger]; exact stands.ledger
      database := by rw [same]; exact stands.database
      client := by rw [client]; rfl
      databaseCpus := by rw [asked]; exact stands.databaseCpus
      clientCpus := by
        rw [client]
        intro given equal
        rw [← Option.some.inj equal]
        exact cpus }
  refine Step.Ends.act_bind (Step.Ends.hold_bind (Step.Ends.take_bind ?_ ?_))
  · intro output answer
    rw [answer] at launched
    -- A notice that the client was quick may come before the shutdown.
    have told (bench : Bench σ τ)
        (calls : bench.calls = (Action.launchClient host spec scene.bench).2.calls)
        (ledger : bench.ledger = (Action.launchClient host spec scene.bench).2.ledger) :
        ∃ answer, pass.Stands before (.measured database spec scene.bench.files output answer)
          { bench := (Action.shutdown host pass.settings.layout.host pass.settings.layout.port
              bench).2
            held := { scene.held with client := some .completed } } := by
      obtain ⟨answer, shut⟩ := Action.shutdown_makes host bench pass.settings.layout.host
        pass.settings.layout.port
      refine ⟨answer, reached ?_ ?_ rfl rfl rfl⟩
      · rw [shut.calls, calls, launched.calls, stands.calls]
        simp [Course.calls]
      · rw [shut.ledger, ledger, launched.ledger]
    dsimp only
    split
    · have noted := Action.report_makes .shortBenchmark
        (Action.launchClient host spec scene.bench).2
      obtain ⟨answer, standing⟩ := told _ (by rw [noted.calls, List.append_nil]) noted.ledger
      exact Step.Ends.act_bind (Step.Ends.act_bind (Step.Ends.pure ⟨_, answer, standing⟩))
    · obtain ⟨answer, standing⟩ := told _ rfl rfl
      exact Step.Ends.act_bind (Step.Ends.pure ⟨_, answer, standing⟩)
  · intro error answer
    rw [answer] at launched
    refine ⟨.clientFailed database spec scene.bench.files error, ?_, rfl⟩
    exact reached (by rw [launched.calls, stands.calls]; simp [Course.calls])
      launched.ledger rfl rfl rfl

/-! ### All steps -/

/-- Wherever the steps of a pass stop, they have come some way on one course. -/
theorem carryOut_ends (host : Host σ) (pass : Pass) (slices : Except Cpu.Error Slices)
    (before : Bench σ τ) :
    Step.Ends (carryOut host pass slices) { bench := before, held := .nothing }
      (fun report after => ∃ course, pass.Stands before course after ∧
        course.Explains (.ok report))
      fun error after => ∃ course, pass.Stands before course after ∧
        course.Explains (.error error) := by
  have fails {error : Error} {after : Scene σ τ} (stands : pass.Stands before .unlaunched after) :
      ∃ course, pass.Stands before course after ∧ course.Explains (.error error) :=
    ⟨.unlaunched, stands, error, rfl⟩
  have untouched : pass.Stands before .unlaunched { bench := before, held := .nothing } :=
    { calls := (List.append_nil _).symm
      ledger := .nothing _
      database := rfl
      client := rfl
      databaseCpus := by intro spec member; cases member
      clientCpus := by intro spec member; cases member }
  -- Until the database is asked for, a failure leaves the course as it began.
  refine Step.Ends.take_bind ?_ fun _ _ => fails untouched
  intro granted _planned
  refine Step.Ends.bind _
    ((reserveSlices_ends pass granted before).weaken (fun _ _ => id) fun _ _ => fails) ?_
  rintro _ taken ⟨stands, databaseSlice, clientSlice⟩
  refine Step.Ends.take_bind ?_ fun _ _ => fails stands
  intro tool _chosen
  refine Step.Ends.bind _ ((makeDirectory_ends host pass taken).weaken (fun _ _ => id)
    fun _ _ quiet => fails (stands.quiet quiet)) ?_
  intro directory made quiet
  refine Step.Ends.bind _ ((placeArtifacts_ends host pass made directory).weaken
    (fun _ _ placed => quiet.trans placed)
    fun _ _ placed => fails (stands.quiet (quiet.trans placed))) ?_
  intro _ placed quiet
  refine Step.Ends.bind _ (launchDatabase_ends host pass directory granted.database
    (stands.quiet quiet) (quiet.databaseSlice.trans databaseSlice)) ?_
  rintro _ started ⟨database, stands, sameSlice⟩
  refine Step.Ends.take_bind ?_ ?_
  · intro spec prepared
    have cpus : spec.cpus = started.held.clientSlice := by
      rw [clientSpec_cpus prepared, sameSlice, quiet.clientSlice, clientSlice]
    refine Step.Ends.bind _ (launchClient_ends host pass spec stands cpus) ?_
    rintro output measured ⟨files, answer, stands⟩
    refine Step.Ends.bind _ ((collectResults_ends host measured tool _ output.stdout).weaken
      (fun _ _ => id) ?_) ?_
    · rintro error after ⟨quiet, cause⟩
      exact ⟨_, stands.quiet quiet, cause⟩
    · intro results after quiet
      exact Step.Ends.pure ⟨_, stands.quiet quiet, rfl⟩
  · intro error refused
    obtain ⟨cause, rfl⟩ := clientSpec_error refused
    exact ⟨_, stands, cause, rfl⟩

theorem carryOut_course (host : Host σ) (pass : Pass) (slices : Except Cpu.Error Slices)
    (before : Bench σ τ) :
    ∃ course,
      pass.Stands before course
        (carryOut host pass slices { bench := before, held := .nothing }).2 ∧
      course.Explains (carryOut host pass slices { bench := before, held := .nothing }).1 := by
  have ends := carryOut_ends host pass slices before
  unfold Step.Ends at ends
  cases ended : carryOut host pass slices { bench := before, held := .nothing } with
  | mk result after =>
      rw [ended] at ends
      cases result with
      | ok report => exact ends
      | error error => exact ends

end Pass

end BuildBench.Run
