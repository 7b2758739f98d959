import BuildBench.Proofs.Run.Parallel

set_option autoImplicit false

/-! Passes side by side. Where those who are called answer in the same way, passes for the same work
make the same calls, end in the same way, and leave equal ledgers. -/

namespace BuildBench.Run

open BuildBench.Definition BuildBench.Entry BuildBench.Files

variable {σ τ υ ω α β : Type} {settings : Settings} {left : Collaborators σ τ}
  {right : Collaborators υ ω}

namespace Pass

open Mirror

variable {mirror : Mirror settings left right} {pass other : Pass}

section Steps

variable {directories : Option (String × String)} {directory elsewhere : String}

theorem reserveSlices_steps (slices : Slices) :
    mirror.Steps pass other directories (reserveSlices slices) (reserveSlices slices)
      (Still directories) := by
  refine Steps.take_act_same _ (reserve_pairs _) fun _ => ?_
  refine (Steps.hold fun _ _ => rfl).bind fun _ _ after same => ?_
  obtain ⟨-, rfl⟩ := same
  cases slices.client with
  | none => exact Steps.pure ⟨rfl, rfl⟩
  | some slice =>
      exact Steps.take_act_same _ (reserve_pairs slice) fun _ => Steps.hold fun _ _ => rfl

theorem act_bind_apply (action : Action σ τ α) (next : α → Step σ τ β) (scene : Scene σ τ) :
    (Step.act action >>= next) scene =
      next (action scene.bench).1 { scene with bench := (action scene.bench).2 } :=
  rfl

theorem makeDirectory_eq (host : Host σ) (pass : Pass) :
    (makeDirectory host pass : Step σ τ String) = (do
      let path ← Step.take .directory (← Step.act (newDirectory host pass))
      Step.hold fun held => { held with directory := some path }
      return path) := by
  funext scene
  let path := joinPath pass.settings.workRoot
    (directoryMark ++ (Action.onHost host.directorySuffix scene.bench).1)
  let bench := (Action.onHost host.directorySuffix scene.bench).2
  change (Step.take .directory (Action.makeDirectory host path bench).1 >>= fun _ =>
    Step.hold (fun held => { held with directory := some path }) >>= fun _ => pure path)
      { scene with bench := (Action.makeDirectory host path bench).2 } =
    (Step.take .directory ((Action.makeDirectory host path bench).1.map fun _ => path) >>=
      fun path => Step.hold (fun held => { held with directory := some path }) >>=
      fun _ => pure path)
      { scene with bench := (Action.makeDirectory host path bench).2 }
  cases (Action.makeDirectory host path bench).1 <;> rfl

theorem newDirectory_makes (host : Host σ) (pass : Pass) (bench : Bench σ τ) :
    (newDirectory host pass).Makes bench [] :=
  (Action.onHost_makes _ _).bind_quiet fun _ bench =>
    (Action.change_makes host bench _ _).bind_quiet fun _ _ => .pure _

theorem makeDirectory_steps :
    mirror.Steps pass other none (makeDirectory left.host pass) (makeDirectory right.host other)
      fun directory elsewhere after => after = some (directory, elsewhere) := by
  rw [makeDirectory_eq, makeDirectory_eq]
  intro since scene opposite sees
  have made := mirror.newDirectory pass other _ _ sees.bench.ledger sees.bench.site
  have reached (directories : Option (String × String))
      (alike : mirror.Alike (.during pass other directories)
        (newDirectory left.host pass scene.bench).2.site
        (newDirectory right.host other opposite.bench).2.site) :
      mirror.On since (.during pass other directories) (newDirectory left.host pass scene.bench).2
        (newDirectory right.host other opposite.bench).2 :=
    sees.bench.after (newDirectory_makes left.host pass scene.bench)
      (newDirectory_makes right.host other opposite.bench) .nil alike
  rw [act_bind_apply, act_bind_apply]
  cases answer : (newDirectory left.host pass scene.bench).1 with
  | ok directory =>
      cases given : (newDirectory right.host other opposite.bench).1 with
      | ok elsewhere =>
          rw [answer, given] at made
          cases made with
          | ok alike =>
              refine ⟨some (directory, elsewhere), rfl, reached _ alike, rfl, ?_⟩
              change { opposite.held with directory := some elsewhere } = _
              rw [sees.held]
              rfl
      | error cause =>
          rw [answer, given] at made
          cases made
  | error cause =>
      cases given : (newDirectory right.host other opposite.bench).1 with
      | ok elsewhere =>
          rw [answer, given] at made
          cases made
      | error reason =>
          rw [answer, given] at made
          cases made with
          | error alike =>
              obtain ⟨rfl, alike⟩ := alike
              exact ⟨.same _, none, reached none alike, sees.directory, sees.held⟩

theorem putInPlace_pairs (build : Build) (names : List String) :
    mirror.Pairs (.during pass other (some (directory, elsewhere)))
      (putInPlace (Action.writeProgram left.host) build names directory)
      (putInPlace (Action.writeProgram right.host) build names elsewhere)
      (AnswersAlike (fun error cause => (Error.artifact error).Alike (.artifact cause))
        fun placed given => placed.map Prod.fst = given.map Prod.fst)
      (.during pass other (some (directory, elsewhere))) := by
  have written (payloads : List (String × Bytes)) :
      mirror.Pairs (.during pass other (some (directory, elsewhere)))
        (writeArtifacts (Action.writeProgram left.host) directory payloads)
        (writeArtifacts (Action.writeProgram right.host) elsewhere payloads)
        (AnswersAlike (fun error cause => (Error.artifact error).Alike (.artifact cause)) Eq)
        (.during pass other (some (directory, elsewhere))) := by
    induction payloads with
    | nil => exact .pure (.ok rfl)
    | cons payload rest ih =>
        refine Pairs.bind (Pairs.mirrored
          (mirror.writeProgram pass other directory elsewhere payload.1 payload.2)
          (fun bench => Action.change_makes _ bench _ _)
          fun bench => Action.change_makes _ bench _ _) fun answer given same => ?_
        cases same
        cases answer with
        | ok value => exact ih
        | error cause => exact .pure (.error (.unwritable (.artifact ..) cause))
  unfold putInPlace
  cases artifactPayloads build names with
  | error cause => exact .pure (.error (.same _))
  | ok payloads =>
      refine (written payloads).bind fun answer given answers => ?_
      cases answers with
      | error alike => exact .pure (.error alike)
      | ok same =>
          refine .pure (.ok ?_)
          simp [artifactPaths]

theorem placeArtifacts_steps (alike : pass.Alike other) :
    mirror.Steps pass other (some (directory, elsewhere)) (placeArtifacts left.host pass directory)
      (placeArtifacts right.host other elsewhere) (Still (some (directory, elsewhere))) := by
  unfold placeArtifacts
  rw [← alike.job, ← alike.settings]
  refine Steps.take_act (putInPlace_pairs _ _) fun placed given same => ?_
  have present : placed.any (·.1 == pass.settings.layout.serverArtifact) =
      given.any (·.1 == pass.settings.layout.serverArtifact) := by
    have names (files : List (String × String)) :
        files.any (·.1 == pass.settings.layout.serverArtifact) =
          (files.map Prod.fst).any (· == pass.settings.layout.serverArtifact) := by
      rw [List.any_map]
      rfl
    rw [names placed, names given, same]
  dsimp only
  rw [← present]
  split
  · exact Steps.pure ⟨rfl, rfl⟩
  · exact Steps.throw (.same _)

theorem launchDatabase_steps (alike : pass.Alike other) (slice : Cpu.Slice) :
    mirror.Steps pass other (some (directory, elsewhere))
      (launchDatabase left.host pass directory slice)
      (launchDatabase right.host other elsewhere slice) (Still (some (directory, elsewhere))) := by
  refine Steps.take_act_same _ (launchDatabase_pairs _ _ _ _ alike slice) fun handle => ?_
  refine (Steps.hold fun _ _ => rfl).bind fun _ _ after same => ?_
  obtain ⟨-, rfl⟩ := same
  rw [← alike.settings]
  refine (Steps.act (awaitReady_pairs _ _ _ _ _)).bind fun answer given after same => ?_
  obtain ⟨rfl, rfl⟩ := same
  exact Steps.take_same _ _

/-- Whether a client can be prepared does not depend on where the pass has its files. -/
theorem clientSpec_alike (alike : pass.Alike other) (tool : Tool) (directory elsewhere : String)
    (slice : Option Cpu.Slice) :
    AnswersAlike Error.Alike
      (fun spec given => pass.clientSpec tool directory slice = .ok spec ∧
        other.clientSpec tool elsewhere slice = .ok given)
      (pass.clientSpec tool directory slice) (other.clientSpec tool elsewhere slice) := by
  cases split : Tool.splitArguments other.job.suite.client.arguments with
  | error error =>
      have fails (given : Pass) (same : given.job = other.job) (directory : String) :
          given.clientSpec tool directory slice = .error (.tool error) := by
        simp only [clientSpec, Tool.prepare, same, split]
        rfl
      rw [fails pass alike.job, fails other rfl]
      exact .error (.same _)
  | ok extra =>
      have prepared (given : Pass) (same : given.job = other.job) (directory : String) :
          ∃ spec, given.clientSpec tool directory slice = .ok spec := by
        simp only [clientSpec, Tool.prepare, same, split]
        exact ⟨_, rfl⟩
      obtain ⟨spec, ready⟩ := prepared pass alike.job directory
      obtain ⟨given, likewise⟩ := prepared other rfl elsewhere
      rw [ready, likewise]
      exact .ok ⟨rfl, rfl⟩

theorem launchClient_steps (alike : pass.Alike other) {tool : Tool} {slice : Option Cpu.Slice}
    {spec given : Sandbox.Spec} (prepared : pass.clientSpec tool directory slice = .ok spec)
    (likewise : other.clientSpec tool elsewhere slice = .ok given) :
    mirror.Steps pass other (some (directory, elsewhere)) (launchClient left.host pass spec)
      (launchClient right.host other given) (Still (some (directory, elsewhere))) := by
  unfold launchClient
  rw [← alike.settings]
  refine (Steps.act (launchClient_pairs _ _ _ _ alike prepared likewise)).bind
    fun answer _ after same => ?_
  obtain ⟨rfl, rfl⟩ := same
  refine (Steps.hold fun _ _ => rfl).bind fun _ _ after same => ?_
  obtain ⟨-, rfl⟩ := same
  refine (Steps.take_same _ answer).bind fun output _ after same => ?_
  obtain ⟨rfl, rfl⟩ := same
  have ending : mirror.Steps pass other (some (directory, elsewhere))
      (do
        Step.act (Action.shutdown left.host pass.settings.layout.host pass.settings.layout.port)
        return output)
      (do
        Step.act (Action.shutdown right.host pass.settings.layout.host pass.settings.layout.port)
        return output) (Still (some (directory, elsewhere))) := by
    refine (Steps.act (shutdown_pairs _ _ _ _ _)).bind fun _ _ after same => ?_
    obtain ⟨-, rfl⟩ := same
    exact Steps.pure ⟨rfl, rfl⟩
  dsimp only
  split
  · refine (Steps.act (Pairs.report _)).bind fun _ _ after same => ?_
    obtain ⟨-, rfl⟩ := same
    exact ending
  · exact ending

theorem storeResults_pairs (alike : pass.Alike other) (tool : Tool) (stdout : String) :
    mirror.Pairs (.during pass other (some (directory, elsewhere)))
      (storeResults (Action.writeFile left.host) tool (joinPath directory pass.outputFile) stdout)
      (storeResults (Action.writeFile right.host) tool (joinPath elsewhere other.outputFile) stdout)
      (AnswersAlike (fun error cause => (Error.tool error).Alike (.tool cause)) Eq)
      (.during pass other (some (directory, elsewhere))) := by
  unfold storeResults
  cases tool.resultFile stdout with
  | error cause => exact .pure (.error (.same _))
  | ok result =>
      cases result with
      | none => exact .pure (.ok rfl)
      | some data =>
          refine Pairs.bind (Pairs.mirrored
            (mirror.writeResults pass other directory elsewhere data)
            (fun bench => Action.change_makes _ bench _ _)
            fun bench => Action.change_makes _ bench _ _) fun answer given same => ?_
          cases same
          cases answer with
          | ok value => exact .pure (.ok rfl)
          | error cause => exact .pure (.error (.unstored (.results alike ..) _))

theorem documentOf_alike {path other : String} (file : SameFile path other)
    (content : Except IoError Bytes) :
    AnswersAlike (fun error cause => (Error.results error).Alike (.results cause)) Eq
      (documentOf path content) (documentOf other content) := by
  cases content with
  | error cause => exact .error (.unreadable file cause)
  | ok data =>
      unfold documentOf
      cases read : Json.readBytes data with
      | some document =>
          simp only [read]
          exact .ok rfl
      | none =>
          simp only [read]
          exact .error (.malformed file documentDefect)

theorem collectResults_steps (alike : pass.Alike other) (tool : Tool) (stdout : String) :
    mirror.Steps pass other (some (directory, elsewhere))
      (collectResults left.host tool (joinPath directory pass.outputFile) stdout)
      (collectResults right.host tool (joinPath elsewhere other.outputFile) stdout)
      (Still (some (directory, elsewhere))) := by
  refine Steps.take_act (storeResults_pairs alike tool stdout) fun _ _ _ => ?_
  refine (Steps.act (Pairs.mirrored (mirror.results pass other directory elsewhere)
    (fun bench => Action.inspect_makes _ bench _ _ _)
    fun bench => Action.inspect_makes _ bench _ _ _)).bind fun content _ after same => ?_
  obtain ⟨rfl, rfl⟩ := same
  exact Steps.take (documentOf_alike (.results alike ..) content)

/-- All steps of two passes for the same work go together. -/
theorem carryOut_steps (alike : pass.Alike other) (slices : Except Cpu.Error Slices) :
    mirror.Steps pass other none (carryOut left.host pass slices) (carryOut right.host other slices)
      fun report given _ => report.Alike given := by
  refine (Steps.take_same _ slices).bind fun granted _ after same => ?_
  obtain ⟨rfl, rfl⟩ := same
  refine (reserveSlices_steps granted).bind fun _ _ after same => ?_
  obtain ⟨-, rfl⟩ := same
  rw [← alike.job]
  refine (Steps.take_same _ _).bind fun tool _ after same => ?_
  obtain ⟨rfl, rfl⟩ := same
  refine makeDirectory_steps.bind fun directory elsewhere after same => ?_
  cases same
  refine (placeArtifacts_steps alike).bind fun _ _ after same => ?_
  obtain ⟨-, rfl⟩ := same
  refine (launchDatabase_steps alike granted.database).bind fun _ _ after same => ?_
  obtain ⟨-, rfl⟩ := same
  refine (Steps.take (clientSpec_alike alike tool directory elsewhere granted.client)).bind
    fun spec given after prepared => ?_
  obtain ⟨⟨prepared, likewise⟩, rfl⟩ := prepared
  refine (launchClient_steps alike prepared likewise).bind fun output _ after same => ?_
  obtain ⟨rfl, rfl⟩ := same
  refine (collectResults_steps alike tool output.stdout).bind fun results _ after same => ?_
  obtain ⟨rfl, rfl⟩ := same
  exact Steps.pure ⟨rfl, rfl, rfl, rfl, pass, other, alike, rfl, rfl⟩

end Steps

/-! ### Whole passes -/

theorem settle_pairs {place : Place} (handle : Option Sandbox.Handle) (slice : Option Cpu.Slice) :
    mirror.Pairs place (settle left.host handle slice) (settle right.host handle slice) Eq
      place := by
  cases handle with
  | none => exact .ledgers (·.releaseAll slice.toList)
  | some handle => exact stopped_pairs handle slice.toList .stopFailed

theorem removeDirectory_pairs (directories : Option (String × String)) :
    mirror.Pairs (.during pass other directories)
      (removeDirectory left.host (directories.map Prod.fst))
      (removeDirectory right.host (directories.map Prod.snd)) Eq (.during pass other none) := by
  cases directories with
  | none => exact .pure rfl
  | some directories =>
      have removed : mirror.Pairs (.during pass other (some directories))
          (Action.removeDirectory left.host directories.1)
          (Action.removeDirectory right.host directories.2) Eq (.during pass other none) :=
        Pairs.quiet (mirror.removeDirectory pass other directories.1 directories.2)
          (fun bench => Action.change_makes _ bench _ _)
          (fun bench => Action.change_makes _ bench _ _) fun _ _ _ _ holds => holds
      refine removed.bind fun answer given same => ?_
      cases same
      cases answer with
      | ok value => exact .pure rfl
      | error cause => exact .report _

theorem giveBack_pairs (held : Held) {directories : Option (String × String)}
    (directory : held.directory = directories.map Prod.fst) :
    mirror.Pairs (.during pass other directories) (giveBack left.host held)
      (giveBack right.host { held with directory := directories.map Prod.snd }) Eq
      (.during pass other none) := by
  refine (settle_pairs held.database held.databaseSlice).bind fun _ _ _ => ?_
  refine (settle_pairs held.client held.clientSlice).bind fun _ _ _ => ?_
  rw [directory]
  exact removeDirectory_pairs directories

theorem runToEnd_pairs (alike : pass.Alike other) (slices : Except Cpu.Error Slices) :
    mirror.Pairs (.during pass other none) (runToEnd left.host pass slices)
      (runToEnd right.host other slices) ResultsAlike (.during pass other none) := by
  intro since bench opposite on
  have together := carryOut_steps alike slices since { bench, held := .nothing }
    { bench := opposite, held := .nothing } ⟨on, rfl, rfl⟩
  -- Errors may come from any step, so what is held then is known only to be the same on both sides.
  have returned {scene : Scene σ τ} {final : Scene υ ω} {directories : Option (String × String)}
      (sees : mirror.Sees since pass other directories scene final) :
      mirror.On since (.during pass other none) (giveBack left.host scene.held scene.bench).2
        (giveBack right.host final.held final.bench).2 := by
    rw [sees.held]
    exact (giveBack_pairs scene.held sees.directory since _ _ sees.bench).2
  unfold runToEnd
  cases ended : carryOut left.host pass slices { bench, held := .nothing } with
  | mk result scene =>
      cases answered : carryOut right.host other slices { bench := opposite, held := .nothing } with
      | mk answer final =>
          rw [ended, answered] at together
          cases result with
          | ok report =>
              cases answer with
              | ok given =>
                  obtain ⟨after, reports, sees⟩ := together
                  exact ⟨.ok reports, returned sees⟩
              | error cause => exact together.elim
          | error error =>
              cases answer with
              | ok given => exact together.elim
              | error cause =>
                  obtain ⟨errors, after, sees⟩ := together
                  exact ⟨.error errors, returned sees⟩

theorem closing_pairs (alike : pass.Alike other) {result given : Except Error Report}
    (results : ResultsAlike result given) :
    mirror.Pairs (.during pass other none) (closing left pass result) (closing right other given)
      Outcome.Alike .between := by
  have outcomes : (pass.outcome result).Alike (other.outcome given) :=
    ⟨congrArg (·.suite.name) alike.job, congrArg (·.topology.name) alike.job, results⟩
  have told : mirror.Pairs (.during pass other none)
      (do
        Action.push left (pass.summary (pass.outcome result))
        return pass.outcome result)
      (do
        Action.push right (other.summary (other.outcome given))
        return other.outcome given) Outcome.Alike .between := by
    refine (push_pairs pass other alike results).bind fun _ _ _ => ?_
    exact fun since bench opposite on =>
      ⟨outcomes, mirror.closing pass other _ _ on.site, on.ledger, on.calls⟩
  cases results with
  | ok reports => exact told
  | error errors => exact (Pairs.report .runFailed).bind fun _ _ _ => told

theorem perform_pairs (mirror : Mirror settings left right) (job : Job)
    (slices : Except Cpu.Error Slices) :
    mirror.Pairs .between (perform left settings job slices) (perform right settings job slices)
      Outcome.Alike .between := by
  intro since bench opposite on
  have opened := on.after (opening_makes left.host settings job bench)
    (opening_makes right.host settings job opposite) .nil (mirror.opening job _ _ on.ledger on.site)
  have alike : Pass.Alike (opening left.host settings job bench).1
      (opening right.host settings job opposite).1 := ⟨rfl, rfl⟩
  obtain ⟨results, ended⟩ := runToEnd_pairs alike slices since _ _ opened
  exact closing_pairs alike results since _ _ ended

end Pass

/-! ### Runs of a suite -/

namespace Slot

variable (mirror : Mirror settings left right) (build : Build) (suite : Suite)

theorem perform_pairs (slot : Slot) :
    mirror.Pairs .between (perform left settings build suite slot)
      (perform right settings build suite slot) Outcome.Alike .between := by
  cases slot with
  | unknown name =>
      refine (Mirror.Pairs.report .topologyUnknown).bind fun _ _ _ => ?_
      have named : mirror.Pairs .between (Action.onHost left.host.newRunId)
          (Action.onHost right.host.newRunId) (fun _ _ => True) .between :=
        Mirror.Pairs.quiet mirror.name (Action.onHost_makes _) (Action.onHost_makes _)
          fun _ _ _ _ site => ⟨trivial, site⟩
      exact named.bind fun _ _ _ => .pure ⟨rfl, rfl, .error (.same _)⟩
  | planned topology position =>
      exact Mirror.retryDeferred_pairs.bind fun _ _ _ => Pass.perform_pairs mirror _ _

theorem performAll_pairs (slots : List Slot) :
    mirror.Pairs .between (performAll left settings build suite slots)
      (performAll right settings build suite slots) (List.Forall₂ Outcome.Alike) .between := by
  induction slots with
  | nil => exact .pure .nil
  | cons slot rest ih =>
      refine (perform_pairs mirror build suite slot).bind fun outcome given alike => ?_
      exact ih.bind fun outcomes others likewise => .pure (.cons alike likewise)

end Slot

end BuildBench.Run
