import BuildBench.Proofs.Files.Listing
import BuildBench.Proofs.Run.Artifacts
import BuildBench.Proofs.Run.Directory
import BuildBench.Proofs.Run.Preparation

set_option autoImplicit false

/-! The artifacts of a build in the directory of a run. Main statements: whenever a database is
launched, the directory that it is given holds exactly the declared artifacts, each an executable
file with the payload of its name, and the server is one of them; and nothing is launched for a
build whose artifacts cannot all be put in place. -/

namespace BuildBench.Run

open BuildBench.Definition BuildBench.Entry BuildBench.Files

variable {σ τ : Type}

/-! ### What can be put in place -/

/-- Every artifact has a plain name and a payload, and the server is one of them. -/
structure Deliverable (names : List String) (payload? : String → Option Bytes) (server : String) :
    Prop where
  plain : ∀ name ∈ names, IsPlainName name
  delivered : ∀ name ∈ names, ∃ data, payload? name = some data
  server : server ∈ names

theorem mem_of_artifactPaths {directory name : String} {names : List String}
    (placed : (artifactPaths directory names).any (·.1 == name) = true) : name ∈ names := by
  obtain ⟨artifact, member, same⟩ := List.any_eq_true.mp placed
  obtain ⟨given, kept, rfl⟩ := List.mem_map.mp member
  have ordered := Text.mem_eraseReps.mp kept
  rw [List.mem_mergeSort] at ordered
  exact beq_iff_eq.mp same ▸ ordered

/-! ### A stocked directory -/

/-- The directory of a run holds the artifacts of these names and nothing else, and each name leads
to its artifact. -/
structure Stocked (payload? : String → Option Bytes) (before : Tree) (path : String)
    (place : Files.Place) (names : List String) (now : Tree) : Prop where
  nest : Nest before path place now
  distinct : (now.namesIn place).Nodup
  listed : ∀ name, name ∈ now.namesIn place ↔ name ∈ names
  plain : ∀ name ∈ names, IsPlainName name
  passable : ∀ name ∈ names, Tree.Passable (joinPath path name)
  short : ∀ name ∈ names, ¬Tree.nameLimit < name.utf8ByteSize
  artifact : ∀ name ∈ names, ∃ data, payload? name = some data ∧
    now.node? (place ++ [name]) = some (.file Tree.executableMode data)

namespace Stocked

variable {payload? : String → Option Bytes} {before now after : Tree} {path name : String}
  {place : Files.Place} {names : List String} {data : Bytes}

theorem empty (rooted : before.Rooted) (nest : Nest before path place now)
    (made : before.makeDirectory path = .ok now) :
    Stocked payload? before path place [] now := by
  have nothing : now.namesIn place = [] := by
    rw [Tree.makeDirectory, nest.reached] at made
    dsimp only at made
    rw [nest.absent] at made
    rw [← Except.ok.inj made]
    exact rooted.namesIn_new nest.absent
  refine ⟨nest, ?_, ?_, ?_, ?_, ?_, ?_⟩
  · rw [nothing]
    exact List.nodup_nil
  · intro name
    rw [nothing]
  all_goals
    intro name member
    cases member

theorem write (stocked : Stocked payload? before path place names now) (plain : IsPlainName name)
    (delivered : payload? name = some data)
    (written : now.writeFileWithMode (joinPath path name) Tree.executableMode data = .ok after) :
    Stocked payload? before path place (names ++ [name]) after := by
  have isName : IsName (firstName name) := by
    rw [firstName_of_notMem plain.noSlash]
    exact plain.isName
  -- The name leads to a place right in the directory, since it is plain and the directory has no link.
  have nest := stocked.nest.writeFileWithMode isName written
  obtain ⟨reached, resolved, rfl⟩ := Tree.writeFileWithMode_puts written
  have passable := Tree.passable_of_resolve resolved
  rw [stocked.nest.resolve_name plain.isName plain.noSlash passable] at resolved
  split at resolved
  · cases resolved
  rename_i short
  obtain rfl := Except.ok.inj resolved
  have each {holds : String → Prop} (others : ∀ other ∈ names, holds other) (own : holds name) :
      ∀ other ∈ names ++ [name], holds other := by
    intro other member
    rcases List.mem_append.mp member with earlier | same
    · exact others other earlier
    · rw [List.mem_singleton.mp same]
      exact own
  have inside : place ++ [name] ≠ [] := by simp
  refine ⟨nest, ?_, ?_, each stocked.plain plain, each stocked.passable passable,
    each stocked.short short, ?_⟩
  · rw [Tree.namesIn_put]
    split
    · exact stocked.distinct
    · rename_i new
      rw [List.nodup_append]
      refine ⟨stocked.distinct, List.nodup_singleton _, ?_⟩
      intro first member second same equal
      rw [equal, List.mem_singleton.mp same] at member
      exact new member
  · intro other
    rw [Tree.namesIn_put, List.mem_append, ← stocked.listed]
    split
    · rename_i known
      constructor
      · exact Or.inl
      · rintro (earlier | same)
        · exact earlier
        · rw [List.mem_singleton.mp same]
          exact known
    · exact List.mem_append
  · intro other member
    by_cases same : other = name
    · rw [same]
      exact ⟨data, delivered, Tree.node?_put_self inside⟩
    · rcases List.mem_append.mp member with earlier | own
      · obtain ⟨content, holds, stands⟩ := stocked.artifact other earlier
        refine ⟨content, holds, ?_⟩
        rw [Tree.node?_put_of_ne fun equal => same (by simpa using equal)]
        exact stands
      · exact absurd (List.mem_singleton.mp own) same

end Stocked

/-- What a database finds in the directory that it is given: the artifacts of these names, each an
executable file with the payload of its name, and nothing else. It is started from one of them. -/
structure InPlace (names : List String) (payload? : String → Option Bytes) (server : String)
    (spec : Sandbox.Spec) (files : Tree) : Prop where
  deliverable : Deliverable names payload? server
  listing : ∃ listed, files.listDirectory spec.mount.host = .ok listed ∧ listed.Nodup ∧
    ∀ name, name ∈ listed ↔ name ∈ names
  artifacts : ∃ place, files.find spec.mount.host = .ok (place, .directory) ∧
    ∀ name ∈ names, ∃ data, payload? name = some data ∧
      files.find (joinPath spec.mount.host name) =
        .ok (place ++ [name], .file Tree.executableMode data)
  command : spec.command.head? = some (spec.mount.pathInside server)

theorem Stocked.inPlace {payload? : String → Option Bytes} {before now : Tree} {place : Files.Place}
    {names : List String} {server : String} {spec : Sandbox.Spec}
    (stocked : Stocked payload? before spec.mount.host place names now) (present : server ∈ names)
    (command : spec.command.head? = some (spec.mount.pathInside server)) :
    InPlace names payload? server spec now where
  deliverable :=
    { plain := stocked.plain
      delivered := fun name member =>
        let ⟨data, holds, _⟩ := stocked.artifact name member
        ⟨data, holds⟩
      server := present }
  listing := by
    refine ⟨now.namesIn place, ?_, stocked.distinct, stocked.listed⟩
    rw [Tree.listDirectory, stocked.nest.find]
  artifacts := by
    refine ⟨place, stocked.nest.find, ?_⟩
    intro name member
    obtain ⟨data, holds, stands⟩ := stocked.artifact name member
    have plain := stocked.plain name member
    refine ⟨data, holds, ?_⟩
    rw [Tree.find, stocked.nest.resolve_name plain.isName plain.noSlash
      (stocked.passable name member), if_neg (stocked.short name member)]
    dsimp only
    rw [stands]
  command := command

/-! ### Putting artifacts in place -/

section Writing

variable {build : Build} {before : Tree} {path : String} {place : Files.Place} {bench : Bench σ τ}

theorem writeArtifacts_stocks (host : Host σ) {payloads : List (String × Bytes)}
    {names : List String} (stocked : Stocked build.payload? before path place names bench.files)
    (named : ∀ payload ∈ payloads, namesOneFile payload.1 = true ∧
      build.payload? payload.1 = some payload.2)
    (written : (writeArtifacts (Action.writeProgram host) path payloads bench).1 = .ok ()) :
    Stocked build.payload? before path place (names ++ payloads.map Prod.fst)
      (writeArtifacts (Action.writeProgram host) path payloads bench).2.files := by
  induction payloads generalizing names bench with
  | nil =>
      rw [List.map_nil, List.append_nil]
      exact stocked
  | cons payload rest ih =>
      obtain ⟨name, data⟩ := payload
      obtain ⟨valid, delivered⟩ := named (name, data) List.mem_cons_self
      rw [writeArtifacts, Action.bind_apply] at written ⊢
      rcases Action.change_files host (.write (joinPath path name))
        (·.writeFileWithMode (joinPath path name) Tree.executableMode data) bench with
        ⟨cause, answer, -, -⟩ | ⟨answer, wrote⟩
      · change (Action.writeProgram host (joinPath path name) data bench).1 = _ at answer
        rw [answer] at written
        cases written
      · have first := stocked.write (namesOneFile_iff.mp valid) delivered wrote
        change (Action.writeProgram host (joinPath path name) data bench).1 = _ at answer
        rw [answer] at written ⊢
        have all := ih first (fun other member => named other (List.mem_cons_of_mem _ member))
          written
        rw [List.append_assoc] at all
        exact all

/-- When artifacts were put in place, all of them have plain names and payloads, and a directory
that held nothing holds them. -/
theorem putInPlace_stocks (host : Host σ) {names : List String} {placed : List (String × String)}
    (done : (putInPlace (Action.writeProgram host) build names path bench).1 = .ok placed) :
    placed = artifactPaths path names ∧
    (∀ name ∈ names, IsPlainName name ∧ ∃ data, build.payload? name = some data) ∧
    ∀ before place, Stocked build.payload? before path place [] bench.files →
      Stocked build.payload? before path place names
        (putInPlace (Action.writeProgram host) build names path bench).2.files := by
  unfold putInPlace at done ⊢
  cases handed : artifactPayloads build names with
  | error error =>
      rw [handed] at done
      cases done
  | ok payloads =>
      obtain ⟨same, named⟩ := artifactPayloads_handed handed
      simp only [handed, Action.bind_apply] at done ⊢
      cases answer : (writeArtifacts (Action.writeProgram host) path payloads bench).1 with
      | error error =>
          rw [answer] at done
          cases done
      | ok value =>
          rw [answer] at done
          refine ⟨(Except.ok.inj done).symm, ?_, ?_⟩
          · intro name member
            rw [← same] at member
            obtain ⟨payload, present, rfl⟩ := List.mem_map.mp member
            obtain ⟨valid, delivered⟩ := named payload present
            exact ⟨namesOneFile_iff.mp valid, payload.2, delivered⟩
          · -- What was handed over are the declared names with their payloads, in order.
            intro before place stocked
            have all := writeArtifacts_stocks host stocked named answer
            rw [List.nil_append, same] at all
            exact all

end Writing

namespace Pass

theorem placeArtifacts_stocks (host : Host σ) (pass : Pass) (directory : String)
    (scene : Scene σ τ) :
    Step.Ends (placeArtifacts host pass directory) scene
      (fun _ after =>
        Deliverable pass.job.build.artifacts pass.job.build.payload?
          pass.settings.layout.serverArtifact ∧
        ∀ before place,
          Stocked pass.job.build.payload? before directory place [] scene.bench.files →
          Stocked pass.job.build.payload? before directory place pass.job.build.artifacts
            after.bench.files)
      fun _ _ => True := by
  refine Step.Ends.act_bind (Step.Ends.take_bind ?_ fun _ _ => trivial)
  intro placed done
  obtain ⟨same, each, stocks⟩ := putInPlace_stocks host done
  dsimp only
  split
  · rename_i found
    rw [same] at found
    exact Step.Ends.pure
      ⟨⟨fun name member => (each name member).1, fun name member => (each name member).2,
        mem_of_artifactPaths found⟩, stocks⟩
  · exact Step.Ends.throw trivial

theorem prepare_delivers (host : Host σ) (pass : Pass) (slices : Except Cpu.Error Slices)
    (scene : Scene σ τ) :
    Step.Ends (prepare host pass slices) scene
      (fun _ _ => Deliverable pass.job.build.artifacts pass.job.build.payload?
        pass.settings.layout.serverArtifact)
      fun _ _ => True := by
  refine Step.Ends.take_bind (fun granted _ => ?_) fun _ _ => trivial
  refine Step.Ends.bind _ (.trivial _ _) fun _ _ _ => ?_
  refine Step.Ends.take_bind (fun tool _ => ?_) fun _ _ => trivial
  refine Step.Ends.bind _ (.trivial _ _) fun directory made _ => ?_
  refine Step.Ends.bind _ (placeArtifacts_stocks host pass directory made) ?_
  intro _ placed delivers
  exact Step.Ends.pure delivers.1

theorem prepare_stocks {host : Host σ}
    (suffixes : ∀ state, '/' ∉ (host.directorySuffix state).1.toList) (pass : Pass)
    (slices : Except Cpu.Error Slices) {bench : Bench σ τ} (rooted : bench.files.Rooted) :
    Step.Ends (prepare host pass slices) { bench, held := .nothing }
      (fun result after => ∃ place, Stocked pass.job.build.payload? bench.files result.2.2 place
        pass.job.build.artifacts after.bench.files)
      fun _ _ => True := by
  have untouched : Scene.Unlodged bench.files { bench, held := Held.nothing } := ⟨rfl, rfl⟩
  refine Step.Ends.take_bind (fun granted _ => ?_) fun _ _ => trivial
  refine Step.Ends.bind _ ((reserveSlices_lodges granted untouched).weaken (fun _ _ => id)
    fun _ _ _ => trivial) ?_
  intro _ reserved unlodged
  refine Step.Ends.take_bind (fun tool _ => ?_) fun _ _ => trivial
  refine Step.Ends.bind _ ((makeDirectory_nests suffixes rooted pass unlodged).weaken
    (fun _ _ => id) fun _ _ _ => trivial) ?_
  rintro directory made ⟨⟨-, place, nest⟩, fresh⟩
  refine Step.Ends.bind _ (placeArtifacts_stocks host pass directory made) ?_
  intro _ placed stocks
  exact Step.Ends.pure ⟨place, stocks.2 bench.files place (.empty rooted nest fresh)⟩

end Pass

/-! ### Passes -/

/-- If an event launches a database, the spec and the files are such. -/
def Event.LaunchesWith (fits : Sandbox.Spec → Tree → Prop) : Event → Prop
  | .launchDatabase spec files _ => fits spec files
  | _ => True

theorem Event.launchesWith_of_others {fits : Sandbox.Spec → Tree → Prop} {event : Event}
    (other : event.startsDatabase = false) : event.LaunchesWith fits := by
  cases event with
  | launchDatabase spec files answer => cases other
  | _ => trivial

namespace Pass

variable {collaborators : Collaborators σ τ} {bench : Bench σ τ}

/-- Whenever a pass launches its database, the artifacts are in place. -/
theorem perform_places
    (suffixes : ∀ state, '/' ∉ (collaborators.host.directorySuffix state).1.toList)
    (settings : Settings) (job : Job) (slices : Except Cpu.Error Slices)
    (rooted : bench.files.Rooted) :
    bench.Adds
      (Event.LaunchesWith (InPlace job.build.artifacts job.build.payload?
        settings.layout.serverArtifact))
      (perform collaborators settings job slices bench).2 := by
  cases ended : (prepared collaborators settings job slices bench).1 with
  | error error =>
      refine (perform_unprepared ended).weaken ?_
      intro event quiet
      cases event with
      | launchDatabase spec files answer => cases quiet
      | _ => trivial
  | ok result =>
      obtain ⟨granted, tool, directory⟩ := result
      obtain ⟨made, calls, others⟩ := perform_prepared ended
      let pass := (opening collaborators.host settings job bench).1
      have delivers := (prepare_delivers collaborators.host pass slices _).value ended
      obtain ⟨place, stocked⟩ := (prepare_stocks suffixes pass slices (show
        (opening collaborators.host settings job bench).2.files.Rooted from rooted)).value ended
      refine ⟨_, calls, ?_⟩
      intro event member
      rcases List.mem_cons.mp member with launch | later
      · rw [launch]
        exact Stocked.inPlace stocked delivers.server rfl
      · exact Event.launchesWith_of_others (others event later)

/-- A build whose artifacts cannot all be put in place has nothing launched for it. -/
theorem perform_undeliverable {settings : Settings} {job : Job}
    (slices : Except Cpu.Error Slices)
    (undeliverable : ¬Deliverable job.build.artifacts job.build.payload?
      settings.layout.serverArtifact) :
    bench.Adds (fun event => event.isLaunch = false)
      (perform collaborators settings job slices bench).2 := by
  cases ended : (prepared collaborators settings job slices bench).1 with
  | error error => exact perform_unprepared ended
  | ok result =>
      exact absurd ((prepare_delivers collaborators.host
        (opening collaborators.host settings job bench).1 slices _).value ended) undeliverable

end Pass

/-- What a run of a suite calls are deferred stops, and then what its pass calls. -/
theorem Slot.perform_adds {collaborators : Collaborators σ τ} {settings : Settings} {build : Build}
    {suite : Suite} {bench : Bench σ τ} {kind : Event → Prop} (slot : Slot)
    (stops : ∀ handle answer, kind (.stop handle answer))
    (passes : ∀ topology slices, (retryDeferred collaborators.host bench).2.Adds kind
      (Pass.perform collaborators settings { build, suite, topology } slices
        (retryDeferred collaborators.host bench).2).2) :
    bench.Adds kind (slot.perform collaborators settings build suite bench).2 := by
  cases slot with
  | unknown name =>
      exact .nothing ((Action.report_makes .topologyUnknown bench).calls.trans (List.append_nil _))
  | planned topology position =>
      obtain ⟨retries, calls, each⟩ := retryDeferred_calls collaborators.host bench
      have retried : bench.Adds kind (retryDeferred collaborators.host bench).2 := by
        refine ⟨retries, calls, ?_⟩
        intro event member
        obtain ⟨handle, answer, rfl⟩ := each event member
        exact stops handle answer
      exact retried.trans (passes topology _)

namespace Pass

/-! ### A rehearsal -/

/-- The tree of a rehearsal with the directory of a run in it. -/
def lodgedTree : Tree := workTree.put ["work", "rbs-000000"] .directory

def stockedTree : Tree :=
  lodgedTree.put ["work", "rbs-000000", "redis-server"] (.file Tree.executableMode [])

theorem workTree_lodges : workTree.makeDirectory "/work/rbs-000000" = .ok lodgedTree := by
  have taken : steps "/work/rbs-000000" = ["work", "rbs-000000"] := by decide
  have walked : workTree.walk .entry 40 [] ["work", "rbs-000000"] = .ok ["work", "rbs-000000"] := by
    rw [Tree.walk_through_directory ⟨by decide, by decide⟩ (by decide) (by decide) (by decide)]
    exact Tree.walk_to_new ⟨by decide, by decide⟩ (by decide) (by decide)
  have resolved : workTree.resolve "/work/rbs-000000" .entry = .ok ["work", "rbs-000000"] := by
    unfold Tree.resolve
    rw [taken]
    exact walked
  rw [Tree.makeDirectory, resolved]
  rfl

theorem lodgedTree_stocks :
    lodgedTree.writeFileWithMode "/work/rbs-000000/redis-server" Tree.executableMode [] =
      .ok stockedTree := by
  have taken : steps "/work/rbs-000000/redis-server" = ["work", "rbs-000000", "redis-server"] := by
    decide
  have walked : lodgedTree.walk .newFile 40 [] ["work", "rbs-000000", "redis-server"] =
      .ok ["work", "rbs-000000", "redis-server"] := by
    rw [Tree.walk_through_directory ⟨by decide, by decide⟩ (by decide) (by decide) (by decide),
      Tree.walk_through_directory ⟨by decide, by decide⟩ (by decide) (by decide) (by decide)]
    exact Tree.walk_to_new ⟨by decide, by decide⟩ (by decide) (by decide)
  have resolved : lodgedTree.resolve "/work/rbs-000000/redis-server" .newFile =
      .ok ["work", "rbs-000000", "redis-server"] := by
    unfold Tree.resolve
    rw [taken]
    exact walked
  rw [Tree.writeFileWithMode, resolved]
  rfl

/-- A job for a build whose one artifact is an empty server, and of a suite whose tool is known. -/
structure IsServed (job : Job) : Prop where
  declared : job.build.artifacts = ["redis-server"]
  delivered : job.build.payload? "redis-server" = some []
  supported : ∃ tool, Tool.ofName? job.suite.client.tool = some tool

/-- What a run holds before its database is launched. -/
def lodgedHeld (granted : Slices) : Held :=
  { Held.nothing with
    databaseSlice := some granted.database
    clientSlice := granted.client <|> none
    directory := some "/work/rbs-000000" }

/-- On the tree of a rehearsal nothing hinders the preparations of such a job. -/
theorem workTree_prepares (pass : Pass) {granted : Slices} {ledger : Cpu.Ledger}
    (bench : Bench Rehearsal.Script τ) (usual : pass.settings = .usual "/work" "bench" 8)
    (served : IsServed pass.job)
    (reserved : granted.inOrder.foldlM Cpu.Ledger.reserve bench.ledger = .ok ledger)
    (files : bench.files = workTree) :
    ∃ tool, Step.Leads (prepare litteringHost pass (.ok granted)) { bench, held := .nothing }
      (granted, tool, "/work/rbs-000000")
      { bench := { bench with ledger, files := stockedTree }, held := lodgedHeld granted } := by
  let reservation : Held :=
    { Held.nothing with
      databaseSlice := some granted.database
      clientSlice := granted.client <|> none }
  let directory := "/work/rbs-000000"
  obtain ⟨tool, supported⟩ := served.supported
  have named : pass.directoryPath "000000" = directory := by
    rw [directoryPath, usual]
    decide
  have makes : Step.Leads (makeDirectory litteringHost pass)
      { bench := { bench with ledger }, held := reservation } directory
      { bench := { bench with ledger, files := lodgedTree }, held := lodgedHeld granted } := by
    refine makeDirectory_leads.mpr ⟨"000000", { bench with ledger }, _, rfl, ?_, named, rfl⟩
    rw [named]
    exact Action.change_admitted rfl (by rw [files]; exact workTree_lodges)
  have writes : Action.writeProgram litteringHost "/work/rbs-000000/redis-server" []
      { bench with ledger, files := lodgedTree } =
        (.ok (), { bench with ledger, files := stockedTree }) :=
    Action.change_admitted rfl lodgedTree_stocks
  have places : Step.Leads (placeArtifacts litteringHost pass directory)
      { bench := { bench with ledger, files := lodgedTree }, held := lodgedHeld granted } ()
      { bench := { bench with ledger, files := stockedTree }, held := lodgedHeld granted } := by
    have handed : artifactPayloads pass.job.build ["redis-server"] =
        .ok [("redis-server", [])] := by
      rw [artifactPayloads, artifactPayload, served.delivered]
      rfl
    have path : joinPath directory "redis-server" = "/work/rbs-000000/redis-server" := by decide
    have paths : artifactPaths directory ["redis-server"] =
        [("redis-server", "/work/rbs-000000/redis-server")] := by
      unfold artifactPaths
      rw [List.mergeSort_singleton, ← path]
      rfl
    refine placeArtifacts_leads.mpr ⟨artifactPaths directory ["redis-server"], _, ?_, ?_, rfl⟩
    · rw [served.declared]
      unfold Action.Gives putInPlace
      simp only [handed, writeArtifacts, path, Action.bind_apply, writes]
      rfl
    · rw [paths, usual]
      exact ⟨_, List.mem_cons_self, rfl⟩
  refine ⟨tool, Step.leads_take_bind.mpr ⟨granted, rfl, ?_⟩⟩
  refine Step.leads_bind.mpr ⟨_, _, reserveSlices_leads.mpr ⟨ledger, reserved, rfl⟩, ?_⟩
  refine Step.leads_take_bind.mpr ⟨tool, chooseTool_eq_ok.mpr supported, ?_⟩
  refine Step.leads_bind.mpr ⟨directory, _, makes, ?_⟩
  refine Step.leads_bind.mpr ⟨_, _, places, ?_⟩
  exact Step.leads_pure.mpr ⟨rfl, rfl⟩

theorem workTree_launches {sink : Option (Sink τ)} {settings : Settings} {job : Job}
    {granted : Slices} {ledger : Cpu.Ledger} {bench : Bench Rehearsal.Script τ}
    (usual : settings = .usual "/work" "bench" 8) (served : IsServed job)
    (reserved : granted.inOrder.foldlM Cpu.Ledger.reserve bench.ledger = .ok ledger)
    (files : bench.files = workTree) :
    ∃ made spec, spec.cpus = some granted.database ∧
      (perform { host := litteringHost, sink } settings job (.ok granted) bench).2.calls =
        bench.calls ++ .launchDatabase spec stockedTree
          (Rehearsal.launchDatabase (bench.host, stockedTree)).1 :: made := by
  let pass := (opening litteringHost settings job bench).1
  obtain ⟨tool, ended⟩ := workTree_prepares pass (opening litteringHost settings job bench).2 usual
    served reserved files
  have prepares : prepared { host := litteringHost, sink } settings job (.ok granted) bench = _ :=
    ended
  obtain ⟨made, calls, -⟩ := perform_prepared (congrArg Prod.fst prepares)
  rw [prepares] at calls
  refine ⟨made, pass.databaseSpec "/work/rbs-000000" granted.database, rfl, calls.trans ?_⟩
  have answered (script : Rehearsal.Script) (runs : Nat) :
      (Rehearsal.launchDatabase ({ script with runs }, stockedTree)).1 =
        (Rehearsal.launchDatabase (script, stockedTree)).1 := by
    unfold Rehearsal.launchDatabase
    dsimp only
    cases script.databaseError with
    | some error => rfl
    | none => cases script.databaseCompletes <;> rfl
  rw [← answered bench.host (bench.host.runs + 1)]
  rfl

end Pass

end BuildBench.Run
