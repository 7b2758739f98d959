import BuildBench.Proofs.Files.Nest
import BuildBench.Proofs.Run.Calls

set_option autoImplicit false

/-! What the actions of a run do to files. Main statements: whatever the names of commits, suites
and artifacts are, a file that is written for a run stands directly in the run's directory; and no
action changes anything outside it. -/

namespace BuildBench.Run

open BuildBench.Entry BuildBench.Files

variable {σ τ : Type}

/-! ### Names of files -/

theorem isName_of_namesOneFile {name : String} (valid : namesOneFile name = true) :
    IsName (firstName name) := by
  unfold namesOneFile at valid
  simp only [Bool.and_eq_true, Bool.not_eq_true', bne_iff_ne] at valid
  obtain ⟨⟨⟨inhabited, notHere⟩, notAbove⟩, plain⟩ := valid
  have noSlash : '/' ∉ name.toList := by
    intro slash
    rw [List.any_eq_false] at plain
    exact plain '/' slash rfl
  rw [firstName_of_notMem noSlash]
  constructor
  · rw [staysInPlace, inhabited, beq_eq_false_iff_ne.mpr notHere]
    rfl
  · exact notAbove

theorem slash_notMem_padded (width value : Nat) : '/' ∉ (Time.Civil.padded width value).toList := by
  rw [Time.Civil.padded, String.toList_ofList, List.mem_append, not_or]
  constructor
  · intro slash
    exact absurd (List.eq_of_mem_replicate slash) (by decide)
  · intro slash
    exact absurd (Nat.isDigit_of_mem_toDigits (by decide) (by decide) slash) (by decide)

theorem slash_notMem_stamp (civil : Time.Civil) : '/' ∉ civil.stamp.toList := by
  have sign : '/' ∉ (if civil.year < 0 then "-" else "").toList := by
    split <;> decide
  have fields (value : Nat) := slash_notMem_padded 2 value
  unfold Time.Civil.stamp
  simp [String.intercalate_cons_cons, sign, fields, slash_notMem_padded]

/-- The stamp in front makes the first piece of a result file's name a name. -/
theorem isName_resultsName (started : Time.Moment) (gitHash suite deployment : String) :
    IsName (firstName (resultsName started gitHash suite deployment)) := by
  let stamp := (Time.Civil.ofMoment started).stamp
  have plain : ∀ c ∈ stamp.toList, decide (c ≠ '/') = true := by
    intro c member
    refine decide_eq_true fun slash => ?_
    exact slash_notMem_stamp (Time.Civil.ofMoment started) (slash ▸ member)
  obtain ⟨rest, text⟩ : ∃ rest, (resultsName started gitHash suite deployment).toList =
      stamp.toList ++ '-' :: rest := by
    refine ⟨(gitHash ++ "-" ++ withoutSeparators suite ++ "-" ++ deployment ++ ".json").toList, ?_⟩
    change (stamp ++ "-" ++ gitHash ++ "-" ++ withoutSeparators suite ++ "-" ++ deployment ++
      ".json").toList = _
    simp
  apply isName_of_hyphen
  rw [firstName, String.toList_ofList, text, List.takeWhile_append_of_pos plain,
    List.takeWhile_cons_of_pos (by decide)]
  exact List.mem_append_right _ List.mem_cons_self

/-- Each name is handed its payload, and only if it stands for one file. -/
theorem artifactPayloads_handed {build : Build} {names : List String}
    {payloads : List (String × Bytes)} (handed : artifactPayloads build names = .ok payloads) :
    payloads.map Prod.fst = names ∧
      ∀ payload ∈ payloads, namesOneFile payload.1 = true ∧
        build.payload? payload.1 = some payload.2 := by
  induction names generalizing payloads with
  | nil =>
      rw [← Except.ok.inj handed]
      refine ⟨rfl, ?_⟩
      intro payload member
      cases member
  | cons name rest ih =>
      rw [artifactPayloads, artifactPayload] at handed
      by_cases valid : namesOneFile name = true
      · rw [if_pos valid] at handed
        cases found : build.payload? name with
        | none =>
            rw [found] at handed
            cases handed
        | some data =>
            rw [found] at handed
            cases others : artifactPayloads build rest with
            | error error =>
                rw [others] at handed
                cases handed
            | ok more =>
                rw [others] at handed
                obtain ⟨same, each⟩ := ih others
                rw [← Except.ok.inj handed]
                refine ⟨congrArg (name :: ·) same, ?_⟩
                intro payload member
                rcases List.mem_cons.mp member with own | later
                · rw [own]
                  exact ⟨valid, found⟩
                · exact each payload later
      · rw [if_neg valid] at handed
        cases handed

/-! ### Actions that leave the files alone -/

def Action.KeepsFiles {α : Type} (action : Action σ τ α) : Prop :=
  ∀ bench, (action bench).2.files = bench.files

namespace Action.KeepsFiles

variable {α β : Type}

theorem pure (value : α) : KeepsFiles (pure value : Action σ τ α) :=
  fun _ => rfl

theorem bind {action : Action σ τ α} {next : α → Action σ τ β} (first : KeepsFiles action)
    (rest : ∀ value, KeepsFiles (next value)) : KeepsFiles (action >>= next) := by
  intro bench
  rw [bind_apply, rest, first]

theorem report (notice : Notice) : KeepsFiles (report notice : Action σ τ Unit) :=
  fun _ => rfl

theorem onHost (step : StateM σ α) : KeepsFiles (onHost step : Action σ τ α) :=
  fun _ => rfl

theorem reserve (slice : Cpu.Slice) : KeepsFiles (reserve slice : Action σ τ _) := by
  intro bench
  cases reserved : bench.ledger.reserve slice with
  | error error => rw [reserve_error reserved]
  | ok ledger => rw [reserve_ok reserved]

/-- What only asks the host, and enters its answer, keeps the files. -/
theorem entered {asking : Action σ τ α} (asked : KeepsFiles asking) (event : α → Event)
    {next : α → Action σ τ β} (rest : ∀ answer, KeepsFiles (next answer)) :
    KeepsFiles (do let answer ← asking; enter (event answer); next answer) :=
  asked.bind fun answer => bind (fun _ => rfl) fun _ => rest answer

theorem stop (host : Host σ) (handle : Sandbox.Handle) :
    KeepsFiles (Action.stop host handle : Action σ τ _) :=
  (onHost _).entered _ fun _ => pure _

theorem awaitReady (host : Host σ) (address : String) (port : Nat) :
    KeepsFiles (awaitReady host address port : Action σ τ _) :=
  (onHost _).entered _ fun _ => pure _

theorem shutdown (host : Host σ) (address : String) (port : Nat) :
    KeepsFiles (shutdown host address port : Action σ τ _) := by
  refine (onHost _).entered _ fun answer => ?_
  cases answer with
  | ok value => exact pure ()
  | error cause => exact report _

theorem push (collaborators : Collaborators σ τ) (summary : Summary) :
    KeepsFiles (push collaborators summary) := by
  unfold Action.push
  cases collaborators.sink with
  | none => exact pure ()
  | some sink =>
      refine entered (fun _ => rfl) (.push summary) fun answer => ?_
      cases answer with
      | ok value => exact pure ()
      | error cause => exact report _

theorem inspect {ε : Type} (host : Host σ) (request : FileRequest) (refusal : IoError → ε)
    (reading : Tree → Except ε α) :
    KeepsFiles (inspect host request refusal reading : Action σ τ _) := by
  refine (onHost _).bind fun refused => ?_
  cases refused with
  | some cause => exact pure _
  | none => exact fun _ => rfl

end Action.KeepsFiles

/-! ### Actions in the directory of a run -/

/-- A change that is refused, by the host or by the files themselves, changes nothing. -/
theorem Action.change_files (host : Host σ) (request : FileRequest)
    (step : Tree → Except IoError Tree) (bench : Bench σ τ) :
    (∃ cause, (change host request step bench).1 = .error cause ∧
      (change host request step bench).2.files = bench.files ∧
      ((host.refuse request bench.host).1 = some cause ∨ step bench.files = .error cause)) ∨
    ((change host request step bench).1 = .ok () ∧
      step bench.files = .ok (change host request step bench).2.files) := by
  have asked : (onHost (host.refuse request) bench : _ × Bench σ τ).1 =
      (host.refuse request bench.host).1 :=
    rfl
  unfold change
  rw [bind_apply, asked]
  cases (host.refuse request bench.host).1 with
  | some cause => exact Or.inl ⟨cause, rfl, rfl, Or.inl rfl⟩
  | none =>
      change (∃ cause, (Tree.attempt step bench.files).1 = .error cause ∧
        (Tree.attempt step bench.files).2 = bench.files ∧ _) ∨
        ((Tree.attempt step bench.files).1 = .ok () ∧
          step bench.files = .ok (Tree.attempt step bench.files).2)
      unfold Tree.attempt
      cases step bench.files with
      | error cause => exact Or.inl ⟨cause, rfl, rfl, Or.inr rfl⟩
      | ok files => exact Or.inr ⟨rfl, rfl⟩

theorem Action.change_admitted {host : Host σ} {request : FileRequest} {step : Tree → Except IoError Tree}
    {bench : Bench σ τ} {files : Tree} (admitted : host.refuse request = fun state => (none, state))
    (stepped : step bench.files = .ok files) :
    change host request step bench = (.ok (), { bench with files }) := by
  unfold Action.change
  rw [bind_apply, admitted]
  change ((Tree.attempt step bench.files).1,
    { bench with files := (Tree.attempt step bench.files).2 }) = _
  rw [Tree.attempt, stepped]

/-- Sandboxes only write files, and those directly in the directory that they are given. -/
def FillsMount {α : Type} (launch : Sandbox.Spec → StateM (σ × Tree) α) : Prop :=
  ∀ spec state tree place, tree.find spec.mount.host = .ok (place, .directory) →
    tree.HoldsOnlyFiles place → Tree.FillsOnly place tree (launch spec (state, tree)).2.2

/-- Directories of runs get names without slashes, removing one is not refused, and sandboxes leave
alone what was not given to them. -/
structure Host.Tidy (host : Host σ) : Prop where
  suffix : ∀ state, '/' ∉ (host.directorySuffix state).1.toList
  removes : ∀ path state, (host.refuse (.removeDirectory path) state).1 = none
  database : FillsMount host.launchDatabase
  client : FillsMount host.launchClient

/-- The files that a directory is made in stay as they are, whatever the action does in it. -/
def Action.KeepsNest {α : Type} (before : Tree) (path : String) (action : Action σ τ α) : Prop :=
  ∀ bench place, Nest before path place bench.files → Nest before path place (action bench).2.files

namespace Action.KeepsNest

variable {α β : Type} {before : Tree} {path name : String} {host : Host σ}

theorem of_files {action : Action σ τ α} (keeps : action.KeepsFiles) :
    KeepsNest before path action := by
  intro bench place nest
  rw [keeps]
  exact nest

theorem bind {action : Action σ τ α} {next : α → Action σ τ β}
    (first : KeepsNest before path action) (rest : ∀ value, KeepsNest before path (next value)) :
    KeepsNest before path (action >>= next) :=
  fun bench place nest => rest _ _ place (first bench place nest)

theorem change {request : FileRequest} {step : Tree → Except IoError Tree}
    (keeps : ∀ now after place, Nest before path place now → step now = .ok after →
      Nest before path place after) :
    KeepsNest before path (change host request step : Action σ τ _) := by
  intro bench place nest
  rcases change_files host request step bench with ⟨_, _, same, _⟩ | ⟨_, stepped⟩
  · rw [same]
    exact nest
  · exact keeps _ _ place nest stepped

theorem writeProgram (isName : IsName (firstName name)) (data : Bytes) :
    KeepsNest before path (writeProgram host (joinPath path name) data : Action σ τ _) :=
  change fun _ _ _ nest written => nest.writeFileWithMode isName written

theorem writeFile (isName : IsName (firstName name)) (data : Bytes) :
    KeepsNest before path (writeFile host (joinPath path name) data : Action σ τ _) :=
  change fun _ _ _ nest written => nest.writeFile isName written

theorem of_mount {launch : Sandbox.Spec → StateM (σ × Tree) α} (fills : FillsMount launch)
    {spec : Sandbox.Spec} (mounted : spec.mount.host = path) :
    KeepsNest before path (onHostFiles (launch spec) : Action σ τ α) := by
  intro bench place nest
  have found : bench.files.find spec.mount.host = .ok (place, .directory) := by
    rw [mounted]
    exact nest.find
  exact nest.fill (fills spec bench.host bench.files place found nest.contents)

theorem launchDatabase (tidy : host.Tidy) (spec : Sandbox.Spec) (mounted : spec.mount.host = path) :
    KeepsNest before path (launchDatabase host spec : Action σ τ _) :=
  of_mount tidy.database mounted

theorem launchClient (tidy : host.Tidy) (spec : Sandbox.Spec) (mounted : spec.mount.host = path) :
    KeepsNest before path (launchClient host spec : Action σ τ _) :=
  of_mount tidy.client mounted

theorem writeArtifacts {payloads : List (String × Bytes)}
    (named : ∀ payload ∈ payloads, namesOneFile payload.1 = true) :
    KeepsNest before path
      (writeArtifacts (Action.writeProgram host) path payloads : Action σ τ _) := by
  induction payloads with
  | nil => exact of_files (.pure _)
  | cons payload rest ih =>
      obtain ⟨name, data⟩ := payload
      have isName := isName_of_namesOneFile (named _ List.mem_cons_self)
      refine (writeProgram isName data).bind fun answer => ?_
      cases answer with
      | error cause => exact of_files (.pure _)
      | ok value => exact ih fun payload member => named payload (List.mem_cons_of_mem _ member)

theorem putInPlace (host : Host σ) (build : Build) (names : List String) :
    KeepsNest before path
      (putInPlace (Action.writeProgram host) build names path : Action σ τ _) := by
  unfold Run.putInPlace
  cases handed : artifactPayloads build names with
  | error cause => exact of_files (.pure _)
  | ok payloads =>
      have named := fun payload member => ((artifactPayloads_handed handed).2 payload member).1
      refine (writeArtifacts named).bind fun answer => ?_
      cases answer <;> exact of_files (.pure _)

theorem storeResults (host : Host σ) (isName : IsName (firstName name)) (tool : Tool)
    (stdout : String) :
    KeepsNest before path
      (storeResults (Action.writeFile host) tool (joinPath path name) stdout : Action σ τ _) := by
  unfold Run.storeResults
  cases tool.resultFile stdout with
  | error cause => exact of_files (.pure _)
  | ok result =>
      cases result with
      | none => exact of_files (.pure _)
      | some data =>
          refine (writeFile isName data).bind fun answer => ?_
          cases answer <;> exact of_files (.pure _)

end Action.KeepsNest

end BuildBench.Run
