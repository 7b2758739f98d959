import BuildBench.Proofs.Entry.Decoding
import BuildBench.Proofs.Run.Files
import BuildBench.Proofs.Run.Lifecycle

set_option autoImplicit false

/-! Where the result file of a run stands. Main statement: whatever the suite and the start are, the
file is a name in the run's directory, and one in the client's mount, exactly if no slash stands in
the name of the commit: unlike that of the suite, it is taken as the entry has it. -/

namespace BuildBench.Run

open BuildBench.Definition BuildBench.Entry BuildBench.Files BuildBench.Text

/-! ### Paths -/

/-- The path is that of a name in the directory itself. -/
def DirectlyIn (directory path : String) : Prop :=
  ∃ name, IsName name ∧ '/' ∉ name.toList ∧
    ((directory.toList.getLast? = some '/' ∧ path = directory ++ name) ∨
      path = directory ++ "/" ++ name)

/-- A name that begins as one stands directly in a directory exactly if there is no slash in it. -/
theorem directlyIn_iff {directory name path : String} (isName : IsName (firstName name))
    (joined : path = if directory.toList.getLast? = some '/' then directory ++ name
      else directory ++ "/" ++ name) :
    DirectlyIn directory path ↔ '/' ∉ name.toList := by
  have relative := head_ne_slash isName.ne_empty
  constructor
  · rintro ⟨other, -, plain, shape⟩
    by_cases closed : directory.toList.getLast? = some '/'
    · rw [if_pos closed] at joined
      rcases shape with ⟨-, same⟩ | same
      · rw [joined, String.append_right_inj] at same
        rw [same]
        exact plain
      · rw [joined, String.append_assoc, String.append_right_inj] at same
        rw [same] at relative
        exact absurd (by simp) relative
    · rw [if_neg closed] at joined
      rcases shape with ⟨slash, -⟩ | same
      · exact absurd slash closed
      · rw [joined, String.append_right_inj] at same
        rw [same]
        exact plain
  · intro plain
    rw [firstName_of_notMem plain] at isName
    refine ⟨name, isName, plain, ?_⟩
    rw [joined]
    by_cases closed : directory.toList.getLast? = some '/'
    · rw [if_pos closed]
      exact Or.inl ⟨closed, rfl⟩
    · rw [if_neg closed]
      exact Or.inr rfl

theorem joinPath_eq {directory name : String} (inhabited : directory ≠ "")
    (relative : name.toList.head? ≠ some '/') :
    joinPath directory name = if directory.toList.getLast? = some '/' then directory ++ name
      else directory ++ "/" ++ name := by
  rw [joinPath, if_neg relative]
  simp only [String.isEmpty_iff, inhabited, false_or]

/-! ### Names of result files -/

theorem slash_notMem_withoutSeparators (name : String) :
    '/' ∉ (withoutSeparators name).toList := by
  rw [withoutSeparators, String.toList_ofList]
  intro slash
  obtain ⟨c, -, same⟩ := List.mem_map.mp slash
  split at same
  · exact absurd same (by decide)
  · rename_i other
    exact other (Or.inl same)

/-- Of all that a result file is named for, only the commit and the deployment can have a slash. -/
theorem slash_mem_resultsName (started : Time.Moment) (gitHash suite deployment : String) :
    '/' ∈ (resultsName started gitHash suite deployment).toList ↔
      '/' ∈ gitHash.toList ∨ '/' ∈ deployment.toList := by
  have stamp := slash_notMem_stamp (Time.Civil.ofMoment started)
  have cleaned := slash_notMem_withoutSeparators suite
  change '/' ∈ ((Time.Civil.ofMoment started).stamp ++ "-" ++ gitHash ++ "-" ++
    withoutSeparators suite ++ "-" ++ deployment ++ ".json").toList ↔ _
  simp [stamp, cleaned]

namespace Pass

variable {pass : Pass} {id : Id} {fields : Fields}

/-- Where the client's sandbox finds the directory of the run, the name stands for this path. -/
def insidePath (pass : Pass) (directory : String) : String :=
  let mount : Sandbox.Mount := { host := directory, target := pass.settings.layout.clientMount }
  mount.pathInside pass.outputFile

/-- The client is told of the database and of the file first, and then what its suite adds. -/
theorem clientSpec_command {tool : Tool} {directory : String} {slice : Option Cpu.Slice}
    {spec : Sandbox.Spec} (prepared : clientSpec pass tool directory slice = .ok spec) :
    ∃ program extra, spec.command = program ::
      tool.fixedArguments pass.settings.layout.host pass.settings.layout.port
        (pass.insidePath directory) ++ extra := by
  simp only [clientSpec, Tool.prepare, bind, Except.bind] at prepared
  cases split : Tool.splitArguments pass.job.suite.client.arguments with
  | error error =>
      rw [split] at prepared
      cases prepared
  | ok extra =>
      rw [split] at prepared
      rw [← Except.ok.inj prepared]
      exact ⟨_, extra, rfl⟩

theorem insidePath_mem_command {directory : String} {slice : Option Cpu.Slice} {spec : Sandbox.Spec}
    (prepared : clientSpec pass .memtierBenchmark directory slice = .ok spec) :
    "--json-out-file=" ++ pass.insidePath directory ∈ spec.command := by
  obtain ⟨program, extra, command⟩ := clientSpec_command prepared
  rw [command]
  simp [Tool.fixedArguments]

theorem runDirectory_ne_empty (workRoot suffix : String) :
    joinPath workRoot (directoryMark ++ suffix) ≠ "" := by
  have relative : (directoryMark ++ suffix).toList.head? ≠ some '/' := by
    simp [directoryMark]
  have filled : (directoryMark ++ suffix).toList ≠ [] := by
    simp [directoryMark]
  rw [Ne, ← String.toList_eq_nil_iff]
  rcases joinPath_ends workRoot relative with same | ⟨before, same⟩ <;> rw [same]
  · exact filled
  · simp

/-- The hash of a decoded build has a slash if and only if the field has one. -/
theorem slash_mem_gitHash {build : Build} (decoded : Build.decode id fields = .ok build) :
    ∃ text, fields.get? Metadata.gitHash.name = some (Utf8.encode text) ∧
      ('/' ∈ build.gitHash.toList ↔ '/' ∈ text) := by
  have told := (Build.describes_of_decode decoded).gitHash
  generalize build.gitHash = hash at told
  cases told with
  | @text text present =>
      refine ⟨text, present, ?_⟩
      rw [String.toList_ofList]
      exact mem_dropAround_iff (by decide)

theorem outputFile_bare (pass : Pass) : pass.outputFile.toList.getLast? ≠ some '/' := by
  have ends : ∃ before, pass.outputFile = before ++ ".json" := ⟨_, rfl⟩
  obtain ⟨before, same⟩ := ends
  simp [same]

/-- Where a run writes and reads its results: right in its directory, and in the client's mount, if
and only if no slash stands in the field of the commit. A system that takes such a path up at all
then finds the file in that directory. With a slash no results can be stored: only files stand in
the directory of a run. -/
theorem outputFile_stays_iff (decoded : Build.decode id fields = .ok pass.job.build)
    (labelled : '/' ∉ pass.settings.deployment.toList) (suffix : String) :
    let directory := joinPath pass.settings.workRoot (directoryMark ++ suffix)
    let file := joinPath directory pass.outputFile
    ∃ text, fields.get? Metadata.gitHash.name = some (Utf8.encode text) ∧
      ('/' ∉ pass.outputFile.toList ↔ '/' ∉ text) ∧
      (DirectlyIn directory file ↔ '/' ∉ text) ∧
      (DirectlyIn pass.settings.layout.clientMount (pass.insidePath directory) ↔ '/' ∉ text) ∧
      (∀ slice spec, clientSpec pass .memtierBenchmark directory slice = .ok spec →
        "--json-out-file=" ++ pass.insidePath directory ∈ spec.command) ∧
      ('/' ∉ text → ∀ (tree : Tree) (place reached : Files.Place) (aim : Tree.Aim),
        tree.find directory = .ok (place, .directory) →
        tree.HoldsAtMostFile (place ++ [pass.outputFile]) →
        tree.resolve file aim = .ok reached → reached = place ++ [pass.outputFile]) ∧
      ∀ (before now after : Tree) (place : Files.Place) (mode : Nat) (data : Bytes),
        Nest before directory place now → now.writeFile file mode data = .ok after →
        '/' ∉ text := by
  intro directory file
  obtain ⟨text, present, sameSlash⟩ := slash_mem_gitHash decoded
  have isName : IsName (firstName pass.outputFile) := isName_resultsName _ _ _ _
  have inhabited : directory ≠ "" := runDirectory_ne_empty _ _
  have plainIff : '/' ∉ pass.outputFile.toList ↔ '/' ∉ text := by
    rw [outputFile, slash_mem_resultsName, sameSlash]
    simp [labelled]
  refine ⟨text, present, plainIff, ?_, ?_, ?_, ?_, ?_⟩
  · rw [directlyIn_iff isName (joinPath_eq inhabited (head_ne_slash isName.ne_empty))]
    exact plainIff
  · exact (directlyIn_iff isName rfl).trans plainIff
  · intro slice spec prepared
    exact insidePath_mem_command prepared
  · intro noSlash tree place reached aim found free resolved
    have plain := plainIff.mpr noSlash
    rw [firstName_of_notMem plain] at isName
    have leads := Tree.leadsToFile_joinPath found isName plain free (.refl tree) free resolved
    rw [leads.resolve] at resolved
    exact (Except.ok.inj resolved).symm
  · intro before now after place mode data nest written
    obtain ⟨reached, _, resolved, -⟩ := Tree.writeFile_puts written
    rw [← plainIff]
    intro slash
    exact outputFile_bare pass ((nest.resolve_inside isName resolved).2 slash)

/-! ### Commits with and without a slash -/

/-- An entry for a commit, with nothing but what an entry must have. -/
def entryOf (hash : List Char) : Fields where
  entries := [(Metadata.gitHash.name, Utf8.encode hash),
    (Metadata.buildImage.name, Utf8.encode "gcc:8.5".toList)]

theorem entryOf_decodes (hash : List Char) :
    ∃ build, Build.decode ⟨1, 0⟩ (entryOf hash) = .ok build := by
  rw [Build.decode_succeeds_iff]
  constructor
  · intro field required
    cases field with
    | gitHash => exact ⟨_, rfl⟩
    | buildImage => exact ⟨_, rfl⟩
    | runImage => cases required
    | buildArtifacts => cases required
  · intro field bytes present
    cases field <;> cases present <;> exact ⟨_, rfl⟩

def passFor (build : Build) : Pass where
  settings := .usual "/work" "bench" 8
  job := { rehearsedJob with build }
  runId := "run"
  started := ⟨0, 0⟩

theorem passFor_labelled (build : Build) : '/' ∉ (passFor build).settings.deployment.toList := by
  change '/' ∉ "oss-standalone".toList
  decide

theorem outputFile_stays_iff_rehearsed :
    ∃ build, Build.decode ⟨1, 0⟩ (entryOf "abc123".toList) = .ok build ∧
      '/' ∉ (passFor build).settings.deployment.toList ∧
      let directory := joinPath (passFor build).settings.workRoot (directoryMark ++ "0")
      DirectlyIn directory (joinPath directory (passFor build).outputFile) := by
  obtain ⟨build, decoded⟩ := entryOf_decodes "abc123".toList
  have labelled := passFor_labelled build
  obtain ⟨text, present, -, inDirectory, -⟩ := outputFile_stays_iff decoded labelled "0"
  have same : Utf8.encode "abc123".toList = Utf8.encode text := Option.some.inj present
  have plain : '/' ∉ text := by
    rw [← Utf8.encode_injective same]
    decide
  exact ⟨build, decoded, labelled, inDirectory.mpr plain⟩

/-- A commit with a slash is decoded, and its result file is none of the directory's own. -/
theorem slashed_leaves_directory :
    ∃ build, Build.decode ⟨1, 0⟩ (entryOf "a/b".toList) = .ok build ∧
      '/' ∉ (passFor build).settings.deployment.toList ∧
      '/' ∈ (passFor build).outputFile.toList ∧
      let directory := joinPath (passFor build).settings.workRoot (directoryMark ++ "0")
      ¬DirectlyIn directory (joinPath directory (passFor build).outputFile) := by
  obtain ⟨build, decoded⟩ := entryOf_decodes "a/b".toList
  obtain ⟨text, present, sameSlash⟩ := slash_mem_gitHash decoded
  have same : Utf8.encode "a/b".toList = Utf8.encode text := Option.some.inj present
  have slash : '/' ∈ (passFor build).outputFile.toList := by
    rw [outputFile, slash_mem_resultsName]
    refine Or.inl (sameSlash.mpr ?_)
    rw [← Utf8.encode_injective same]
    decide
  have isName : IsName (firstName (passFor build).outputFile) := isName_resultsName _ _ _ _
  have joined := joinPath_eq (runDirectory_ne_empty (passFor build).settings.workRoot "0")
    (head_ne_slash isName.ne_empty)
  refine ⟨build, decoded, passFor_labelled build, slash, ?_⟩
  exact fun inside => (directlyIn_iff isName joined).mp inside slash

end Pass

end BuildBench.Run
