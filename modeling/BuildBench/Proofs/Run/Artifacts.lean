import BuildBench.Proofs.Files.Programs
import BuildBench.Proofs.Run.Files
import BuildBench.Proofs.Text.Order
import BuildBench.Rehearsal.Script

set_option autoImplicit false

/-! Artifacts as executable files. Main statement: all names and payloads are checked before the
first file is written, the first name that fails decides the error, and what is written then are
just the files of those names, up to the first that is refused. -/

namespace BuildBench.Run

open BuildBench.Entry BuildBench.Files

variable {σ τ ω : Type}

/-! ### Names -/

/-- A name for one file directly in a directory. -/
structure IsPlainName (name : String) : Prop where
  inhabited : name ≠ ""
  notHere : name ≠ "."
  notAbove : name ≠ ".."
  noSlash : '/' ∉ name.toList
  noNul : Char.ofNat 0 ∉ name.toList

theorem namesOneFile_iff {name : String} : namesOneFile name = true ↔ IsPlainName name := by
  have separators : (!name.toList.any fun c => c == '/' || c.toNat == 0) = true ↔
      '/' ∉ name.toList ∧ Char.ofNat 0 ∉ name.toList := by
    rw [Bool.not_eq_true', List.any_eq_false]
    constructor
    · intro free
      refine ⟨fun slash => free _ slash rfl, fun nul => free _ nul rfl⟩
    · rintro ⟨noSlash, noNul⟩ c member separator
      rw [Bool.or_eq_true, beq_iff_eq, beq_iff_eq] at separator
      rcases separator with same | zero
      · exact noSlash (same ▸ member)
      · have same : c = Char.ofNat 0 := by
          rw [← Char.ofNat_toNat c, zero]
        exact noNul (same ▸ member)
  unfold namesOneFile
  simp only [Bool.and_eq_true, separators, bne_iff_ne, Bool.not_eq_true', ← Bool.not_eq_true,
    String.isEmpty_iff]
  constructor
  · rintro ⟨⟨⟨inhabited, notHere⟩, notAbove⟩, noSlash, noNul⟩
    exact ⟨inhabited, notHere, notAbove, noSlash, noNul⟩
  · intro plain
    exact ⟨⟨⟨plain.inhabited, plain.notHere⟩, plain.notAbove⟩, plain.noSlash, plain.noNul⟩

theorem IsPlainName.isName {name : String} (plain : IsPlainName name) : IsName name := by
  have isName := isName_of_namesOneFile (namesOneFile_iff.mpr plain)
  rwa [firstName_of_notMem plain.noSlash] at isName

/-- The artifact has a plain name and a payload. -/
structure IsDelivered (payload? : String → Option Bytes) (name : String) : Prop where
  plain : IsPlainName name
  delivered : ∃ data, payload? name = some data

/-- What is wrong with an artifact. A name that is not plain is wrong with or without a payload. -/
inductive Objection (payload? : String → Option Bytes) (name : String) : ArtifactError → Prop
  | notPlain (unfit : ¬IsPlainName name) : Objection payload? name (.invalidName name)
  | noPayload (plain : IsPlainName name) (absent : payload? name = none) :
      Objection payload? name (.missing name)

/-- The error is about the first name in the list with which something is wrong. -/
def FirstObjection (payload? : String → Option Bytes) (names : List String)
    (error : ArtifactError) : Prop :=
  ∃ before name after, names = before ++ name :: after ∧
    (∀ earlier ∈ before, IsDelivered payload? earlier) ∧ Objection payload? name error

/-! ### Checking -/

section Checking

variable {build : Build} {name : String} {names : List String}

theorem artifactPayload_of_delivered {data : Bytes} (plain : IsPlainName name)
    (delivered : build.payload? name = some data) : artifactPayload build name = .ok data := by
  rw [artifactPayload, if_pos (namesOneFile_iff.mpr plain), delivered]

theorem artifactPayload_objects (undelivered : ¬IsDelivered build.payload? name) :
    ∃ error, Objection build.payload? name error ∧ artifactPayload build name = .error error := by
  rw [artifactPayload]
  by_cases plain : IsPlainName name
  · rw [if_pos (namesOneFile_iff.mpr plain)]
    cases found : build.payload? name with
    | none => exact ⟨_, .noPayload plain found, rfl⟩
    | some data => exact absurd ⟨plain, data, found⟩ undelivered
  · rw [if_neg (mt namesOneFile_iff.mp plain)]
    exact ⟨_, .notPlain plain, rfl⟩

theorem artifactPayloads_of_delivered (each : ∀ name ∈ names, IsDelivered build.payload? name) :
    ∃ payloads, artifactPayloads build names = .ok payloads := by
  induction names with
  | nil => exact ⟨[], rfl⟩
  | cons name rest ih =>
      obtain ⟨plain, data, delivered⟩ := each name List.mem_cons_self
      obtain ⟨payloads, others⟩ := ih fun other member => each other (List.mem_cons_of_mem _ member)
      refine ⟨(name, data) :: payloads, ?_⟩
      rw [artifactPayloads, artifactPayload_of_delivered plain delivered, others]
      rfl

theorem artifactPayloads_objects (undelivered : ¬∀ name ∈ names, IsDelivered build.payload? name) :
    ∃ error, FirstObjection build.payload? names error ∧
      artifactPayloads build names = .error error := by
  induction names with
  | nil => exact absurd (fun _ member => by cases member) undelivered
  | cons name rest ih =>
      rw [artifactPayloads]
      by_cases first : IsDelivered build.payload? name
      · obtain ⟨plain, data, delivered⟩ := first
        have later : ¬∀ name ∈ rest, IsDelivered build.payload? name := by
          intro each
          refine undelivered fun other member => ?_
          rcases List.mem_cons.mp member with same | further
          · rw [same]
            exact ⟨plain, data, delivered⟩
          · exact each other further
        -- The first name is as it should be, so the objection is to one behind it.
        obtain ⟨error, ⟨before, culprit, after, split, good, wrong⟩, failed⟩ := ih later
        refine ⟨error, ⟨name :: before, culprit, after, ?_, ?_, wrong⟩, ?_⟩
        · rw [split, List.cons_append]
        · intro earlier member
          rcases List.mem_cons.mp member with same | further
          · rw [same]
            exact ⟨plain, data, delivered⟩
          · exact good earlier further
        · rw [artifactPayload_of_delivered plain delivered, failed]
          rfl
      · obtain ⟨error, wrong, failed⟩ := artifactPayload_objects first
        refine ⟨error, ⟨[], name, rest, rfl, ?_, wrong⟩, ?_⟩
        · intro earlier member
          cases member
        · rw [failed]

end Checking

/-! ### The files that are written -/

/-- The payloads of these names are written one after the other, and none is refused. -/
inductive WritesAll (write : String → Bytes → StateM ω (Except IoError Unit))
    (payload? : String → Option Bytes) (directory : String) : List String → ω → ω → Prop
  | done (state : ω) : WritesAll write payload? directory [] state state
  | next {name : String} {rest : List String} {data : Bytes} {state between after : ω}
      (delivered : payload? name = some data)
      (accepted : write (joinPath directory name) data state = (.ok (), between))
      (others : WritesAll write payload? directory rest between after) :
      WritesAll write payload? directory (name :: rest) state after

/-- The files of these names in a directory hold their payloads, and nothing else has changed. -/
structure Filled (payload? : String → Option Bytes) (before : Tree) (directory : String)
    (place : Files.Place) (names : List String) (now : Tree) : Prop where
  ways : before.KeepsWays now
  artifacts : ∀ name ∈ names, ∃ data, payload? name = some data ∧
    before.LeadsToFile (joinPath directory name) (place ++ [name]) ∧
    now.node? (place ++ [name]) = some (.file Tree.executableMode data)
  others : ∀ other, (∀ name ∈ names, other ≠ place ++ [name]) →
    now.node? other = before.node? other

namespace Filled

variable {payload? : String → Option Bytes} {before now : Tree} {directory name : String}
  {place : Files.Place} {names : List String} {data : Bytes}

theorem start (tree : Tree) : Filled payload? tree directory place [] tree := by
  refine ⟨.refl tree, ?_, fun _ _ => rfl⟩
  intro name member
  cases member

theorem free (filled : Filled payload? before directory place names now)
    (free : before.HoldsAtMostFile (place ++ [name])) :
    now.HoldsAtMostFile (place ++ [name]) := by
  by_cases written : name ∈ names
  · obtain ⟨data, -, -, stands⟩ := filled.artifacts name written
    intro node found
    rw [stands] at found
    exact ⟨_, _, (Option.some.inj found).symm⟩
  · have same : now.node? (place ++ [name]) = before.node? (place ++ [name]) := by
      refine filled.others _ fun other member equal => ?_
      rw [List.singleton_inj.mp (List.append_cancel_left equal)] at written
      exact written member
    intro node found
    exact free node (same ▸ found)

theorem leads {reached : Files.Place} (filled : Filled payload? before directory place names now)
    (found : before.find directory = .ok (place, .directory)) (plain : IsPlainName name)
    (free : before.HoldsAtMostFile (place ++ [name]))
    (resolved : now.resolve (joinPath directory name) .newFile = .ok reached) :
    before.LeadsToFile (joinPath directory name) (place ++ [name]) ∧
      now.LeadsToFile (joinPath directory name) (place ++ [name]) := by
  have held := filled.free free
  have leads := Tree.leadsToFile_joinPath found plain.isName plain.noSlash free filled.ways held
    resolved
  exact ⟨leads, leads.kept filled.ways held⟩

theorem put (filled : Filled payload? before directory place names now)
    (leads : before.LeadsToFile (joinPath directory name) (place ++ [name]))
    (delivered : payload? name = some data) :
    Filled payload? before directory place (names ++ [name])
      (now.put (place ++ [name]) (.file Tree.executableMode data)) := by
  refine ⟨filled.ways.trans (.put (filled.free leads.free) _), ?_, ?_⟩
  · intro other member
    by_cases same : other = name
    · rw [same]
      exact ⟨data, delivered, leads, Tree.node?_put_self leads.inside⟩
    · rcases List.mem_append.mp member with earlier | own
      · obtain ⟨content, holds, known, stands⟩ := filled.artifacts other earlier
        refine ⟨content, holds, known, ?_⟩
        rw [Tree.node?_put_of_ne fun equal => same (by simpa using equal)]
        exact stands
      · exact absurd (List.mem_singleton.mp own) same
  · intro other apart
    rw [Tree.node?_put_of_ne (apart name (by simp))]
    exact filled.others other fun earlier member => apart earlier (List.mem_append_left _ member)

theorem find (filled : Filled payload? before directory place names now) (member : name ∈ names) :
    ∃ data, payload? name = some data ∧ now.find (joinPath directory name) =
      .ok (place ++ [name], .file Tree.executableMode data) := by
  obtain ⟨data, delivered, leads, stands⟩ := filled.artifacts name member
  refine ⟨data, delivered, Tree.find_eq_ok.mpr ⟨?_, stands⟩⟩
  exact leads.resolved now filled.ways (filled.free leads.free) .target

end Filled

/-! ### One write -/

section Writing

variable {files : ω → Tree} {write : String → Bytes → StateM ω (Except IoError Unit)}
  {payload? : String → Option Bytes} {before : Tree} {directory name : String}
  {place : Files.Place} {names : List String} {data : Bytes} {state after : ω}

theorem write_fills (writes : WritesPrograms files write)
    (found : before.find directory = .ok (place, .directory)) (plain : IsPlainName name)
    (free : before.HoldsAtMostFile (place ++ [name])) (delivered : payload? name = some data)
    (filled : Filled payload? before directory place names (files state))
    (accepted : write (joinPath directory name) data state = (.ok (), after)) :
    Filled payload? before directory place (names ++ [name]) (files after) := by
  obtain ⟨reached, resolved⟩ :
      ∃ reached, (files state).resolve (joinPath directory name) .newFile = .ok reached := by
    -- Where the path led nowhere the write would have been refused.
    by_contra lost
    obtain ⟨cause, failed⟩ := (writes.nowhere state (joinPath directory name) data
      fun reached resolved => lost ⟨reached, resolved⟩).failed
    rw [accepted] at failed
    cases failed
  obtain ⟨leads, now⟩ := filled.leads found plain free resolved
  obtain ⟨_, _, ⟨rfl, rfl⟩, changed⟩ := (writes.writes state _ _ data now).done (by rw [accepted])
  rw [accepted] at changed
  rw [changed]
  exact filled.put leads delivered

/-- A write that is refused leaves all other files alone. -/
theorem write_refused {cause : IoError} (writes : WritesPrograms files write)
    (found : before.find directory = .ok (place, .directory)) (plain : IsPlainName name)
    (free : before.HoldsAtMostFile (place ++ [name]))
    (filled : Filled payload? before directory place names (files state))
    (refused : write (joinPath directory name) data state = (.error cause, after))
    {other : Files.Place} (apart : other ≠ place ++ [name]) :
    (files after).node? other = (files state).node? other := by
  by_cases opens : ∃ reached, (files state).resolve (joinPath directory name) .newFile = .ok reached
  · -- The file may have been made, emptied or written in part.
    obtain ⟨reached, resolved⟩ := opens
    have now := (filled.leads found plain free resolved).2
    have changed := (writes.writes state _ _ data now).failed cause (by rw [refused])
    rw [refused] at changed
    rcases changed with same | ⟨mode, part, partly⟩
    · rw [same]
    · rw [partly, Tree.node?_put_of_ne apart]
  · have idle := (writes.nowhere state (joinPath directory name) data
      fun reached resolved => opens ⟨reached, resolved⟩).idle
    rw [refused] at idle
    rw [idle]

/-! ### All writes -/

theorem WritesAll.fills {done : List String} (writes : WritesPrograms files write)
    (found : before.find directory = .ok (place, .directory))
    (each : ∀ name ∈ names, IsPlainName name ∧ before.HoldsAtMostFile (place ++ [name]))
    (run : WritesAll write payload? directory names state after)
    (filled : Filled payload? before directory place done (files state)) :
    Filled payload? before directory place (done ++ names) (files after) := by
  induction run generalizing done with
  | done state =>
      rw [List.append_nil]
      exact filled
  | next delivered accepted others ih =>
      obtain ⟨plain, free⟩ := each _ List.mem_cons_self
      have first := write_fills writes found plain free delivered filled accepted
      have all := ih (fun name member => each name (List.mem_cons_of_mem _ member)) first
      rw [List.append_assoc] at all
      exact all

/-- The payloads of the names before one are written, and then that of this name is refused. -/
structure RefusedAt (write : String → Bytes → StateM ω (Except IoError Unit))
    (payload? : String → Option Bytes) (directory : String) (names : List String) (state : ω)
    (before : List String) (name : String) (cause : IoError) (after : ω) : Prop where
  split : ∃ later, names = before ++ name :: later
  refused : ∃ between data, WritesAll write payload? directory before state between ∧
    payload? name = some data ∧ write (joinPath directory name) data between = (.error cause, after)

theorem writesAll_or_refusedAt (write : String → Bytes → StateM ω (Except IoError Unit))
    (directory : String) (state : ω) (each : ∀ name ∈ names, ∃ data, payload? name = some data) :
    (∃ after, WritesAll write payload? directory names state after) ∨
      ∃ before name cause after,
        RefusedAt write payload? directory names state before name cause after := by
  induction names generalizing state with
  | nil => exact Or.inl ⟨state, .done state⟩
  | cons name rest ih =>
      obtain ⟨data, delivered⟩ := each name List.mem_cons_self
      cases answer : write (joinPath directory name) data state with
      | mk result between =>
          cases result with
          | error cause =>
              exact Or.inr ⟨[], name, cause, between, ⟨rest, rfl⟩, state, data, .done state,
                delivered, answer⟩
          | ok value =>
              rcases ih between fun other member => each other (List.mem_cons_of_mem _ member) with
                ⟨after, all⟩ | ⟨before, culprit, cause, after, ⟨later, split⟩, left, content, run,
                  holds, refused⟩
              · exact Or.inl ⟨after, .next delivered answer all⟩
              · refine Or.inr ⟨name :: before, culprit, cause, after, ⟨later, ?_⟩, left, content,
                  .next delivered answer run, holds, refused⟩
                rw [split, List.cons_append]

theorem writeArtifacts_accepted {between : ω} (rest : List (String × Bytes))
    (accepted : write (joinPath directory name) data state = (.ok (), between)) :
    writeArtifacts write directory ((name, data) :: rest) state =
      writeArtifacts write directory rest between := by
  rw [writeArtifacts, bind_apply, accepted]

theorem writeArtifacts_refused {cause : IoError} (rest : List (String × Bytes))
    (refused : write (joinPath directory name) data state = (.error cause, after)) :
    writeArtifacts write directory ((name, data) :: rest) state =
      (.error (.unwritable (joinPath directory name) cause), after) := by
  rw [writeArtifacts, bind_apply, refused]
  rfl

theorem writeArtifacts_append {payloads : List (String × Bytes)}
    (named : ∀ payload ∈ payloads, payload? payload.1 = some payload.2)
    (run : WritesAll write payload? directory (payloads.map Prod.fst) state after)
    (rest : List (String × Bytes)) :
    writeArtifacts write directory (payloads ++ rest) state =
      writeArtifacts write directory rest after := by
  induction payloads generalizing state with
  | nil =>
      cases run with
      | done => rfl
  | cons payload others ih =>
      obtain ⟨name, data⟩ := payload
      cases run with
      | next delivered accepted further =>
          rw [named (name, data) List.mem_cons_self] at delivered
          cases delivered
          rw [List.cons_append, writeArtifacts_accepted _ accepted]
          exact ih (fun other member => named other (List.mem_cons_of_mem _ member)) further

end Writing

/-! ### Putting in place -/

theorem mem_artifactPaths {directory name path : String} {names : List String} :
    (name, path) ∈ artifactPaths directory names ↔
      name ∈ names ∧ path = joinPath directory name := by
  unfold artifactPaths
  simp only [List.mem_map, Text.mem_eraseReps, List.mem_mergeSort, Prod.mk.injEq]
  constructor
  · rintro ⟨given, member, rfl, rfl⟩
    exact ⟨member, rfl⟩
  · rintro ⟨member, same⟩
    exact ⟨name, member, rfl, same.symm⟩

theorem ascending_artifactPaths (directory : String) (names : List String) :
    ((artifactPaths directory names).map Prod.fst).Pairwise (· < ·) := by
  have names : (artifactPaths directory names).map Prod.fst =
      (names.mergeSort fun left right => decide (left ≤ right)).eraseReps := by
    unfold artifactPaths
    rw [List.map_map]
    exact List.map_id _
  rw [names]
  exact Text.pairwise_eraseReps_inOrder _

theorem Action.writeProgram_writes (host : Host σ) :
    WritesPrograms Bench.files (writeProgram host : _ → _ → Action σ τ _) := by
  constructor
  · intro bench path place data leads
    have admitted := leads.writeFileWithMode Tree.executableMode data
    rcases change_files host (.write path)
      (·.writeFileWithMode path Tree.executableMode data) bench with
      ⟨cause, answer, same, -⟩ | ⟨answer, wrote⟩
    · refine ⟨fun done => ?_, fun _ _ => Or.inl same⟩
      rw [writeProgram, answer] at done
      cases done
    · refine ⟨fun _ => ⟨_, _, ⟨rfl, rfl⟩, ?_⟩, fun cause failed => ?_⟩
      · rw [admitted] at wrote
        exact (Except.ok.inj wrote).symm
      · rw [writeProgram, answer] at failed
        cases failed
  · intro bench path data lost
    rcases change_files host (.write path)
      (·.writeFileWithMode path Tree.executableMode data) bench with
      ⟨cause, answer, same, -⟩ | ⟨-, wrote⟩
    · exact ⟨⟨cause, answer⟩, same⟩
    · obtain ⟨place, resolved, -⟩ := Tree.writeFileWithMode_puts wrote
      exact absurd resolved (lost place)

section Checked

variable {write : String → Bytes → StateM ω (Except IoError Unit)} {build : Build}
  {names : List String} {directory : String} {state after : ω}

theorem putInPlace_objected {error : ArtifactError}
    (failed : artifactPayloads build names = .error error) :
    putInPlace write build names directory state = (.error error, state) := by
  unfold putInPlace
  rw [failed]
  rfl

theorem putInPlace_writtenAll (each : ∀ name ∈ names, IsDelivered build.payload? name)
    (run : WritesAll write build.payload? directory names state after) :
    putInPlace write build names directory state = (.ok (artifactPaths directory names), after) := by
  obtain ⟨payloads, handed⟩ := artifactPayloads_of_delivered each
  obtain ⟨same, named⟩ := artifactPayloads_handed handed
  rw [← same] at run
  have written := writeArtifacts_append (fun payload member => (named payload member).2) run []
  rw [List.append_nil] at written
  unfold putInPlace
  rw [handed]
  dsimp only
  rw [bind_apply, written]
  rfl

theorem putInPlace_refusedAt {before : List String} {name : String} {cause : IoError}
    (each : ∀ name ∈ names, IsDelivered build.payload? name)
    (stopped : RefusedAt write build.payload? directory names state before name cause after) :
    putInPlace write build names directory state =
      (.error (.unwritable (joinPath directory name) cause), after) := by
  obtain ⟨payloads, handed⟩ := artifactPayloads_of_delivered each
  obtain ⟨same, named⟩ := artifactPayloads_handed handed
  obtain ⟨later, split⟩ := stopped.split
  obtain ⟨between, data, run, known, refused⟩ := stopped.refused
  -- The payloads are cut where the names are.
  obtain ⟨first, others, cut, firsts, rest⟩ := List.map_eq_append_iff.mp (same.trans split)
  obtain ⟨⟨culprit, content⟩, more, next, called, -⟩ := List.map_eq_cons_iff.mp rest
  obtain rfl : culprit = name := called
  rw [next] at cut
  have paid := (named (culprit, content) (by rw [cut]; simp)).2
  rw [known] at paid
  obtain rfl := Option.some.inj paid
  have earlier (payload : String × Bytes) (member : payload ∈ first) :
      build.payload? payload.1 = some payload.2 := by
    refine (named payload ?_).2
    rw [cut]
    exact List.mem_append_left _ member
  rw [← firsts] at run
  have written := writeArtifacts_append earlier run ((culprit, data) :: more)
  rw [← cut, writeArtifacts_refused _ refused] at written
  unfold putInPlace
  rw [handed]
  dsimp only
  rw [bind_apply, written]
  rfl

end Checked

/-- What becomes of artifacts that are to be put in a directory, and of the files. -/
structure ChecksThenWrites (files : ω → Tree)
    (write : String → Bytes → StateM ω (Except IoError Unit)) (build : Build)
    (names : List String) (directory : String) (place : Files.Place) (state : ω) : Prop where
  /-- The first name that is not plain or has no payload decides the error, and nothing is
  written. -/
  refuses : (¬∀ name ∈ names, IsDelivered build.payload? name) →
    ∃ error, FirstObjection build.payload? names error ∧
      putInPlace write build names directory state = (.error error, state)
  /-- If the writes are accepted, each name leads to an executable file with its payload, and nothing
  else has changed. -/
  places : (∀ name ∈ names, IsDelivered build.payload? name) →
    ∀ after, WritesAll write build.payload? directory names state after →
      ∃ placed, putInPlace write build names directory state = (.ok placed, after) ∧
        (placed.map Prod.fst).Pairwise (· < ·) ∧
        (∀ name path, (name, path) ∈ placed ↔ name ∈ names ∧ path = joinPath directory name) ∧
        (∀ name ∈ names, ∃ data, build.payload? name = some data ∧
          (files after).find (joinPath directory name) =
            .ok (place ++ [name], .file Tree.executableMode data)) ∧
        ∀ other, (∀ name ∈ names, other ≠ place ++ [name]) →
          (files after).node? other = (files state).node? other
  /-- If a write is refused, the error names its path, and only files of names up to this one may
  have changed. -/
  stops : (∀ name ∈ names, IsDelivered build.payload? name) →
    (¬∃ after, WritesAll write build.payload? directory names state after) →
      ∃ before name cause after,
        RefusedAt write build.payload? directory names state before name cause after ∧
        putInPlace write build names directory state =
          (.error (.unwritable (joinPath directory name) cause), after) ∧
        ∀ other, (∀ touched ∈ before ++ [name], other ≠ place ++ [touched]) →
          (files after).node? other = (files state).node? other

theorem putInPlace_checks_then_writes {files : ω → Tree}
    {write : String → Bytes → StateM ω (Except IoError Unit)} (writes : WritesPrograms files write)
    (build : Build) {names : List String} {directory : String} {place : Files.Place} {state : ω}
    (found : (files state).find directory = .ok (place, .directory))
    (free : ∀ name ∈ names, (files state).HoldsAtMostFile (place ++ [name])) :
    ChecksThenWrites files write build names directory place state := by
  have holds (each : ∀ name ∈ names, IsDelivered build.payload? name) (name : String)
      (member : name ∈ names) :
      IsPlainName name ∧ (files state).HoldsAtMostFile (place ++ [name]) :=
    ⟨(each name member).plain, free name member⟩
  refine ⟨?_, ?_, ?_⟩
  · intro undelivered
    obtain ⟨error, first, failed⟩ := artifactPayloads_objects undelivered
    exact ⟨error, first, putInPlace_objected failed⟩
  · intro each after run
    have filled := run.fills writes found (holds each) (.start _)
    exact ⟨artifactPaths directory names, putInPlace_writtenAll each run,
      ascending_artifactPaths directory names, fun _ _ => mem_artifactPaths,
      fun name member => filled.find member, filled.others⟩
  · intro each unfinished
    rcases writesAll_or_refusedAt write directory state
        (fun name member => (each name member).delivered) with
      all | ⟨before, name, cause, after, stopped⟩
    · exact absurd all unfinished
    refine ⟨before, name, cause, after, stopped, putInPlace_refusedAt each stopped, ?_⟩
    intro other apart
    obtain ⟨later, split⟩ := stopped.split
    obtain ⟨between, data, run, -, refused⟩ := stopped.refused
    have early (touched : String) (member : touched ∈ before) : touched ∈ names := by
      rw [split]
      exact List.mem_append_left _ member
    have own : name ∈ names := by
      rw [split]
      simp
    have filled := run.fills writes found (fun touched member => holds each touched (early _ member))
      (.start _)
    have left := write_refused writes found (holds each name own).1 (holds each name own).2 filled
      refused (apart name (by simp))
    rw [left]
    exact filled.others other fun touched member => apart touched (List.mem_append_left _ member)

def serverBuild : Build where
  id := ⟨1, 0⟩
  gitHash := "0"
  buildImage := "i"
  runImage := "i"
  artifacts := ["redis-server"]
  payloads := .ofList [("redis-server", [1])]

/-- A longer file, which only its owner may read, is where the program belongs. -/
def staleBench : Bench Rehearsal.Script Unit where
  host := .start
  sink := ()
  files :=
    { entries := [(["work"], .directory), (["work", "redis-server"], .file 0o600 [7, 7, 7])]
      origin := [] }
  journal := []
  ledger := .ofPool 8

theorem staleBench_find : staleBench.files.find "/work" = .ok (["work"], .directory) := by
  have passable : Tree.Passable "/work" := ⟨by decide, by decide, by decide⟩
  have taken : steps "/work" = ["work"] := by decide
  refine Tree.find_eq_ok.mpr ⟨?_, rfl⟩
  rw [Tree.resolve_eq_walk passable, taken,
    Tree.walk_through_directory ⟨by decide, by decide⟩ (by decide) (by decide) (by decide), Tree.walk]
  rfl

theorem staleBench_atMostFile :
    staleBench.files.HoldsAtMostFile (["work"] ++ ["redis-server"]) := by
  intro node found
  exact ⟨_, _, (Option.some.inj found).symm⟩

theorem staleBench_leads : staleBench.files.LeadsToFile (joinPath "/work" "redis-server")
    (["work"] ++ ["redis-server"]) := by
  refine ⟨by decide, staleBench_atMostFile, ?_⟩
  intro after keeps held aim
  rw [Tree.resolve_joinPath staleBench_find ⟨by decide, by decide⟩ (by decide)
    ⟨by decide, by decide, by decide⟩ keeps held, if_neg (by decide)]

/-- A name that is declared twice is written twice, and placed once. -/
theorem putInPlace_checks_then_writes_rehearsed :
    let host := Rehearsal.host ⟨0, 0⟩
    let names := ["redis-server", "redis-server"]
    staleBench.files.find "/work" = .ok (["work"], .directory) ∧
      (∀ name ∈ names, staleBench.files.HoldsAtMostFile (["work"] ++ [name])) ∧
      ChecksThenWrites Bench.files (Action.writeProgram host) serverBuild names "/work" ["work"]
        staleBench ∧
      ∃ placed after, putInPlace (Action.writeProgram host) serverBuild names "/work" staleBench =
          (.ok placed, after) ∧
        after.files.find (joinPath "/work" "redis-server") =
          .ok (["work", "redis-server"], .file 0o755 [1]) := by
  intro host names
  have free : ∀ name ∈ names, staleBench.files.HoldsAtMostFile (["work"] ++ [name]) := by
    intro name member
    obtain rfl : name = "redis-server" := by simpa [names] using member
    exact staleBench_atMostFile
  have checks := putInPlace_checks_then_writes (Action.writeProgram_writes host) serverBuild
    staleBench_find free
  have each : ∀ name ∈ names, IsDelivered serverBuild.payload? name := by
    intro name member
    obtain rfl : name = "redis-server" := by simpa [names] using member
    exact ⟨⟨by decide, by decide, by decide, by decide, by decide⟩, [1], rfl⟩
  have first : Action.writeProgram host (joinPath "/work" "redis-server") [1] staleBench = _ :=
    Action.change_admitted rfl (staleBench_leads.writeFileWithMode Tree.executableMode [1])
  have again := staleBench_leads.put_file Tree.executableMode [1]
  have second : Action.writeProgram host (joinPath "/work" "redis-server") [1]
      { staleBench with files := staleBench.files.put _ _ } = _ :=
    Action.change_admitted rfl (again.writeFileWithMode Tree.executableMode [1])
  obtain ⟨placed, done, -, -, holds, -⟩ :=
    checks.places each _ (.next rfl first (.next rfl second (.done _)))
  obtain ⟨data, delivered, stands⟩ := holds "redis-server" List.mem_cons_self
  obtain rfl : [1] = data := Option.some.inj delivered
  exact ⟨staleBench_find, free, checks, placed, _, done, stands⟩

end BuildBench.Run
