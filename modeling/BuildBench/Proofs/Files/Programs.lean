import BuildBench.Proofs.Files.Ways

set_option autoImplicit false

/-! Executable files. Main statement: a file that is opened, filled and then given its mode holds
just its data and has that mode, whatever was there before; and when one of the calls fails, no
other file has changed. -/

namespace BuildBench.Files

variable {ω : Type} {files : ω → Tree}

theorem Tree.putInto_putInto (place : Place) (first second : Node) (entries : List (Place × Node)) :
    putInto place second (putInto place first entries) = putInto place second entries := by
  induction entries with
  | nil => rw [putInto, putInto, putInto, if_pos rfl]
  | cons entry rest ih =>
      obtain ⟨head, held⟩ := entry
      rw [putInto, putInto]
      by_cases here : head = place
      · rw [if_pos here, if_pos here, putInto, if_pos here]
      · rw [if_neg here, if_neg here, putInto, if_neg here, ih]

theorem Tree.put_put (tree : Tree) (place : Place) (first second : Node) :
    (tree.put place first).put place second = tree.put place second := by
  unfold put
  rw [putInto_putInto]

theorem Tree.LeadsToFile.put_file {tree : Tree} {path : String} {place : Place}
    (leads : tree.LeadsToFile path place) (mode : Nat) (data : Bytes) :
    (tree.put place (.file mode data)).LeadsToFile path place :=
  leads.kept (.put leads.free _) (.put_file leads.inside mode data)

/-! ### Calls on one file -/

/-- A call that succeeds leaves a file as it should be. One that fails may have left whatever file in
its place. Nothing else changes. -/
structure ChangesFile (files : ω → Tree) (place : Place) (call : StateM ω (Except IoError Unit))
    (state : ω) (goal : Nat → Bytes → Prop) : Prop where
  done : (call state).1 = .ok () → ∃ mode data, goal mode data ∧
    files (call state).2 = (files state).put place (.file mode data)
  failed : ∀ cause, (call state).1 = .error cause → files (call state).2 = files state ∨
    ∃ mode data, files (call state).2 = (files state).put place (.file mode data)

structure FailsIdly (files : ω → Tree) (call : StateM ω (Except IoError Unit)) (state : ω) :
    Prop where
  failed : ∃ cause, (call state).1 = .error cause
  idle : files (call state).2 = files state

theorem bind_apply {α β : Type} (action : StateM ω α) (next : α → StateM ω β) (state : ω) :
    (action >>= next) state = next (action state).1 (action state).2 :=
  rfl

def andThen (first next : StateM ω (Except IoError Unit)) : StateM ω (Except IoError Unit) := do
  match ← first with
  | .error cause => return .error cause
  | .ok () => next

variable {first next : StateM ω (Except IoError Unit)} {state : ω}

theorem andThen_ok (done : (first state).1 = .ok ()) :
    andThen first next state = next (first state).2 := by
  rw [andThen, bind_apply, done]

theorem andThen_error {cause : IoError} (failed : (first state).1 = .error cause) :
    andThen first next state = (.error cause, (first state).2) := by
  rw [andThen, bind_apply, failed]
  rfl

theorem FailsIdly.andThen (fails : FailsIdly files first state)
    (next : StateM ω (Except IoError Unit)) : FailsIdly files (andThen first next) state := by
  obtain ⟨cause, failed⟩ := fails.failed
  constructor
  · exact ⟨cause, congrArg Prod.fst (andThen_error failed)⟩
  · rw [andThen_error failed]
    exact fails.idle

/-- Of two calls on one file the second decides what becomes of it. -/
theorem ChangesFile.andThen {place : Place} {goal further : Nat → Bytes → Prop}
    (changes : ChangesFile files place first state goal)
    (rest : ∀ mode data, goal mode data →
      files (first state).2 = (files state).put place (.file mode data) →
      ChangesFile files place next (first state).2 further) :
    ChangesFile files place (andThen first next) state further := by
  cases answer : (first state).1 with
  | error cause =>
      constructor
      · intro done
        rw [andThen_error answer] at done
        cases done
      · intro _ _
        rw [andThen_error answer]
        exact changes.failed cause answer
  | ok value =>
      obtain ⟨mode, data, met, left⟩ := changes.done answer
      obtain ⟨done, failed⟩ := rest mode data met left
      constructor
      · intro ended
        rw [andThen_ok answer] at ended ⊢
        obtain ⟨last, content, reached, after⟩ := done ended
        refine ⟨last, content, reached, ?_⟩
        rw [after, left, Tree.put_put]
      · intro cause ended
        rw [andThen_ok answer] at ended ⊢
        rcases failed cause ended with same | ⟨last, content, after⟩
        · exact Or.inr ⟨mode, data, same.trans left⟩
        · refine Or.inr ⟨last, content, ?_⟩
          rw [after, left, Tree.put_put]

/-- A way to write executable files: one that is written has the mode of such and holds its data. A
path that leads nowhere is refused. -/
structure WritesPrograms (files : ω → Tree)
    (write : String → Bytes → StateM ω (Except IoError Unit)) : Prop where
  writes : ∀ state path place data, (files state).LeadsToFile path place →
    ChangesFile files place (write path data) state fun mode content =>
      mode = Tree.executableMode ∧ content = data
  nowhere : ∀ state path data, (∀ place, (files state).resolve path .newFile ≠ .ok place) →
    FailsIdly files (write path data) state

/-! ### Three calls -/

/-- The calls by which an executable file is written. Each can fail. -/
structure Disk (ω : Type) where
  openFile : String → Nat → StateM ω (Except IoError Unit)
  append : String → Bytes → StateM ω (Except IoError Unit)
  setMode : String → Nat → StateM ω (Except IoError Unit)

namespace Disk

/-- A file that is made may be given fewer rights than are asked for, and one that is there keeps its
mode, so that the mode is set at the end. -/
def writeExecutable (disk : Disk ω) (path : String) (data : Bytes) :
    StateM ω (Except IoError Unit) :=
  andThen (disk.openFile path Tree.executableMode)
    (andThen (disk.append path data) (disk.setMode path Tree.executableMode))

/-- What the calls do. To open a file empties it or makes it, with whatever mode. -/
structure Serves (disk : Disk ω) (files : ω → Tree) : Prop where
  opens : ∀ state path place mode, (files state).LeadsToFile path place →
    ChangesFile files place (disk.openFile path mode) state fun _ content => content = []
  appends : ∀ state path place held old data, (files state).LeadsToFile path place →
    (files state).node? place = some (.file held old) →
    ChangesFile files place (disk.append path data) state fun mode content =>
      mode = held ∧ content = old ++ data
  setsMode : ∀ state path place held old mode, (files state).LeadsToFile path place →
    (files state).node? place = some (.file held old) →
    ChangesFile files place (disk.setMode path mode) state fun given content =>
      given = mode ∧ content = old
  nowhere : ∀ state path mode, (∀ place, (files state).resolve path .newFile ≠ .ok place) →
    FailsIdly files (disk.openFile path mode) state

/-- Whatever file was there, the three calls leave one with the mode of an executable file that
holds just the data. -/
theorem Serves.writesPrograms {disk : Disk ω} (serves : disk.Serves files) :
    WritesPrograms files disk.writeExecutable := by
  constructor
  · intro state path place data leads
    refine (serves.opens state path place _ leads).andThen ?_
    rintro made _ rfl emptied
    -- An opened file is empty, so that it holds only what is written now.
    have opened := leads.put_file made []
    rw [← emptied] at opened
    have stands : (files (disk.openFile path Tree.executableMode state).2).node? place =
        some (.file made []) := by
      rw [emptied, Tree.node?_put_self leads.inside]
    refine (serves.appends _ path place made [] data opened stands).andThen ?_
    rintro mode content ⟨kept, whole⟩ filled
    rw [kept, whole, List.nil_append] at filled
    have full := opened.put_file made data
    rw [← filled] at full
    refine serves.setsMode _ path place made data _ full ?_
    rw [filled, Tree.node?_put_self leads.inside]
  · intro state path data lost
    exact (serves.nowhere state path _ lost).andThen _

end Disk

end BuildBench.Files
