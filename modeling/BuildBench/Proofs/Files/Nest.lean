import BuildBench.Proofs.Files.Ways

set_option autoImplicit false

/-! A directory that is made in a tree, filled with files, and removed. Main statements: whatever
names the files are written under, they stand directly in the directory; and when it is removed, the
tree is the one that it was made in. -/

namespace BuildBench.Files

namespace Tree

/-- There is a directory, and only files stand in it. -/
structure HoldsOnlyFiles (tree : Tree) (place : Place) : Prop where
  directory : tree.node? place = some .directory
  files : ∀ more node, more ≠ [] → tree.node? (place ++ more) = some node →
    more.length = 1 ∧ ∃ mode data, node = .file mode data

/-- Nothing changed outside a directory, and only files stand in it then. -/
structure FillsOnly (place : Place) (before after : Tree) : Prop where
  outside : after.prune place = before.prune place
  contents : after.HoldsOnlyFiles place

variable {tree : Tree} {place : Place}

theorem HoldsOnlyFiles.put (holds : tree.HoldsOnlyFiles place) (name : String) (mode : Nat)
    (data : Bytes) : (tree.put (place ++ [name]) (.file mode data)).HoldsOnlyFiles place where
  directory := by
    rw [node?_put_of_ne (by simp)]
    exact holds.directory
  files := by
    intro more node below found
    by_cases written : place ++ more = place ++ [name]
    · rw [written, node?_put_self (by simp)] at found
      rw [List.append_cancel_left written]
      exact ⟨rfl, mode, data, (Option.some.inj found).symm⟩
    · rw [node?_put_of_ne written] at found
      exact holds.files more node below found

theorem FillsOnly.put (holds : tree.HoldsOnlyFiles place) (name : String) (mode : Nat)
    (data : Bytes) : FillsOnly place tree (tree.put (place ++ [name]) (.file mode data)) where
  outside := prune_put (List.prefix_append place [name])
  contents := holds.put name mode data

/-- From a directory with only files in it, no path leads on to anything but what stands directly
in it. -/
theorem HoldsOnlyFiles.walk {links : Nat} {name : String} {rest : List String} {reached : Place}
    (holds : tree.HoldsOnlyFiles place) (isName : IsName name)
    (walked : tree.walk .newFile links place (name :: rest) = .ok reached) :
    rest = [] ∧ reached = place ++ [name] := by
  rw [Tree.walk, if_neg (Bool.eq_false_iff.mp isName.moves), if_neg isName.descends] at walked
  split at walked
  · cases walked
  split at walked
  · cases walked
  dsimp only at walked
  cases held : tree.node? (place ++ [name]) with
  | none =>
      rw [held] at walked
      dsimp only at walked
      split at walked
      · rename_i last
        exact ⟨List.isEmpty_iff.mp last, (Except.ok.inj walked).symm⟩
      · cases walked
  | some node =>
      obtain ⟨_, mode, data, rfl⟩ := holds.files [name] node (List.cons_ne_nil _ _) held
      rw [held] at walked
      dsimp only at walked
      split at walked
      · rename_i last
        exact ⟨List.isEmpty_iff.mp last, (Except.ok.inj walked).symm⟩
      · cases walked

theorem HoldsOnlyFiles.atMostFile (holds : tree.HoldsOnlyFiles place) (name : String) :
    tree.HoldsAtMostFile (place ++ [name]) :=
  fun node found => (holds.files [name] node (List.cons_ne_nil _ _) found).2

end Tree

open BuildBench.Files.Tree

/-- A directory that was made in the tree `before` where nothing stood, with files in it now. -/
structure Nest (before : Tree) (path : String) (place : Place) (now : Tree) : Prop where
  isOpen : IsOpen path
  last : ∃ names name, steps path = names ++ [name] ∧ IsName name
  reached : before.resolve path .entry = .ok place
  absent : before.node? place = none
  outside : now.prune place = before
  contents : now.HoldsOnlyFiles place

namespace Nest

variable {before now after : Tree} {path name : String} {place : Place}

theorem make (rooted : before.Rooted) (isOpen : IsOpen path)
    (last : ∃ names name, steps path = names ++ [name] ∧ IsName name)
    (made : before.makeDirectory path = .ok now) : ∃ place, Nest before path place now := by
  unfold makeDirectory at made
  split at made
  · cases made
  · rename_i place reached
    split at made
    · cases made
    · rename_i absent
      have inside := ne_nil_of_absent absent
      have prunes : (before.put place .directory).prune place = before := by
        rw [prune_put List.prefix_rfl]
        exact prune_eq_self (rooted.absent_below absent)
      have contents : (before.put place .directory).HoldsOnlyFiles place := by
        constructor
        · exact node?_put_self inside
        · intro more node below found
          have apart : place ++ more ≠ place := by
            intro same
            exact below (List.append_right_eq_self.mp same)
          rw [node?_put_of_ne apart, rooted.node?_below absent] at found
          cases found
      rw [← Except.ok.inj made]
      exact ⟨place, isOpen, last, reached, absent, prunes, contents⟩

theorem fill (nest : Nest before path place now) (fills : FillsOnly place now after) :
    Nest before path place after :=
  { nest with
    outside := fills.outside.trans nest.outside
    contents := fills.contents }

/-- The path of the directory leads to it, and on into it. -/
theorem walk (nest : Nest before path place now) :
    ∃ left, ∀ aim more, more ≠ [""] →
      now.walk aim linkLimit (startOf now.origin path) (steps path ++ more) =
        now.walk aim left place more := by
  obtain ⟨names, name, last, isName⟩ := nest.last
  have reached := nest.reached
  have origin : now.origin = before.origin := by rw [← nest.outside, prune]
  rw [resolve_eq_walk (passable_of_resolve reached), last] at reached
  have kept (other : Place) (node : Node) (found : before.node? other = some node) :
      now.node? other = some node := by
    rw [← nest.outside] at found
    exact node?_of_prune found
  obtain ⟨left, same⟩ := walk_through isName nest.absent nest.contents.directory kept _ _ _ reached
  refine ⟨left, ?_⟩
  intro aim more goes
  rw [origin, last, List.append_assoc]
  exact same aim more goes

theorem resolve (nest : Nest before path place now) (aim : Aim) :
    now.resolve path aim = .ok place := by
  obtain ⟨left, same⟩ := nest.walk
  rw [resolve_eq_walk (passable_of_resolve nest.reached), ← List.append_nil (steps path),
    same aim [] (List.cons_ne_nil _ _).symm, Tree.walk]

theorem find (nest : Nest before path place now) : now.find path = .ok (place, .directory) := by
  rw [Tree.find, nest.resolve]
  dsimp only
  rw [nest.contents.directory]

/-- However a name goes on, a file that is written under it stands directly in the directory; and
none is if the name goes on behind a slash. -/
theorem resolve_inside {reached : Place} (nest : Nest before path place now)
    (isName : IsName (firstName name))
    (resolved : now.resolve (joinPath path name) .newFile = .ok reached) :
    reached = place ++ [firstName name] ∧
      ('/' ∈ name.toList → name.toList.getLast? = some '/') := by
  obtain ⟨left, same⟩ := nest.walk
  obtain ⟨rest, joined, further⟩ := steps_joinPath nest.isOpen isName.ne_empty
  rw [resolve_eq_walk (passable_of_resolve resolved), joined, startOf,
    isAbsolute_joinPath nest.isOpen.inhabited (head_ne_slash isName.ne_empty), ← startOf,
    same .newFile _ fun single => isName.ne_empty (List.cons.inj single).1] at resolved
  obtain ⟨last, place⟩ := nest.contents.walk isName resolved
  refine ⟨place, ?_⟩
  intro slash
  by_contra bare
  exact further slash bare last

/-- A plain name that is not too long leads to one place in the directory, for whatever purpose. -/
theorem resolve_name (nest : Nest before path place now) (isName : IsName name)
    (plain : '/' ∉ name.toList) (passable : Passable (joinPath path name)) (aim : Aim) :
    now.resolve (joinPath path name) aim =
      if nameLimit < name.utf8ByteSize then .error .nameTooLong else .ok (place ++ [name]) :=
  resolve_joinPath nest.find isName plain passable (.refl now) (nest.contents.atMostFile name) aim

section Writing

variable {mode : Nat} {data : Bytes}

theorem writeFile (nest : Nest before path place now) (isName : IsName (firstName name))
    (written : now.writeFile (joinPath path name) mode data = .ok after) :
    Nest before path place after := by
  obtain ⟨reached, kept, resolved, -, rfl⟩ := writeFile_puts written
  rw [(nest.resolve_inside isName resolved).1]
  exact nest.fill (.put nest.contents _ _ _)

theorem writeFileWithMode (nest : Nest before path place now) (isName : IsName (firstName name))
    (written : now.writeFileWithMode (joinPath path name) mode data = .ok after) :
    Nest before path place after := by
  obtain ⟨reached, resolved, rfl⟩ := writeFileWithMode_puts written
  rw [(nest.resolve_inside isName resolved).1]
  exact nest.fill (.put nest.contents _ _ _)

end Writing

/-- Removing the directory gives the tree that it was made in. -/
theorem remove (nest : Nest before path place now) : now.removeDirectory path = .ok before := by
  rw [removeDirectory, nest.resolve]
  dsimp only
  rw [nest.contents.directory]
  dsimp only
  rw [nest.outside]

end Nest

end BuildBench.Files
