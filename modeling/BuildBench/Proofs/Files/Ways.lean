import BuildBench.Proofs.Files.Tree

set_option autoImplicit false

/-! The ways through a tree while files are written. Main statement: where a path leads to a
directory, the path of a plain name in it leads to the place of that name, whatever files were
written meanwhile, unless the name or the path is too long. -/

namespace BuildBench.Files.Tree

variable {before after : Tree} {directory place base : Place} {name path : String}

/-! ### Resolution -/

/-- The system takes the path up at all. -/
structure Passable (path : String) : Prop where
  noNul : ¬path.toList.contains (Char.ofNat 0) = true
  inhabited : ¬path.isEmpty = true
  short : ¬pathLimit ≤ path.utf8ByteSize

theorem resolve_eq_walk {tree : Tree} {aim : Aim} (passable : Passable path) :
    tree.resolve path aim = tree.walk aim linkLimit (startOf tree.origin path) (steps path) := by
  rw [resolve, if_neg passable.noNul, if_neg passable.inhabited, if_neg passable.short]

theorem passable_of_resolve {tree : Tree} {aim : Aim}
    (resolved : tree.resolve path aim = .ok place) : Passable path := by
  unfold resolve at resolved
  split at resolved
  · cases resolved
  · split at resolved
    · cases resolved
    · split at resolved
      · cases resolved
      · constructor <;> assumption

/-! ### Writing -/

section Writing

variable {tree : Tree} {mode : Nat} {data : Bytes}

theorem writeFile_puts (written : tree.writeFile path mode data = .ok after) :
    ∃ place kept, tree.resolve path .newFile = .ok place ∧ tree.HoldsAtMostFile place ∧
      after = tree.put place (.file kept data) := by
  unfold writeFile at written
  split at written
  · cases written
  · rename_i place resolved
    split at written
    · rename_i kept old stands
      refine ⟨place, kept, resolved, ?_, (Except.ok.inj written).symm⟩
      intro node found
      rw [stands] at found
      exact ⟨kept, old, (Option.some.inj found).symm⟩
    · cases written
    · rename_i absent
      refine ⟨place, mode, resolved, ?_, (Except.ok.inj written).symm⟩
      intro node found
      rw [absent] at found
      cases found

theorem writeFileWithMode_puts (written : tree.writeFileWithMode path mode data = .ok after) :
    ∃ place, tree.resolve path .newFile = .ok place ∧
      after = tree.put place (.file mode data) := by
  unfold writeFileWithMode at written
  split at written
  · cases written
  · rename_i place resolved
    split at written
    · cases written
    · exact ⟨place, resolved, (Except.ok.inj written).symm⟩

end Writing

/-! ### Ways that are kept -/

/-- What paths lead through, directories and links, stands where it stood. -/
structure KeepsWays (before after : Tree) : Prop where
  origin : after.origin = before.origin
  kept : ∀ other node, before.node? other = some node → (¬∃ mode data, node = .file mode data) →
    after.node? other = some node

namespace KeepsWays

theorem refl (tree : Tree) : KeepsWays tree tree :=
  ⟨rfl, fun _ _ found _ => found⟩

theorem trans {between : Tree} (first : KeepsWays before between)
    (second : KeepsWays between after) : KeepsWays before after :=
  ⟨second.origin.trans first.origin,
    fun other node found way => second.kept other node (first.kept other node found way) way⟩

theorem put (free : before.HoldsAtMostFile place) (node : Node) :
    KeepsWays before (before.put place node) := by
  refine ⟨rfl, ?_⟩
  intro other held found way
  have apart : other ≠ place := by
    rintro rfl
    exact way (free held found)
  rw [node?_put_of_ne apart]
  exact found

end KeepsWays

theorem HoldsAtMostFile.put_file {tree : Tree} (inside : place ≠ []) (mode : Nat) (data : Bytes) :
    (tree.put place (.file mode data)).HoldsAtMostFile place := by
  intro node found
  rw [node?_put_self inside] at found
  exact ⟨mode, data, (Option.some.inj found).symm⟩

/-! ### Walks to a directory -/

section Walk

variable {links : Nat} {names more : List String}

theorem stride_of_walk (held : before.node? place = some .directory)
    (reached : before.walk .target links base (name :: more) = .ok place) :
    ∃ left next inserted, before.stride links base name = .ok (left, next, inserted) ∧
      before.walk .target left next (inserted ++ more) = .ok place := by
  rw [walk] at reached
  unfold stride
  by_cases stays : staysInPlace name = true
  · rw [if_pos stays] at reached ⊢
    exact ⟨_, _, _, rfl, reached⟩
  by_cases up : name = ".."
  · rw [if_neg stays, if_pos up] at reached ⊢
    exact ⟨_, _, _, rfl, reached⟩
  rw [if_neg stays, if_neg up, if_neg (by simp)] at reached
  rw [if_neg stays, if_neg up]
  by_cases long : nameLimit < name.utf8ByteSize
  · rw [if_pos long] at reached
    cases reached
  rw [if_neg long] at reached ⊢
  dsimp only at reached
  -- A walk that ends right here would end at something else than a directory.
  have goesOn (other : Option Node) (stands : before.node? (base ++ [name]) = other)
      (different : other ≠ some .directory) {error : IoError}
      (ended : (if more.isEmpty then Except.ok (base ++ [name]) else .error error) = .ok place) :
      False := by
    split at ended
    · rw [Except.ok.inj ended, held] at stands
      exact different stands.symm
    · cases ended
  cases stands : before.node? (base ++ [name]) with
  | none =>
      rw [stands] at reached
      exact (goesOn none stands (by simp) reached).elim
  | some node =>
      rw [stands] at reached
      cases node with
      | file mode data => exact (goesOn _ stands (by simp) reached).elim
      | directory => exact ⟨_, _, _, rfl, reached⟩
      | link target =>
          have follows : (more.isEmpty && (Aim.target == .entry)) = false := by
            rw [Bool.and_eq_false_iff]
            exact Or.inr (by decide)
          simp only [follows, Bool.false_eq_true, if_false] at reached
          cases links with
          | zero => cases reached
          | succ left => exact ⟨_, _, _, rfl, reached⟩

theorem goes_append (others : more ≠ []) (goes : more ≠ [""]) (names : List String) :
    names ++ more ≠ [] ∧ names ++ more ≠ [""] := by
  constructor
  · intro empty
    exact others (List.append_eq_nil_iff.mp empty).2
  · intro single
    rcases List.append_eq_singleton_iff.mp single with ⟨-, alone⟩ | ⟨-, none⟩
    · exact goes alone
    · exact others none

/-- A walk to a directory goes on from there with the names that follow, for whatever purpose, also
when files were written meanwhile. -/
theorem walk_on (held : before.node? place = some .directory) (links : Nat) (base : Place)
    (names : List String) (reached : before.walk .target links base names = .ok place) :
    ∃ left, ∀ after, KeepsWays before after → ∀ aim more, more ≠ [] → more ≠ [""] →
      after.walk aim links base (names ++ more) = after.walk aim left place more := by
  match names with
  | [] =>
      rw [walk] at reached
      rw [Except.ok.inj reached]
      exact ⟨links, fun _ _ _ _ _ _ => rfl⟩
  | first :: rest =>
      obtain ⟨fewer, next, inserted, strides, onward⟩ := stride_of_walk held reached
      have shorter := stride_decreases strides rest
      obtain ⟨left, same⟩ := walk_on held fewer next (inserted ++ rest) onward
      refine ⟨left, ?_⟩
      intro after keeps aim more others goes
      have further := goes_append others goes rest
      -- The stride met a directory or a link, and those are kept.
      rw [List.cons_append, walk_cons further.1 further.2, stride_kept keeps.kept strides]
      dsimp only
      rw [← List.append_assoc]
      exact same after keeps aim more others goes
  -- A link may add names, but then one link less is left to follow.
  termination_by (links, names.length)
  decreasing_by exact shorter

/-- Where a walk led to write a file, a walk to what stands at the end leads once the file is there. -/
theorem walk_newFile_kept (free : before.HoldsAtMostFile place) (keeps : KeepsWays before after)
    (held : after.HoldsAtMostFile place) (links : Nat) (base : Place) (names : List String)
    (reached : before.walk .newFile links base names = .ok place) :
    after.walk .target links base names = .ok place := by
  -- A name at which the walk ends is that of the file.
  have ends {links : Nat} {base : Place} {name : String} {rest : List String}
      (moves : ¬staysInPlace name = true) (descends : name ≠ "..")
      (short : ¬nameLimit < name.utf8ByteSize) (last : rest.isEmpty = true)
      (reached : Except.ok (base ++ [name]) = (Except.ok place : Except IoError Place)) :
      after.walk .target links base (name :: rest) = .ok place := by
    obtain rfl := Except.ok.inj reached
    rw [List.isEmpty_iff.mp last, walk_name ⟨Bool.eq_false_iff.mpr moves, descends⟩ held,
      if_neg short]
  fun_induction before.walk .newFile links base names with
  | case1 =>
      rw [walk]
      exact reached
  | case2 links base name rest stays ih =>
      rw [walk, if_pos stays]
      exact ih reached
  | case3 links base rest moves ih =>
      rw [walk, if_neg moves, if_pos rfl]
      exact ih reached
  | case4 => cases reached
  | case5 => cases reached
  | case6 links base name rest moves descends goes short inner absent last =>
      exact ends moves descends short last reached
  | case7 => cases reached
  | case8 links base name rest moves descends goes short inner stands ih =>
      have onward : rest ≠ [""] := fun slash => goes ⟨rfl, slash⟩
      have kept := keeps.kept _ _ stands (by simp)
      rw [walk_through_directory ⟨Bool.eq_false_iff.mpr moves, descends⟩ short kept onward]
      exact ih reached
  | case9 links base name rest moves descends goes short inner mode data stands last =>
      exact ends moves descends short last reached
  | case10 => cases reached
  | case11 links base name rest moves descends goes short inner target stands last =>
      simp at last
  | case12 => cases reached
  | case13 base name rest moves descends goes short inner target stands entry links ih =>
      have kept := keeps.kept _ _ stands (by simp)
      have follows : (rest.isEmpty && (Aim.target == .entry)) = false := by
        cases rest <;> rfl
      rw [walk, if_neg moves, if_neg descends, if_neg (by simp), if_neg short]
      dsimp only
      rw [kept]
      dsimp only
      rw [if_neg (by simp [follows])]
      exact ih reached

/-- A step without a name in the middle of others makes no difference. -/
theorem walk_skip {aim : Aim} (others : more ≠ []) (goes : more ≠ [""]) (links : Nat)
    (base : Place) (names : List String) :
    after.walk aim links base (names ++ "" :: more) = after.walk aim links base (names ++ more) := by
  match names with
  | [] => rw [List.nil_append, List.nil_append, walk, if_pos (by decide)]
  | first :: rest =>
      have skips := goes_append (List.cons_ne_nil "" more)
        (fun single => others (List.cons.inj single).2) rest
      have further := goes_append others goes rest
      rw [List.cons_append, List.cons_append, walk_cons skips.1 skips.2,
        walk_cons further.1 further.2]
      cases strides : after.stride links base first with
      | error error => rfl
      | ok result =>
          obtain ⟨fewer, next, inserted⟩ := result
          have shorter := stride_decreases strides rest
          dsimp only
          rw [← List.append_assoc, ← List.append_assoc]
          exact walk_skip others goes fewer next (inserted ++ rest)
  termination_by (links, names.length)
  decreasing_by exact shorter

end Walk

/-! ### Names in a directory -/

/-- A path leads to a place for one file, for whatever purpose, and still does when files were
written meanwhile. -/
structure LeadsToFile (tree : Tree) (path : String) (place : Place) : Prop where
  inside : place ≠ []
  free : tree.HoldsAtMostFile place
  resolved : ∀ after, KeepsWays tree after → after.HoldsAtMostFile place →
    ∀ aim, after.resolve path aim = .ok place

theorem LeadsToFile.kept (leads : before.LeadsToFile path place) (keeps : KeepsWays before after)
    (free : after.HoldsAtMostFile place) : after.LeadsToFile path place :=
  ⟨leads.inside, free, fun later further held =>
    leads.resolved later (keeps.trans further) held⟩

theorem LeadsToFile.resolve (leads : before.LeadsToFile path place) (aim : Aim) :
    before.resolve path aim = .ok place :=
  leads.resolved before (.refl before) leads.free aim

theorem LeadsToFile.writeFileWithMode (leads : before.LeadsToFile path place) (mode : Nat)
    (data : Bytes) :
    before.writeFileWithMode path mode data = .ok (before.put place (.file mode data)) := by
  rw [Tree.writeFileWithMode, leads.resolve]
  dsimp only
  cases held : before.node? place with
  | none => rfl
  | some node =>
      obtain ⟨_, _, rfl⟩ := leads.free node held
      rfl

theorem startOf_joinPath {directory name : String} (inhabited : directory.toList ≠ [])
    (relative : name.toList.head? ≠ some '/') (base : Place) :
    startOf base (joinPath directory name) = startOf base directory := by
  rw [startOf, isAbsolute_joinPath inhabited relative, startOf]

theorem find_eq_ok {tree : Tree} {node : Node} : tree.find path = .ok (place, node) ↔
    tree.resolve path .target = .ok place ∧ tree.node? place = some node := by
  unfold find
  cases tree.resolve path .target with
  | error error => simp
  | ok reached =>
      cases stands : tree.node? reached with
      | none =>
          simp only [stands, Except.ok.injEq, reduceCtorEq, false_iff, not_and]
          rintro rfl found
          rw [stands] at found
          cases found
      | some held =>
          simp only [stands, Except.ok.injEq, Prod.mk.injEq]
          constructor
          · rintro ⟨rfl, rfl⟩
            exact ⟨rfl, stands⟩
          · rintro ⟨rfl, found⟩
            rw [stands] at found
            exact ⟨rfl, Option.some.inj found⟩

/-- The path of a plain name in a directory leads to that name there, unless the name is too
long. -/
theorem resolve_joinPath {path : String} (found : before.find path = .ok (directory, .directory))
    (isName : IsName name) (plain : '/' ∉ name.toList) (passable : Passable (joinPath path name))
    (keeps : KeepsWays before after) (free : after.HoldsAtMostFile (directory ++ [name]))
    (aim : Aim) :
    after.resolve (joinPath path name) aim =
      if nameLimit < name.utf8ByteSize then .error .nameTooLong else .ok (directory ++ [name]) := by
  have relative : name.toList.head? ≠ some '/' := fun slash => plain (List.mem_of_mem_head? slash)
  have goes : [name] ≠ [""] := fun same => isName.ne_empty (List.cons.inj same).1
  obtain ⟨resolved, held⟩ := find_eq_ok.mp found
  have passes := passable_of_resolve resolved
  have inhabited : path.toList ≠ [] := by
    rw [Ne, String.toList_eq_nil_iff, ← String.isEmpty_iff]
    exact passes.inhabited
  rw [resolve_eq_walk passes] at resolved
  obtain ⟨left, same⟩ := walk_on held linkLimit (startOf before.origin path) (steps path) resolved
  have onward := same after keeps aim [name] (List.cons_ne_nil _ _) goes
  obtain ⟨names, joined, shape⟩ := steps_joinPath_last path isName.ne_empty plain
  rw [resolve_eq_walk passable, startOf_joinPath inhabited relative, joined, keeps.origin,
    ← walk_name isName free, ← onward]
  -- With a slash behind the directory its path has a step more, which stays in place.
  rcases shape with same | slash
  · rw [same]
  · rw [slash, List.append_assoc, List.singleton_append,
      walk_skip (List.cons_ne_nil _ _) goes]

/-- A plain name in a directory that a path leads to at all is the name of one file there, if
nothing else has that name. -/
theorem leadsToFile_joinPath {path : String} {reached : Place} {aim : Aim}
    (found : before.find path = .ok (directory, .directory)) (isName : IsName name)
    (plain : '/' ∉ name.toList) (free : before.HoldsAtMostFile (directory ++ [name]))
    (keeps : KeepsWays before after) (held : after.HoldsAtMostFile (directory ++ [name]))
    (resolved : after.resolve (joinPath path name) aim = .ok reached) :
    before.LeadsToFile (joinPath path name) (directory ++ [name]) := by
  have passable := passable_of_resolve resolved
  rw [resolve_joinPath found isName plain passable keeps held] at resolved
  split at resolved
  · cases resolved
  · rename_i short
    refine ⟨by simp, free, ?_⟩
    intro later further holds aim
    rw [resolve_joinPath found isName plain passable further holds, if_neg short]

/-! ### Reading what was written -/

/-- What was written to a path is found there. -/
theorem content_writeFile {tree : Tree} {mode : Nat} {data : Bytes}
    (written : tree.writeFile path mode data = .ok after) : after.content path = .ok data := by
  obtain ⟨place, kept, resolved, free, rfl⟩ := writeFile_puts written
  have inside : place ≠ [] := by
    rintro rfl
    obtain ⟨_, _, same⟩ := free .directory rfl
    cases same
  have passes := passable_of_resolve resolved
  rw [resolve_eq_walk passes] at resolved
  have reached : (tree.put place (.file kept data)).resolve path .target = .ok place := by
    rw [resolve_eq_walk passes]
    exact walk_newFile_kept free (.put free _) (.put_file inside kept data) _ _ _ resolved
  rw [content, find_eq_ok.mpr ⟨reached, node?_put_self inside⟩]

end BuildBench.Files.Tree
