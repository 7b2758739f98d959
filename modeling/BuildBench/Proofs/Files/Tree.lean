import BuildBench.Files.Tree
import BuildBench.Proofs.Files.Path
import Mathlib.Data.List.Induction

set_option autoImplicit false

/-! What stands where in a file tree after something was put into it or taken out. Main statements:
nothing stands below a place where nothing stands, and a path that led to a place where nothing
stood leads to the directory that was made there, and from there on. -/

namespace BuildBench.Files.Tree

variable {tree : Tree} {place other : Place} {node : Node}

/-! ### Putting -/

theorem lookup_entry (head : Place) (held : Node) (rest : List (Place × Node)) (other : Place) :
    ((head, held) :: rest).lookup other =
      if other = head then some held else rest.lookup other := by
  by_cases same : other = head
  · rw [if_pos same, same, List.lookup_cons_self]
  · rw [if_neg same, List.lookup_cons, beq_eq_false_iff_ne.mpr same]

theorem lookup_putInto (place other : Place) (node : Node) (entries : List (Place × Node)) :
    (putInto place node entries).lookup other =
      if other = place then some node else entries.lookup other := by
  induction entries with
  | nil => rw [putInto, lookup_entry]
  | cons entry rest ih =>
      obtain ⟨head, held⟩ := entry
      rw [putInto]
      by_cases here : head = place
      · rw [if_pos here, lookup_entry, lookup_entry, here]
        by_cases same : other = place
        · rw [if_pos same, if_pos same]
        · rw [if_neg same, if_neg same, if_neg same]
      · rw [if_neg here, lookup_entry, lookup_entry, ih]
        by_cases same : other = head
        · rw [if_pos same, if_pos same, if_neg (same ▸ here)]
        · rw [if_neg same, if_neg same]

theorem node?_of_ne_nil (inside : place ≠ []) : tree.node? place = tree.entries.lookup place := by
  rw [node?, if_neg (by rwa [List.isEmpty_iff])]

theorem ne_nil_of_absent (absent : tree.node? place = none) : place ≠ [] := by
  rintro rfl
  cases absent

theorem node?_put_self (inside : place ≠ []) : (tree.put place node).node? place = some node := by
  rw [node?_of_ne_nil inside, put, lookup_putInto, if_pos rfl]

theorem node?_put_of_ne (apart : other ≠ place) :
    (tree.put place node).node? other = tree.node? other := by
  unfold node?
  rw [put, lookup_putInto, if_neg apart]

/-! ### Pruning -/

theorem mem_prune {entry : Place × Node} :
    entry ∈ (tree.prune place).entries ↔ entry ∈ tree.entries ∧ ¬place <+: entry.1 := by
  rw [prune, List.mem_filter, Bool.not_eq_true', ← Bool.not_eq_true, List.isPrefixOf_iff_prefix]

theorem prune_put (below : place <+: other) :
    (tree.put other node).prune place = tree.prune place := by
  have gone (held : Node) (rest : List (Place × Node)) :
      ((other, held) :: rest).filter (fun entry => !place.isPrefixOf entry.1) =
        rest.filter fun entry => !place.isPrefixOf entry.1 := by
    apply List.filter_cons_of_neg
    rw [List.isPrefixOf_iff_prefix.mpr below]
    exact Bool.false_ne_true
  have filtered (entries : List (Place × Node)) :
      (putInto other node entries).filter (fun entry => !place.isPrefixOf entry.1) =
        entries.filter fun entry => !place.isPrefixOf entry.1 := by
    induction entries with
    | nil => rw [putInto, gone]
    | cons entry rest ih =>
        obtain ⟨head, held⟩ := entry
        rw [putInto]
        by_cases here : head = other
        · rw [if_pos here, here, gone, gone]
        · rw [if_neg here, List.filter_cons, List.filter_cons, ih]
  unfold prune put
  rw [filtered]

theorem prune_eq_self (absent : ∀ entry ∈ tree.entries, ¬place <+: entry.1) :
    tree.prune place = tree := by
  have kept : tree.entries.filter (fun entry => !place.isPrefixOf entry.1) = tree.entries := by
    apply List.filter_eq_self.mpr
    intro entry member
    rw [Bool.not_eq_true', ← Bool.not_eq_true, List.isPrefixOf_iff_prefix]
    exact absent entry member
  unfold prune
  rw [kept]

theorem lookup_filter_outside (entries : List (Place × Node)) (outside : ¬place <+: other) :
    (entries.filter fun entry => !place.isPrefixOf entry.1).lookup other =
      entries.lookup other := by
  induction entries with
  | nil => rfl
  | cons entry rest ih =>
      obtain ⟨head, held⟩ := entry
      rw [List.filter_cons, lookup_entry]
      by_cases below : place <+: head
      · have apart : other ≠ head := fun same => outside (same ▸ below)
        rw [List.isPrefixOf_iff_prefix.mpr below, if_neg apart]
        exact ih
      · rw [← List.isPrefixOf_iff_prefix, Bool.not_eq_true] at below
        rw [below, Bool.not_false, if_pos rfl, lookup_entry, ih]

/-- What is left after a place is taken out stood there before. -/
theorem node?_of_prune (found : (tree.prune place).node? other = some node) :
    tree.node? other = some node := by
  by_cases top : other = []
  · rw [top] at found ⊢
    exact found
  · rw [node?_of_ne_nil top] at found ⊢
    by_cases below : place <+: other
    · obtain ⟨_, _, same, _⟩ := List.lookup_eq_some_iff.mp found
      have member : (other, node) ∈ (tree.prune place).entries := by
        rw [same]
        exact List.mem_append_right _ List.mem_cons_self
      exact absurd below (mem_prune.mp member).2
    · rw [← lookup_filter_outside tree.entries below]
      exact found

/-! ### Rooted trees -/

/-- Whatever stands somewhere stands in a directory. -/
def Rooted (tree : Tree) : Prop :=
  ∀ entry ∈ tree.entries, tree.node? entry.1.dropLast = some .directory

/-- Nothing stands below a place where nothing stands. -/
theorem Rooted.absent_below (rooted : tree.Rooted) (absent : tree.node? place = none) :
    ∀ entry ∈ tree.entries, ¬place <+: entry.1 := by
  have apart : ∀ (inside : Place) (node : Node),
      (inside, node) ∈ tree.entries → ¬place <+: inside := by
    intro inside
    -- What stands inside has a directory right above it, so the induction goes up, until that
    -- directory is the place where nothing stands.
    induction inside using List.reverseRecOn with
    | nil =>
        intro node _member below
        exact ne_nil_of_absent absent (List.prefix_nil.mp below)
    | append_singleton above name ih =>
        intro node member below
        have parent := rooted _ member
        rw [List.dropLast_concat] at parent
        rcases List.prefix_concat_iff.mp below with same | higher
        · rw [node?_of_ne_nil (ne_nil_of_absent absent), List.lookup_eq_none_iff] at absent
          have apart := absent _ member
          rw [same] at apart
          simp at apart
        · have inside : above ≠ [] := by
            rintro rfl
            exact ne_nil_of_absent absent (List.prefix_nil.mp higher)
          rw [node?_of_ne_nil inside] at parent
          obtain ⟨_, _, same, _⟩ := List.lookup_eq_some_iff.mp parent
          refine ih .directory ?_ higher
          rw [same]
          exact List.mem_append_right _ List.mem_cons_self
  rintro ⟨inside, node⟩ member
  exact apart inside node member

theorem Rooted.node?_below (rooted : tree.Rooted) (absent : tree.node? place = none)
    (more : Place) : tree.node? (place ++ more) = none := by
  have inside : place ++ more ≠ [] := by
    intro empty
    exact ne_nil_of_absent absent (List.append_eq_nil_iff.mp empty).1
  rw [node?_of_ne_nil inside, List.lookup_eq_none_iff]
  intro entry member
  rw [bne_iff_ne]
  intro same
  exact rooted.absent_below absent entry member (same ▸ List.prefix_append place more)

/-! ### Walking -/

section Walk

variable {aim : Aim} {links : Nat} {base : Place} {name : String} {more : List String}

/-- Where a walk stands after a name that others follow: the links that it may still take, the
directory, and the names that come before the others. -/
def stride (tree : Tree) (links : Nat) (base : Place) (name : String) :
    Except IoError (Nat × Place × List String) :=
  if staysInPlace name then .ok (links, base, [])
  else if name = ".." then .ok (links, base.dropLast, [])
  else if nameLimit < name.utf8ByteSize then .error .nameTooLong
  else
    match tree.node? (base ++ [name]) with
    | none => .error .notFound
    | some .directory => .ok (links, base ++ [name], [])
    | some (.file _ _) => .error .notDirectory
    | some (.link target) =>
        match links with
        | 0 => .error .tooManyLinks
        | links + 1 => .ok (links, startOf base target, steps target)

theorem walk_cons (others : more ≠ []) (goes : more ≠ [""]) :
    tree.walk aim links base (name :: more) =
      match tree.stride links base name with
      | .ok (links, base, names) => tree.walk aim links base (names ++ more)
      | .error error => .error error := by
  have further : more.isEmpty = false := List.isEmpty_eq_false_iff.mpr others
  rw [walk, stride]
  by_cases stays : staysInPlace name = true
  · rw [if_pos stays, if_pos stays]
    rfl
  by_cases up : name = ".."
  · rw [if_neg stays, if_neg stays, if_pos up, if_pos up]
    rfl
  by_cases long : nameLimit < name.utf8ByteSize
  · rw [if_neg stays, if_neg stays, if_neg up, if_neg up, if_neg fun slash => goes slash.2,
      if_pos long, if_pos long]
  rw [if_neg stays, if_neg stays, if_neg up, if_neg up, if_neg fun slash => goes slash.2,
    if_neg long, if_neg long]
  dsimp only
  cases tree.node? (base ++ [name]) with
  | none => simp [further]
  | some node =>
      cases node with
      | file mode data => simp [further]
      | directory => rfl
      | link target =>
          simp only [further, Bool.false_and, Bool.false_eq_true, if_false]
          cases links <;> rfl

/-- A stride takes a link or adds no names. -/
theorem stride_decreases {links left : Nat} {base after : Place} {names : List String}
    (strides : tree.stride links base name = .ok (left, after, names)) (rest : List String) :
    Prod.Lex (· < ·) (· < ·) (left, (names ++ rest).length) (links, (name :: rest).length) := by
  have shorter : Prod.Lex (· < ·) (· < ·) (links, ([] ++ rest).length)
      (links, (name :: rest).length) :=
    Prod.Lex.right _ (Nat.lt_succ_self _)
  unfold stride at strides
  split at strides
  · cases strides
    exact shorter
  · split at strides
    · cases strides
      exact shorter
    · split at strides
      · cases strides
      · split at strides
        · cases strides
        · cases strides
          exact shorter
        · cases strides
        · split at strides
          · cases strides
          · cases strides
            exact Prod.Lex.left _ _ (Nat.lt_succ_self _)

/-- A stride depends only on what stands at one place, and only if a directory or a link stands
there. -/
theorem stride_kept {before after : Tree}
    (kept : ∀ other node, before.node? other = some node →
      (¬∃ mode data, node = .file mode data) → after.node? other = some node)
    {result : Nat × Place × List String} (strides : before.stride links base name = .ok result) :
    after.stride links base name = .ok result := by
  unfold stride at strides ⊢
  by_cases stays : staysInPlace name = true
  · rw [if_pos stays] at strides ⊢
    exact strides
  by_cases up : name = ".."
  · rw [if_neg stays, if_pos up] at strides ⊢
    exact strides
  rw [if_neg stays, if_neg up] at strides ⊢
  by_cases long : nameLimit < name.utf8ByteSize
  · rw [if_pos long] at strides
    cases strides
  rw [if_neg long] at strides ⊢
  cases held : before.node? (base ++ [name]) with
  | none =>
      rw [held] at strides
      cases strides
  | some node =>
      rw [held] at strides
      have way : ¬∃ mode data, node = .file mode data := by
        rintro ⟨mode, data, rfl⟩
        cases strides
      rw [kept _ _ held way]
      exact strides

theorem walk_through_directory (isName : IsName name) (short : ¬nameLimit < name.utf8ByteSize)
    (held : tree.node? (base ++ [name]) = some .directory) (goes : more ≠ [""]) :
    tree.walk aim links base (name :: more) = tree.walk aim links (base ++ [name]) more := by
  rw [walk, if_neg (Bool.eq_false_iff.mp isName.moves), if_neg isName.descends,
    if_neg fun slash => goes slash.2, if_neg short]
  dsimp only
  rw [held]

/-- Nothing stands at a place, or a file. -/
def HoldsAtMostFile (tree : Tree) (place : Place) : Prop :=
  ∀ node, tree.node? place = some node → ∃ mode data, node = .file mode data

/-- The last name leads to the file of that name, or to where it is missing. -/
theorem walk_name (isName : IsName name) (free : tree.HoldsAtMostFile (base ++ [name])) :
    tree.walk aim links base [name] =
      if nameLimit < name.utf8ByteSize then .error .nameTooLong else .ok (base ++ [name]) := by
  rw [walk, if_neg (Bool.eq_false_iff.mp isName.moves), if_neg isName.descends, if_neg (by simp)]
  split
  · rfl
  · dsimp only
    cases held : tree.node? (base ++ [name]) with
    | none => rfl
    | some node =>
        obtain ⟨mode, data, rfl⟩ := free node held
        rfl

theorem walk_to_new (isName : IsName name) (short : ¬nameLimit < name.utf8ByteSize)
    (absent : tree.node? (base ++ [name]) = none) :
    tree.walk aim links base [name] = .ok (base ++ [name]) := by
  have free : tree.HoldsAtMostFile (base ++ [name]) := by
    intro node found
    rw [absent] at found
    cases found
  rw [walk_name isName free, if_neg short]

/-- A walk that ends where nothing stands ends with a name that is missing in its directory. -/
theorem walk_to_absent (isName : IsName name) (absent : tree.node? place = none)
    (reached : tree.walk .entry links base [name] = .ok place) :
    base ++ [name] = place ∧ ¬nameLimit < name.utf8ByteSize := by
  rw [walk, if_neg (Bool.eq_false_iff.mp isName.moves), if_neg isName.descends,
    if_neg (by simp)] at reached
  split at reached
  · cases reached
  · rename_i short
    dsimp only at reached
    cases held : tree.node? (base ++ [name]) with
    | none =>
        rw [held] at reached
        exact ⟨Except.ok.inj reached, short⟩
    | some node =>
        -- Were there something, the walk would have ended at it.
        have ended : base ++ [name] = place := by
          cases node <;> rw [held] at reached
          · exact Except.ok.inj reached
          · simp only [walk] at reached
            exact Except.ok.inj reached
          · exact Except.ok.inj reached
        rw [ended, absent] at held
        cases held

/-- A path that led to a place where nothing stood leads to the directory that was made there, and
from there on. -/
theorem walk_through {before after : Tree} (isName : IsName name)
    (absent : before.node? place = none) (made : after.node? place = some .directory)
    (kept : ∀ other node, before.node? other = some node → after.node? other = some node)
    (links : Nat) (base : Place) (names : List String)
    (reached : before.walk .entry links base (names ++ [name]) = .ok place) :
    ∃ left, ∀ aim more, more ≠ [""] →
      after.walk aim links base (names ++ name :: more) = after.walk aim left place more := by
  match names with
  | [] =>
      obtain ⟨ended, short⟩ := walk_to_absent isName absent reached
      refine ⟨links, ?_⟩
      intro aim more goes
      rw [List.nil_append, walk_through_directory isName short (by rw [ended]; exact made) goes,
        ended]
  | first :: rest =>
      have others (more : List String) : rest ++ name :: more ≠ [] := by
        cases rest <;> exact List.cons_ne_nil _ _
      have goes (more : List String) : rest ++ name :: more ≠ [""] := by
        intro same
        cases rest with
        | nil => exact isName.ne_empty (List.cons.inj same).1
        | cons second others => simp at same
      rw [List.cons_append, walk_cons (others []) (goes [])] at reached
      cases strides : before.stride links base first with
      | error error =>
          rw [strides] at reached
          cases reached
      | ok result =>
          obtain ⟨fewer, next, inserted⟩ := result
          have shorter := stride_decreases strides rest
          rw [strides] at reached
          dsimp only at reached
          rw [← List.append_assoc] at reached
          obtain ⟨left, same⟩ :=
            walk_through isName absent made kept fewer next (inserted ++ rest) reached
          refine ⟨left, ?_⟩
          intro aim more goesOn
          -- The stride met only what is kept, so it goes the same way afterwards.
          rw [List.cons_append, walk_cons (others more) (goes more),
            stride_kept (fun other node found _ => kept other node found) strides]
          dsimp only
          rw [← List.append_assoc]
          exact same aim more goesOn
  -- A link may add names, but then one link less is left to follow.
  termination_by (links, names.length)
  decreasing_by exact shorter

end Walk

end BuildBench.Files.Tree
