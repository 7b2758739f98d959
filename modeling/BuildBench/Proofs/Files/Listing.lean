import BuildBench.Proofs.Files.Nest

set_option autoImplicit false

/-! The names in a directory. Main statements: putting something into a directory adds its name at
the end of those that are there, unless it is one of them, and a directory that was just made lists
nothing. -/

namespace BuildBench.Files.Tree

variable {tree : Tree} {place directory : Place} {node : Node} {name : String}

theorem map_fst_putInto (place : Place) (node : Node) (entries : List (Place × Node)) :
    (putInto place node entries).map Prod.fst =
      if place ∈ entries.map Prod.fst then entries.map Prod.fst
      else entries.map Prod.fst ++ [place] := by
  induction entries with
  | nil => rfl
  | cons entry rest ih =>
      obtain ⟨head, held⟩ := entry
      rw [putInto]
      by_cases here : head = place
      · rw [if_pos here, List.map_cons, List.map_cons, if_pos (by simp [here])]
      · rw [if_neg here, List.map_cons, ih, List.map_cons]
        by_cases later : place ∈ rest.map Prod.fst
        · rw [if_pos later, if_pos (List.mem_cons_of_mem _ later)]
        · rw [if_neg later, if_neg (by simpa [Ne.symm here] using later)]
          rfl

/-- The name of a place in a directory. -/
def nameIn? (directory place : Place) : Option String :=
  match place.getLast? with
  | some name => if place.dropLast = directory then some name else none
  | none => none

theorem namesIn_eq (tree : Tree) (directory : Place) :
    tree.namesIn directory = (tree.entries.map Prod.fst).filterMap (nameIn? directory) := by
  rw [List.filterMap_map]
  rfl

theorem nameIn?_eq_some : nameIn? directory place = some name ↔ place = directory ++ [name] := by
  unfold nameIn?
  cases last : place.getLast? with
  | none =>
      rw [List.getLast?_eq_none_iff] at last
      simp [last]
  | some final =>
      obtain ⟨above, rfl⟩ := List.getLast?_eq_some_iff.mp last
      rw [List.dropLast_concat]
      by_cases same : above = directory
      · simp [same]
      · simp [same]

theorem mem_namesIn : name ∈ tree.namesIn directory ↔
    directory ++ [name] ∈ tree.entries.map Prod.fst := by
  rw [namesIn_eq, List.mem_filterMap]
  simp only [nameIn?_eq_some, exists_eq_right]

/-- A name comes once to the names in a directory. -/
theorem namesIn_put : (tree.put (directory ++ [name]) node).namesIn directory =
    if name ∈ tree.namesIn directory then tree.namesIn directory
    else tree.namesIn directory ++ [name] := by
  have own : nameIn? directory (directory ++ [name]) = some name := nameIn?_eq_some.mpr rfl
  rw [namesIn_eq, put, map_fst_putInto]
  by_cases present : directory ++ [name] ∈ tree.entries.map Prod.fst
  · rw [if_pos present, if_pos (mem_namesIn.mpr present), namesIn_eq]
  · rw [if_neg present, if_neg (mt mem_namesIn.mp present), List.filterMap_append, namesIn_eq,
      List.filterMap_cons_some own, List.filterMap_nil]

/-- In a new directory there are no names. -/
theorem Rooted.namesIn_new (rooted : tree.Rooted) (absent : tree.node? place = none) :
    (tree.put place .directory).namesIn place = [] := by
  rw [List.eq_nil_iff_forall_not_mem]
  intro name listed
  rw [mem_namesIn, put, map_fst_putInto] at listed
  have nothing : place ++ [name] ∉ tree.entries.map Prod.fst := by
    intro present
    obtain ⟨entry, member, same⟩ := List.mem_map.mp present
    exact rooted.absent_below absent entry member (same ▸ List.prefix_append place [name])
  split at listed
  · exact nothing listed
  · rcases List.mem_append.mp listed with earlier | own
    · exact nothing earlier
    · have same : place ++ [name] = place := List.mem_singleton.mp own
      simp at same

end BuildBench.Files.Tree
