import BuildBench.Files.Path
import BuildBench.Proofs.Text.Parts

set_option autoImplicit false

/-! The steps of joined paths. Main statement: whatever slashes and points a name holds, the steps
of its path in a directory are those of the directory, then the first piece of the name, and then
others. -/

namespace BuildBench.Files

open BuildBench.Text

/-- A name under which something stands in a directory: neither the directory nor the one above. -/
structure IsName (name : String) : Prop where
  moves : staysInPlace name = false
  descends : name ≠ ".."

def firstName (path : String) : String :=
  String.ofList (path.toList.takeWhile (· ≠ '/'))

/-- A path that does not end with a slash, so that a slash and a name can follow. -/
structure IsOpen (path : String) : Prop where
  inhabited : path.toList ≠ []
  bare : path.toList.getLast? ≠ some '/'

theorem IsName.ne_empty {name : String} (isName : IsName name) : name ≠ "" := by
  rintro rfl
  exact absurd isName.moves (by decide)

theorem isName_of_hyphen {name : String} (hyphen : '-' ∈ name.toList) : IsName name := by
  have apart : name ≠ "" ∧ name ≠ "." ∧ name ≠ ".." := by
    refine ⟨?_, ?_, ?_⟩ <;> rintro rfl <;> exact absurd hyphen (by decide)
  constructor
  · rw [staysInPlace, Bool.or_eq_false_iff, beq_eq_false_iff_ne, ← Bool.not_eq_true,
      String.isEmpty_iff]
    exact ⟨apart.1, apart.2.1⟩
  · exact apart.2.2

theorem firstName_of_notMem {name : String} (plain : '/' ∉ name.toList) :
    firstName name = name := by
  have all : ∀ c ∈ name.toList, decide (c ≠ '/') = true := by
    rintro c member
    exact decide_eq_true fun same => plain (same ▸ member)
  rw [firstName, List.takeWhile_eq_self_iff.mpr all, String.ofList_toList]

theorem head_ne_slash {name : String} (named : firstName name ≠ "") :
    name.toList.head? ≠ some '/' := by
  intro slash
  apply named
  cases text : name.toList with
  | nil => rw [text] at slash; cases slash
  | cons c rest =>
      rw [text] at slash
      cases slash
      rw [firstName, text]
      rfl

/-! ### Joining -/

theorem joinPath_of_open {directory name : String} (isOpen : IsOpen directory)
    (relative : name.toList.head? ≠ some '/') :
    (joinPath directory name).toList = directory.toList ++ '/' :: name.toList := by
  have closed : ¬(directory.isEmpty = true ∨ directory.toList.getLast? = some '/') := by
    rw [String.isEmpty_iff, ← String.toList_eq_nil_iff, not_or]
    exact ⟨isOpen.inhabited, isOpen.bare⟩
  rw [joinPath, if_neg relative, if_neg closed]
  simp

theorem joinPath_ends (directory : String) {name : String}
    (relative : name.toList.head? ≠ some '/') :
    (joinPath directory name).toList = name.toList ∨
      ∃ before, (joinPath directory name).toList = before ++ '/' :: name.toList := by
  by_cases closed : directory.isEmpty = true ∨ directory.toList.getLast? = some '/'
  · rw [joinPath, if_neg relative, if_pos closed, String.toList_append]
    rcases closed with empty | slash
    · left
      rw [String.toList_eq_nil_iff.mpr (String.isEmpty_iff.mp empty), List.nil_append]
    · right
      obtain ⟨before, same⟩ := List.getLast?_eq_some_iff.mp slash
      exact ⟨before, by rw [same]; simp⟩
  · right
    rw [joinPath, if_neg relative, if_neg closed]
    exact ⟨directory.toList, by simp⟩

theorem isAbsolute_joinPath {directory name : String} (inhabited : directory.toList ≠ [])
    (relative : name.toList.head? ≠ some '/') :
    isAbsolute (joinPath directory name) = isAbsolute directory := by
  obtain ⟨more, joined⟩ : ∃ more, (joinPath directory name).toList = directory.toList ++ more := by
    rw [joinPath, if_neg relative]
    split
    · exact ⟨name.toList, String.toList_append⟩
    · exact ⟨'/' :: name.toList, by simp⟩
  obtain ⟨c, rest, text⟩ := List.exists_cons_of_ne_nil inhabited
  rw [isAbsolute, isAbsolute, joined, text]
  rfl

/-! ### Steps -/

theorem filter_named {name : String} (named : name ≠ "") (rest : List String) :
    (name :: rest).filter (!·.isEmpty) = name :: rest.filter (!·.isEmpty) := by
  apply List.filter_cons_of_pos
  rw [Bool.not_eq_true', ← Bool.not_eq_true, String.isEmpty_iff]
  exact named

theorem steps_of_open {path : String} (bare : path.toList.getLast? ≠ some '/') :
    steps path = (piecesOf '/' path).filter (!·.isEmpty) := by
  unfold steps
  dsimp only
  rw [beq_eq_false_iff_ne.mpr bare, Bool.and_false]
  rfl

theorem steps_eq_filter_append (path : String) :
    ∃ last, (last = [] ∨ last = [""]) ∧
      steps path = (piecesOf '/' path).filter (!·.isEmpty) ++ last := by
  unfold steps
  dsimp only
  split
  · exact ⟨[""], Or.inr rfl, rfl⟩
  · exact ⟨[], Or.inl rfl, (List.append_nil _).symm⟩

theorem names_of_plain {name : String} (named : name ≠ "") (plain : '/' ∉ name.toList) :
    ((pieces '/' name.toList).map String.ofList).filter (!·.isEmpty) = [name] := by
  rw [pieces_of_notMem plain, List.map_singleton, String.ofList_toList, filter_named named]
  rfl

/-- The last step of a plain name's path is that name. -/
theorem steps_joinPath_plain (directory : String) {name : String} (named : name ≠ "")
    (plain : '/' ∉ name.toList) :
    IsOpen (joinPath directory name) ∧
      ∃ before, steps (joinPath directory name) = before ++ [name] := by
  have inhabited : name.toList ≠ [] := fun empty => named (String.toList_eq_nil_iff.mp empty)
  have relative : name.toList.head? ≠ some '/' := fun slash => plain (List.mem_of_mem_head? slash)
  have bare : name.toList.getLast? ≠ some '/' := fun slash =>
    plain (List.mem_of_mem_getLast? slash)
  have whole := names_of_plain named plain
  rcases joinPath_ends directory relative with same | ⟨before, same⟩
  · have isOpen : IsOpen (joinPath directory name) := by
      constructor <;> rw [same] <;> assumption
    refine ⟨isOpen, [], ?_⟩
    rw [steps_of_open isOpen.bare, piecesOf, same, whole]
    rfl
  · have isOpen : IsOpen (joinPath directory name) := by
      constructor
      · rw [same]
        simp
      · rw [same, List.getLast?_append, List.getLast?_cons_of_ne_nil inhabited,
          List.getLast?_eq_some_getLast inhabited]
        rw [List.getLast?_eq_some_getLast inhabited] at bare
        exact bare
    refine ⟨isOpen, ((pieces '/' before).map String.ofList).filter (!·.isEmpty), ?_⟩
    rw [steps_of_open isOpen.bare, piecesOf, same, pieces_append_cons, List.map_append,
      List.filter_append, whole]

/-- A plain name in a directory is one more step. -/
theorem steps_joinPath_name {directory name : String} (isOpen : IsOpen directory)
    (named : name ≠ "") (plain : '/' ∉ name.toList) :
    steps (joinPath directory name) = steps directory ++ [name] := by
  have relative : name.toList.head? ≠ some '/' := fun slash => plain (List.mem_of_mem_head? slash)
  rw [steps_of_open (steps_joinPath_plain directory named plain).1.bare, steps_of_open isOpen.bare,
    piecesOf, piecesOf, joinPath_of_open isOpen relative, pieces_append_cons, List.map_append,
    List.filter_append, names_of_plain named plain]

/-- However the path of a directory is written, a plain name in it is one more step, but for a slash
at the end. -/
theorem steps_joinPath_last (directory : String) {name : String} (named : name ≠ "")
    (plain : '/' ∉ name.toList) :
    ∃ names, steps (joinPath directory name) = names ++ [name] ∧
      (steps directory = names ∨ steps directory = names ++ [""]) := by
  have relative : name.toList.head? ≠ some '/' := fun slash => plain (List.mem_of_mem_head? slash)
  obtain ⟨last, shape, stepped⟩ := steps_eq_filter_append directory
  refine ⟨(piecesOf '/' directory).filter (!·.isEmpty), ?_, ?_⟩
  · by_cases closed : directory.isEmpty = true ∨ directory.toList.getLast? = some '/'
    · have bare := (steps_joinPath_plain directory named plain).1.bare
      have joined : (joinPath directory name).toList = directory.toList ++ name.toList := by
        rw [joinPath, if_neg relative, if_pos closed, String.toList_append]
      rw [steps_of_open bare, piecesOf, piecesOf, joined]
      rcases closed with empty | slash
      · rw [String.toList_eq_nil_iff.mpr (String.isEmpty_iff.mp empty), List.nil_append,
          names_of_plain named plain]
        rfl
      · obtain ⟨before, text⟩ := List.getLast?_eq_some_iff.mp slash
        rw [text, List.append_assoc, List.singleton_append, pieces_append_cons,
          pieces_append_cons, List.map_append, List.map_append, List.filter_append,
          List.filter_append, names_of_plain named plain]
        change _ = _ ++ [] ++ _
        rw [List.append_nil]
    · rw [String.isEmpty_iff, ← String.toList_eq_nil_iff, not_or] at closed
      rw [steps_joinPath_name ⟨closed.1, closed.2⟩ named plain, steps_of_open closed.2]
  · rcases shape with rfl | rfl
    · left
      rw [stepped, List.append_nil]
    · exact Or.inr stepped

/-- A path in a directory steps through the directory, and then into the first piece of the
name. It goes on from there if there is more than a slash behind that. -/
theorem steps_joinPath {directory name : String} (isOpen : IsOpen directory)
    (named : firstName name ≠ "") :
    ∃ rest, steps (joinPath directory name) = steps directory ++ firstName name :: rest ∧
      ('/' ∈ name.toList → name.toList.getLast? ≠ some '/' → rest ≠ []) := by
  obtain ⟨last, -, filtered⟩ := steps_eq_filter_append (joinPath directory name)
  obtain ⟨others, cut⟩ := pieces_eq_cons '/' name.toList
  refine ⟨(others.map String.ofList).filter (!·.isEmpty) ++ last, ?_, ?_⟩
  · rw [filtered, steps_of_open isOpen.bare, piecesOf,
      joinPath_of_open isOpen (head_ne_slash named), pieces_append_cons, cut, List.map_append,
      List.filter_append, List.map_cons]
    change _ ++ List.filter _ (firstName name :: _) ++ _ = _
    rw [filter_named named, piecesOf, List.append_assoc, List.cons_append]
  · intro slash bare empty
    obtain ⟨first, after, split, plain⟩ := List.eq_append_cons_of_mem slash
    rw [split, pieces_append_cons, pieces_of_notMem plain, List.singleton_append] at cut
    rw [← (List.cons.inj cut).2] at empty
    -- The last character stands in a piece behind the slash.
    cases ends : after.getLast? with
    | none =>
        rw [List.getLast?_eq_none_iff.mp ends] at split
        exact bare (by simp [split])
    | some c =>
        have other : c ≠ '/' := by
          rintro rfl
          exact bare (by simp [split, List.getLast?_cons, ends])
        obtain ⟨part, listed, inside⟩ := exists_mem_pieces other (List.mem_of_getLast? ends)
        have filled : part ≠ [] := List.ne_nil_of_mem inside
        have kept : String.ofList part ∈
            ((pieces '/' after).map String.ofList).filter (!·.isEmpty) :=
          List.mem_filter.mpr ⟨List.mem_map.mpr ⟨part, listed, rfl⟩, by simp [filled]⟩
        rw [(List.append_eq_nil_iff.mp empty).1] at kept
        cases kept

end BuildBench.Files
