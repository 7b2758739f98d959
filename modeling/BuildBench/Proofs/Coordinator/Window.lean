import BuildBench.Coordinator.Window
import Mathlib.Data.List.Nodup

set_option autoImplicit false

/-! Remembered ids kept twice: in a queue with the oldest one first, and in a set beside it that
answers whether an id is known. Main statement: the two hold the same ids without repetition, never
more than there is room for, and they are what a window remembers. -/

namespace BuildBench.Coordinator

open BuildBench.Entry

structure Shelf where
  queue : List Id
  known : Std.HashSet Id

namespace Shelf

def empty : Shelf where
  queue := []
  known := ∅

/-- The oldest ids leave the queue and the set as long as there is no room for them. -/
def trim (capacity : Nat) : List Id → Std.HashSet Id → Shelf
  | [], known => { queue := [], known }
  | oldest :: rest, known =>
      if capacity < (oldest :: rest).length then trim capacity rest (known.erase oldest)
      else { queue := oldest :: rest, known }

def insert (capacity : Nat) (shelf : Shelf) (id : Id) : Shelf :=
  if id ∈ shelf.known then shelf
  else trim capacity (shelf.queue ++ [id]) (shelf.known.insert id)

structure InStep (capacity : Nat) (shelf : Shelf) : Prop where
  distinct : shelf.queue.Nodup
  bounded : shelf.queue.length ≤ capacity
  same : ∀ id, id ∈ shelf.known ↔ id ∈ shelf.queue

theorem empty_inStep (capacity : Nat) : InStep capacity empty where
  distinct := List.nodup_nil
  bounded := Nat.zero_le _
  same := by
    intro id
    simp only [empty, Std.HashSet.not_mem_empty, List.not_mem_nil]

/-- What leaves the queue is the part that exceeds the room. -/
theorem trim_queue (capacity : Nat) (queue : List Id) (known : Std.HashSet Id) :
    (trim capacity queue known).queue = queue.drop (queue.length - capacity) := by
  induction queue generalizing known with
  | nil => rw [List.drop_nil]; rfl
  | cons oldest rest ih =>
      unfold trim
      by_cases crowded : capacity < (oldest :: rest).length
      · have one : (oldest :: rest).length - capacity = (rest.length - capacity) + 1 := by
          rw [List.length_cons] at crowded ⊢
          omega
        rw [if_pos crowded, ih, one, List.drop_succ_cons]
      · have none : (oldest :: rest).length - capacity = 0 := by omega
        rw [if_neg crowded, none, List.drop_zero]

theorem trim_inStep (capacity : Nat) (queue : List Id) (known : Std.HashSet Id)
    (distinct : queue.Nodup) (same : ∀ id, id ∈ known ↔ id ∈ queue) :
    InStep capacity (trim capacity queue known) := by
  induction queue generalizing known with
  | nil => exact ⟨distinct, Nat.zero_le _, same⟩
  | cons oldest rest ih =>
      unfold trim
      by_cases crowded : capacity < (oldest :: rest).length
      · obtain ⟨gone, restDistinct⟩ := List.nodup_cons.mp distinct
        rw [if_pos crowded]
        refine ih _ restDistinct ?_
        intro id
        rw [Std.HashSet.mem_erase, same, List.mem_cons, beq_eq_false_iff_ne]
        constructor
        · rintro ⟨other, rfl | inRest⟩
          · exact absurd rfl other
          · exact inRest
        · intro inRest
          refine ⟨?_, Or.inr inRest⟩
          rintro rfl
          exact gone inRest
      · rw [if_neg crowded]
        exact ⟨distinct, Nat.le_of_not_lt crowded, same⟩

theorem insert_inStep {capacity : Nat} {shelf : Shelf} (inStep : InStep capacity shelf) (id : Id) :
    InStep capacity (shelf.insert capacity id) := by
  unfold insert
  by_cases known : id ∈ shelf.known
  · rw [if_pos known]
    exact inStep
  · rw [if_neg known]
    have fresh : id ∉ shelf.queue := fun member => known ((inStep.same id).mpr member)
    refine trim_inStep capacity _ _ ?_ ?_
    · rw [← List.concat_eq_append]
      exact inStep.distinct.concat fresh
    · intro other
      rw [Std.HashSet.mem_insert, inStep.same, List.mem_append, List.mem_singleton, beq_iff_eq]
      constructor
      · rintro (rfl | member)
        · exact Or.inr rfl
        · exact Or.inl member
      · rintro (member | rfl)
        · exact Or.inr member
        · exact Or.inl rfl

/-! ### Windows -/

/-- The shelf holds what the window remembers, in the opposite order. -/
def Holds (shelf : Shelf) (window : Window) : Prop :=
  shelf.queue = window.ids.reverse

theorem insert_holds {shelf : Shelf} {window : Window}
    (inStep : InStep windowCapacity shelf) (holds : shelf.Holds window) (id : Id) :
    (shelf.insert windowCapacity id).Holds (window.insert id) := by
  unfold Holds at holds ⊢
  have asked : id ∈ shelf.known ↔ id ∈ window.ids := by
    rw [inStep.same, holds, List.mem_reverse]
  unfold insert Window.insert
  by_cases known : id ∈ window.ids
  · rw [if_pos (asked.mpr known), dif_pos known]
    exact holds
  · rw [if_neg fun member => known (asked.mp member), dif_neg known, trim_queue, holds,
      List.reverse_take, List.reverse_cons, List.length_append, List.length_reverse,
      List.length_singleton, List.length_cons]

/-- The shelf after ids were finished one after the other, the latest of them first in the list. -/
def ofFinished (capacity : Nat) (latestFirst : List Id) : Shelf :=
  latestFirst.foldr (fun id shelf => shelf.insert capacity id) empty

theorem ofFinished_inStep (capacity : Nat) (latestFirst : List Id) :
    InStep capacity (ofFinished capacity latestFirst) := by
  induction latestFirst with
  | nil => exact empty_inStep capacity
  | cons id earlier ih => exact insert_inStep ih id

end Shelf

end BuildBench.Coordinator
