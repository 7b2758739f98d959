set_option autoImplicit false

/-! Texts in order. Main statement: a sorted list without repetitions of neighbours is strictly
ascending and has the same members. -/

namespace BuildBench.Text

theorem pairwise_inOrder (names : List String) :
    (names.mergeSort fun left right => decide (left ≤ right)).Pairwise (· ≤ ·) := by
  have transitive (first second third : String) (before : decide (first ≤ second) = true)
      (after : decide (second ≤ third) = true) : decide (first ≤ third) = true := by
    rw [decide_eq_true_iff] at before after ⊢
    exact String.le_trans before after
  have total (first second : String) :
      (decide (first ≤ second) || decide (second ≤ first)) = true := by
    rw [Bool.or_eq_true, decide_eq_true_iff, decide_eq_true_iff]
    exact String.le_total first second
  exact (List.pairwise_mergeSort transitive total names).imp of_decide_eq_true

/-- The loop carries the last text and, in reverse order, those that it has kept. -/
theorem eraseReps_loop (last : String) (rest done : List String) :
    List.eraseRepsBy.loop (· == ·) last rest done = done.reverse ++ (last :: rest).eraseReps := by
  induction rest generalizing last done with
  | nil => rw [List.eraseRepsBy.loop, List.reverse_cons]; rfl
  | cons next others ih =>
      change _ = done.reverse ++ List.eraseRepsBy.loop (· == ·) last (next :: others) []
      rw [List.eraseRepsBy.loop, List.eraseRepsBy.loop]
      cases last == next with
      | true =>
          dsimp only
          rw [ih, ih, List.reverse_nil, List.nil_append]
      | false =>
          dsimp only
          rw [ih, ih, List.reverse_cons, List.reverse_singleton, List.append_assoc]

theorem eraseReps_cons_cons (first second : String) (rest : List String) :
    (first :: second :: rest).eraseReps =
      if first = second then (second :: rest).eraseReps
      else first :: (second :: rest).eraseReps := by
  change List.eraseRepsBy.loop (· == ·) first (second :: rest) [] = _
  rw [List.eraseRepsBy.loop]
  by_cases same : first = second
  · rw [if_pos same, beq_iff_eq.mpr same, same]
    rfl
  · rw [if_neg same, beq_eq_false_iff_ne.mpr same]
    dsimp only
    rw [eraseReps_loop]
    rfl

theorem mem_eraseReps {name : String} {names : List String} :
    name ∈ names.eraseReps ↔ name ∈ names := by
  induction names with
  | nil => exact Iff.rfl
  | cons first rest ih =>
      cases rest with
      | nil => exact Iff.rfl
      | cons second others =>
          rw [eraseReps_cons_cons]
          by_cases same : first = second
          · rw [if_pos same, ih, same]
            simp
          · rw [if_neg same, List.mem_cons, ih, ← List.mem_cons]

theorem pairwise_eraseReps {names : List String} (ordered : names.Pairwise (· ≤ ·)) :
    names.eraseReps.Pairwise (· < ·) := by
  induction names with
  | nil => exact List.Pairwise.nil
  | cons first rest ih =>
      obtain ⟨least, others⟩ := List.pairwise_cons.mp ordered
      cases rest with
      | nil => exact List.pairwise_singleton _ _
      | cons second further =>
          rw [eraseReps_cons_cons]
          by_cases same : first = second
          · rw [if_pos same]
            exact ih others
          · rw [if_neg same]
            refine List.pairwise_cons.mpr ⟨?_, ih others⟩
            intro name kept
            have before := Std.lt_of_le_of_ne (least second List.mem_cons_self) same
            rcases List.mem_cons.mp (mem_eraseReps.mp kept) with next | later
            · rw [next]
              exact before
            · exact Std.lt_of_lt_of_le before ((List.pairwise_cons.mp others).1 name later)

/-- Each text once, in ascending order. -/
theorem pairwise_eraseReps_inOrder (names : List String) :
    (names.mergeSort fun left right => decide (left ≤ right)).eraseReps.Pairwise (· < ·) :=
  pairwise_eraseReps (pairwise_inOrder names)

end BuildBench.Text
