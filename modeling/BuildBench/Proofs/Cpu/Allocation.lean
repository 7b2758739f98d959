import BuildBench.Cpu.Allocation
import BuildBench.Proofs.Number.Value

set_option autoImplicit false

/-! What an accepted CPU request is given. Main statement: a request is accepted at a position
exactly if its quantity is finite and positive and the least whole number that is no smaller than it
fits between the position and the bound of CPU indices; then it is given so many CPUs from there
on. -/

namespace BuildBench.Cpu

/-- At a position, a request is given so many CPUs. -/
def Request.Takes (request : Request) (position count : Nat) : Prop :=
  ∃ value, request.quantity.value? = some value ∧ 0 < value ∧ count = ⌈value⌉₊ ∧
    position + count < indexBound

theorem Request.Takes.pos {request : Request} {position count : Nat}
    (takes : request.Takes position count) : 0 < count := by
  obtain ⟨value, _, positive, rfl, _⟩ := takes
  exact Nat.ceil_pos.mpr positive

/-- Quantities that are not finite, or not positive, have no count. -/
theorem wholeCount_eq_ok {request : Request} {count : Nat} :
    request.wholeCount = .ok count ↔
      ∃ value, request.quantity.value? = some value ∧ 0 < value ∧ count = ⌈value⌉₊ ∧
        count < indexBound := by
  unfold Request.wholeCount
  cases quantity : request.quantity with
  | nan =>
      constructor
      · intro counted
        cases counted
      · rintro ⟨_, valued, _⟩
        cases valued
  | infinity negative =>
      constructor
      · intro counted
        cases counted
      · rintro ⟨_, valued, _⟩
        cases valued
  | finite negative significand exponent =>
      have magnitude : (0 : ℚ) ≤ significand * 2 ^ exponent :=
        mul_nonneg (Nat.cast_nonneg _) (zpow_nonneg zero_le_two _)
      cases negative with
      | true =>
          constructor
          · intro counted
            cases counted
          · rintro ⟨value, valued, positive, _⟩
            have opposite : -1 * ((significand : ℚ) * 2 ^ exponent) = value :=
              Option.some.inj valued
            linarith
      | false =>
          have valued : (Number.Binary64.finite false significand exponent).value? =
              some ((significand : ℚ) * 2 ^ exponent) := by
            simp [Number.Binary64.value?]
          -- What is compared with zero is the ceiling, not the quantity: it makes no difference.
          have positive : 0 < Number.Binary64.ceiling significand exponent ↔
              (0 : ℚ) < significand * 2 ^ exponent := by
            rw [Number.Binary64.ceiling_eq, Nat.ceil_pos]
          simp only [valued, Option.some.injEq, exists_eq_left', ← positive,
            ← Number.Binary64.ceiling_eq]
          split
          · rename_i bounded
            rw [Except.ok.injEq]
            constructor
            · rintro rfl
              exact ⟨bounded.1, rfl, bounded.2⟩
            · rintro ⟨_, rfl, _⟩
              rfl
          · rename_i unbounded
            constructor
            · intro counted
              cases counted
            · rintro ⟨least, rfl, most⟩
              exact absurd ⟨least, most⟩ unbounded

theorem allocate_eq_ok {request : Request} {position : Nat} {allocation : Allocation} :
    allocate request position = .ok allocation ↔
      ∃ count, request.Takes position count ∧
        allocation = { slice := sliceAt position count, next := position + count } := by
  unfold allocate
  constructor
  · intro allocated
    cases counted : request.wholeCount with
    | error error =>
        rw [counted] at allocated
        cases allocated
    | ok count =>
        rw [counted] at allocated
        dsimp only at allocated
        split at allocated
        · rename_i inside
          obtain ⟨value, valued, positive, ceiled, _⟩ := wholeCount_eq_ok.mp counted
          exact ⟨count, ⟨value, valued, positive, ceiled, inside⟩, (Except.ok.inj allocated).symm⟩
        · cases allocated
  · rintro ⟨count, ⟨value, valued, positive, ceiled, inside⟩, rfl⟩
    have counted := wholeCount_eq_ok.mpr ⟨value, valued, positive, ceiled, by omega⟩
    rw [counted]
    exact if_pos inside

end BuildBench.Cpu
