import BuildBench.Entry.Id

set_option autoImplicit false

/-! The order of ids. Main statement: ids compare like whole numbers, of which each id has its own. -/

namespace BuildBench.Entry.Id

/-- The number of ids below an id. -/
def rank (id : Id) : Nat :=
  id.time.toNat * Number.wordBound 64 + id.sequence.toNat

theorem rank_eq (id : Id) : id.rank = id.time.toNat * 18446744073709551616 + id.sequence.toNat :=
  rfl

theorem lt_iff_rank (left right : Id) : left < right ↔ left.rank < right.rank := by
  change (left.time < right.time ∨ (left.time = right.time ∧ left.sequence < right.sequence)) ↔ _
  have leftBound := left.sequence.toNat_lt
  have rightBound := right.sequence.toNat_lt
  rw [UInt64.lt_iff_toNat_lt, UInt64.lt_iff_toNat_lt, ← UInt64.toNat_inj]
  rw [rank_eq, rank_eq]
  omega

theorem le_iff_rank (left right : Id) : left ≤ right ↔ left.rank ≤ right.rank := by
  change (left.time < right.time ∨ (left.time = right.time ∧ left.sequence ≤ right.sequence)) ↔ _
  have leftBound := left.sequence.toNat_lt
  have rightBound := right.sequence.toNat_lt
  rw [UInt64.lt_iff_toNat_lt, UInt64.le_iff_toNat_le, ← UInt64.toNat_inj]
  rw [rank_eq, rank_eq]
  omega

theorem rank_injective {left right : Id} (same : left.rank = right.rank) : left = right := by
  have leftBound := left.sequence.toNat_lt
  have rightBound := right.sequence.toNat_lt
  rw [rank_eq, rank_eq] at same
  have times : left.time.toNat = right.time.toNat := by omega
  have sequences : left.sequence.toNat = right.sequence.toNat := by omega
  obtain ⟨leftTime, leftSequence⟩ := left
  obtain ⟨rightTime, rightSequence⟩ := right
  rw [UInt64.toNat_inj] at times sequences
  cases times
  cases sequences
  rfl

end BuildBench.Entry.Id
