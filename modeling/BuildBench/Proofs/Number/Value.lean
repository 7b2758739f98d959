import BuildBench.Number.Binary64
import Mathlib.Algebra.Order.Floor.Semiring
import Mathlib.Data.Rat.Floor
import Mathlib.Tactic.Linarith

set_option autoImplicit false

/-! The exact values of numbers of double precision. Main statements: a whole number whose
significand is short enough is a number of double precision itself; and the whole number next above
one always is. -/

namespace BuildBench.Number.Binary64

/-- The exact value of a finite number. -/
def value? : Binary64 → Option ℚ
  | .finite negative significand exponent =>
      some ((if negative then -1 else 1) * ((significand : ℚ) * 2 ^ exponent))
  | _ => none

theorem powerOfTwo_pos (exponent : Int) : 0 < powerOfTwo exponent :=
  Nat.pow_pos Nat.two_pos

theorem numerator_div_denominator (significand : Nat) (exponent : Int) :
    (numerator significand exponent : ℚ) / denominator exponent = significand * 2 ^ exponent := by
  rcases Int.le_total 0 exponent with upward | downward
  · obtain ⟨power, rfl⟩ := Int.eq_ofNat_of_zero_le upward
    have below : (-(power : Int)).toNat = 0 := by omega
    simp [numerator, denominator, powerOfTwo, below]
  · obtain ⟨power, opposite⟩ := Int.eq_ofNat_of_zero_le (Int.neg_nonneg_of_nonpos downward)
    obtain rfl : exponent = -(power : Int) := by omega
    have above : (-(power : Int)).toNat = 0 := by omega
    simp [numerator, denominator, powerOfTwo, above, div_eq_mul_inv]

theorem ceiling_eq (significand : Nat) (exponent : Int) :
    ceiling significand exponent = ⌈(significand : ℚ) * 2 ^ exponent⌉₊ := by
  have positive : 0 < denominator exponent := powerOfTwo_pos _
  have positiveQ : (0 : ℚ) < denominator exponent := Nat.cast_pos.mpr positive
  refine eq_of_forall_ge_iff fun bound => ?_
  rw [Nat.ceil_le, ← numerator_div_denominator, div_le_iff₀ positiveQ, ceiling]
  have whole : (numerator significand exponent : ℚ) ≤ bound * denominator exponent ↔
      numerator significand exponent ≤ bound * denominator exponent := by
    rw [← Nat.cast_mul, Nat.cast_le]
  rw [whole, Nat.div_le_iff_le_mul_add_pred positive, Nat.mul_comm]
  omega

/-! ### Comparison -/

/-- One number is at most another one. An undefined number compares with none. -/
inductive AtMost : Binary64 → Binary64 → Prop
  | finite {left right : Binary64} {low high : ℚ} (leftValue : left.value? = some low)
      (rightValue : right.value? = some high) (ordered : low ≤ high) : AtMost left right
  | least {right : Binary64} (defined : right ≠ .nan) : AtMost (.infinity true) right
  | greatest {left : Binary64} (defined : left ≠ .nan) : AtMost left (.infinity false)

theorem atMost_iff {left right : Binary64} {low high : ℚ} (leftValue : left.value? = some low)
    (rightValue : right.value? = some high) : AtMost left right ↔ low ≤ high := by
  constructor
  · intro atMost
    cases atMost with
    | finite leftSame rightSame ordered =>
        rw [leftValue, Option.some.injEq] at leftSame
        rw [rightValue, Option.some.injEq] at rightSame
        rwa [leftSame, rightSame]
    | least defined => cases leftValue
    | greatest defined => cases rightValue
  · exact .finite leftValue rightValue

theorem zero_value (negative : Bool) : (zero negative).value? = some 0 := by
  simp [zero, value?]

theorem isFinite_iff {number : Binary64} :
    number.isFinite = true ↔ ∃ value, number.value? = some value := by
  cases number with
  | nan => simp [isFinite, value?]
  | infinity negative => simp [isFinite, value?]
  | finite negative significand exponent => simp [isFinite, value?]

/-! ### Whole numbers -/

/-- The numbers that there are of double precision: others are too fine, too long or too large. -/
def IsRepresentable : Binary64 → Prop
  | .finite _ significand exponent =>
      significand < powerOfTwo precision ∧ lowestExponent ≤ exponent ∧ exponent ≤ highestExponent
  | _ => True

theorem powerOfTwo_eq (exponent : Int) :
    (powerOfTwo exponent : ℚ) = 2 ^ exponent * powerOfTwo (-exponent) := by
  have quotient := numerator_div_denominator 1 exponent
  have positive : (0 : ℚ) < denominator exponent := Nat.cast_pos.mpr (powerOfTwo_pos _)
  rw [div_eq_iff positive.ne', Nat.cast_one, one_mul, numerator, Nat.one_mul] at quotient
  exact quotient

/-- Scaling keeps to whole numbers, on whichever side the power of two is put. -/
theorem mul_powerOfTwo_le_iff (left right : Nat) (exponent : Int) :
    left * powerOfTwo exponent ≤ right * powerOfTwo (-exponent) ↔
      (left : ℚ) * 2 ^ exponent ≤ right := by
  have positive : (0 : ℚ) < powerOfTwo (-exponent) := Nat.cast_pos.mpr (powerOfTwo_pos _)
  rw [← Nat.cast_le (α := ℚ), Nat.cast_mul, Nat.cast_mul, powerOfTwo_eq exponent, ← mul_assoc]
  exact mul_le_mul_iff_left₀ positive

theorem roundHalfEven_mul (quotient : Nat) {divisor : Nat} (positive : 0 < divisor) :
    roundHalfEven (quotient * divisor) divisor = quotient := by
  rw [roundHalfEven, Nat.mul_mod_left, Nat.mul_div_cancel quotient positive]
  exact if_pos positive

section Whole

variable {whole : Nat}

theorem log2_bounds (positive : 0 < whole) :
    (2 : ℚ) ^ (whole.log2 : Int) ≤ whole ∧ (whole : ℚ) < 2 ^ (whole.log2 + 1 : Int) := by
  have least := Nat.log2_self_le (Nat.ne_of_gt positive)
  have most := Nat.lt_log2_self (n := whole)
  constructor
  · exact_mod_cast least
  · exact_mod_cast most

theorem precision_mul_zpow (exponent : Int) :
    (powerOfTwo precision : ℚ) * 2 ^ exponent = 2 ^ (53 + exponent) := by
  rw [zpow_add₀ two_ne_zero]
  rfl

/-- At this exponent the significand of a whole number has its full width. -/
theorem exponentFor_whole (positive : 0 < whole) :
    exponentFor whole 1 = (whole.log2 : Int) - 52 := by
  have one : Nat.log2 1 = 0 := rfl
  have wide : powerOfTwo precision * 1 * powerOfTwo ((whole.log2 : Int) - (Nat.log2 1 : Int) - 53) ≤
      whole * powerOfTwo (-((whole.log2 : Int) - (Nat.log2 1 : Int) - 53)) := by
    have full : 53 + ((whole.log2 : Int) - (Nat.log2 1 : Int) - 53) = whole.log2 := by omega
    rw [Nat.mul_one, mul_powerOfTwo_le_iff, precision_mul_zpow, full]
    exact (log2_bounds positive).1
  unfold exponentFor
  dsimp only
  rw [if_pos wide, one, lowestExponent]
  omega

/-- A whole number keeps all its bits if those below the significand are zero. -/
theorem scaled_whole {exponent : Int} (positive : 0 < whole)
    (full : exponent = (whole.log2 : Int) - 52) (aligned : 2 ^ (whole.log2 - 52) ∣ whole) :
    scaled whole 1 exponent < powerOfTwo precision ∧
      (scaled whole 1 exponent : ℚ) * 2 ^ exponent = whole := by
  have unit : powerOfTwo exponent = 2 ^ (whole.log2 - 52) := by
    have power : exponent.toNat = whole.log2 - 52 := by omega
    rw [powerOfTwo, power]
    rfl
  obtain ⟨quotient, exact⟩ : powerOfTwo exponent ∣ whole * powerOfTwo (-exponent) := by
    rw [unit]
    exact aligned.mul_right _
  rw [Nat.mul_comm (powerOfTwo exponent)] at exact
  have rounded : scaled whole 1 exponent = quotient := by
    rw [scaled, exact, Nat.one_mul, roundHalfEven_mul quotient (powerOfTwo_pos exponent)]
  rw [rounded]
  constructor
  · -- The next power of two is above the number, so that the significand has no bit too many.
    have short : ¬powerOfTwo precision * powerOfTwo exponent ≤ whole * powerOfTwo (-exponent) := by
      have next : 53 + exponent = (whole.log2 : Int) + 1 := by omega
      rw [mul_powerOfTwo_le_iff, precision_mul_zpow, next, not_le]
      exact (log2_bounds positive).2
    rw [exact] at short
    exact Nat.lt_of_mul_lt_mul_right (Nat.lt_of_not_le short)
  · have opposite : (0 : ℚ) < powerOfTwo (-exponent) := Nat.cast_pos.mpr (powerOfTwo_pos _)
    have product := congrArg (Nat.cast (R := ℚ)) exact
    rw [Nat.cast_mul, Nat.cast_mul, powerOfTwo_eq exponent, ← mul_assoc] at product
    exact (mul_right_cancel₀ opposite.ne' product).symm

/-- A whole number in range whose significand is short enough is a number of double precision. -/
theorem ofNat_value (aligned : 2 ^ (whole.log2 - 52) ∣ whole) (bounded : whole.log2 < 1024) :
    (ofNat whole).value? = some (whole : ℚ) := by
  rcases Nat.eq_zero_or_pos whole with rfl | positive
  · exact zero_value false
  · obtain ⟨short, exact⟩ := scaled_whole positive rfl aligned
    -- Nothing was rounded, so that nothing carries over into the exponent.
    have carries : ¬scaled whole 1 (whole.log2 - 52) = powerOfTwo precision := Nat.ne_of_lt short
    have inside : ¬highestExponent < (whole.log2 : Int) - 52 := by
      rw [highestExponent]
      omega
    unfold ofNat nearest
    rw [if_neg (Nat.ne_of_gt positive), exponentFor_whole positive]
    dsimp only
    rw [if_neg carries, if_neg carries, if_neg inside, value?, exact]
    simp

theorem log2_mul_pow {significand : Nat} (short : significand < 2 ^ 53) (power : Nat) :
    (significand * 2 ^ power).log2 < 53 + power := by
  rcases Nat.eq_zero_or_pos (significand * 2 ^ power) with none | positive
  · rw [none]
    exact Nat.lt_of_lt_of_le (by decide) (Nat.le_add_right 53 power)
  · rw [Nat.log2_lt (Nat.ne_of_gt positive), Nat.pow_add]
    exact Nat.mul_lt_mul_of_pos_right short (Nat.two_pow_pos power)

end Whole

/-! ### Rounding up -/

/-- The whole number next above, as a number of double precision. -/
def roundUp : Binary64 → Binary64
  | .finite false significand exponent => ofNat (ceiling significand exponent)
  | .finite true significand exponent =>
      negate (ofNat (numerator significand exponent / denominator exponent))
  | other => other

/-- A number is whole already, or what it is rounded up to is no longer than its significand. -/
theorem ceiling_eq_mul {significand : Nat} {exponent : Int} (short : significand < 2 ^ 53)
    (high : exponent ≤ highestExponent) :
    ∃ whole power, whole < 2 ^ 53 ∧ power ≤ 971 ∧
      ceiling significand exponent = whole * 2 ^ power := by
  rcases Int.le_total 0 exponent with upward | downward
  · obtain ⟨power, rfl⟩ := Int.eq_ofNat_of_zero_le upward
    refine ⟨significand, power, short, Int.ofNat_le.mp high, ?_⟩
    rw [ceiling_eq]
    exact_mod_cast Nat.ceil_natCast (R := ℚ) (significand * 2 ^ power)
  · refine ⟨ceiling significand exponent, 0, ?_, Nat.zero_le _, (Nat.mul_one _).symm⟩
    have fewer : ceiling significand exponent ≤ significand := by
      rw [ceiling_eq, Nat.ceil_le]
      exact mul_le_of_le_one_right (Nat.cast_nonneg _)
        (zpow_le_one_of_nonpos₀ one_le_two downward)
    exact Nat.lt_of_le_of_lt fewer short

/-- Rounding up loses nothing: from a certain size on there are no fractions any more. -/
theorem roundUp_value {quotient : Binary64} {value : ℚ} (double : quotient.IsRepresentable)
    (valued : quotient.value? = some value) (positive : 0 < value) :
    quotient.roundUp.value? = some (⌈value⌉₊ : ℚ) := by
  cases quotient with
  | nan => cases valued
  | infinity negative => cases valued
  | finite negative significand exponent =>
      have magnitude : (0 : ℚ) ≤ significand * 2 ^ exponent :=
        mul_nonneg (Nat.cast_nonneg _) (zpow_nonneg zero_le_two _)
      cases negative with
      | true =>
          have opposite : -1 * ((significand : ℚ) * 2 ^ exponent) = value :=
            Option.some.inj valued
          linarith
      | false =>
          have same : (significand : ℚ) * 2 ^ exponent = value := by
            simpa [value?] using valued
          obtain ⟨short, -, high⟩ := double
          obtain ⟨whole, power, narrow, small, exact⟩ := ceiling_eq_mul short high
          have bits := log2_mul_pow narrow power
          have aligned : 2 ^ ((whole * 2 ^ power).log2 - 52) ∣ whole * 2 ^ power :=
            (Nat.pow_dvd_pow 2 (by omega)).trans (Nat.dvd_mul_left _ _)
          rw [roundUp, ← same, ← ceiling_eq, exact]
          exact ofNat_value aligned (by omega)

end BuildBench.Number.Binary64
