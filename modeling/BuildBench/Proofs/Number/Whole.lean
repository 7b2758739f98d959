import BuildBench.Number.Decimal

set_option autoImplicit false

/-! Whole numbers in decimal digits. Main statements: a text is read as a number below a bound exactly
if it spells that number, however many zeros lead it; and digits without a leading zero are what is
written for the number that they spell. -/

namespace BuildBench.Number

/-- One or more digits, perhaps with a plus in front, spell a number. -/
def Spells (text : List Char) (value : Nat) : Prop :=
  ∃ digits, (text = digits ∨ text = '+' :: digits) ∧ digits ≠ [] ∧
    (∀ c ∈ digits, c.isDigit = true) ∧ Nat.ofDigitChars 10 digits 0 = value

/-- The digits of a number as it is written: no zero leads others. -/
structure Canonical (digits : List Char) : Prop where
  filled : digits ≠ []
  all : ∀ c ∈ digits, c.isDigit = true
  leading : digits.head? = some '0' → digits = ['0']

/-! ### Reading -/

theorem le_ofDigitChars (digits : List Char) (value : Nat) :
    value ≤ Nat.ofDigitChars 10 digits value := by
  induction digits generalizing value with
  | nil => exact Nat.le_of_eq Nat.ofDigitChars_nil.symm
  | cons c rest ih =>
      rw [Nat.ofDigitChars_cons]
      have later := ih (10 * value + (c.toNat - '0'.toNat))
      omega

/-- A number never gets smaller by more digits, so that the first one to reach the bound decides. -/
theorem readWholeFrom_eq_ok {bound value result : Nat} (inside : value < bound)
    (digits : List Char) :
    readWholeFrom bound value digits = .ok result ↔
      (∀ c ∈ digits, c.isDigit = true) ∧ Nat.ofDigitChars 10 digits value = result ∧
        result < bound := by
  induction digits generalizing value with
  | nil =>
      rw [readWholeFrom, Except.ok.injEq, Nat.ofDigitChars_nil]
      constructor
      · rintro rfl
        exact ⟨by simp, rfl, inside⟩
      · rintro ⟨-, same, -⟩
        exact same
  | cons c rest ih =>
      rw [readWholeFrom, Nat.ofDigitChars_cons, List.forall_mem_cons, Nat.mul_comm value 10]
      by_cases digit : c.isDigit = true
      · rw [if_pos digit]
        dsimp only
        by_cases fits : 10 * value + (c.toNat - '0'.toNat) < bound
        · rw [if_pos fits, ih fits]
          simp [digit]
        · have later := le_ofDigitChars rest (10 * value + (c.toNat - '0'.toNat))
          rw [if_neg fits]
          constructor
          · intro read
            cases read
          · rintro ⟨-, rfl, small⟩
            omega
      · rw [if_neg digit]
        constructor
        · intro read
          cases read
        · rintro ⟨⟨isDigit, -⟩, -⟩
          exact absurd isDigit digit

theorem Spells.isDigit_or_plus {text : List Char} {value : Nat} (spells : Spells text value)
    {c : Char} (member : c ∈ text) : c.isDigit = true ∨ c = '+' := by
  obtain ⟨digits, rfl | rfl, -, all, -⟩ := spells
  · exact Or.inl (all c member)
  · rcases List.mem_cons.mp member with sign | digit
    · exact Or.inr sign
    · exact Or.inl (all c digit)

theorem not_spells_nil (value : Nat) : ¬ Spells [] value := by
  rintro ⟨digits, rfl | same, filled, -, -⟩
  · exact filled rfl
  · cases same

theorem spells_plus_iff (digits : List Char) (value : Nat) :
    Spells ('+' :: digits) value ↔ digits ≠ [] ∧ (∀ c ∈ digits, c.isDigit = true) ∧
      Nat.ofDigitChars 10 digits 0 = value := by
  constructor
  · rintro ⟨_, rfl | same, filled, all, valued⟩
    · exact absurd (all '+' List.mem_cons_self) (by decide)
    · cases same
      exact ⟨filled, all, valued⟩
  · rintro ⟨filled, all, valued⟩
    exact ⟨digits, Or.inr rfl, filled, all, valued⟩

theorem spells_cons_iff {c : Char} (sign : c ≠ '+') (rest : List Char) (value : Nat) :
    Spells (c :: rest) value ↔ (∀ digit ∈ c :: rest, digit.isDigit = true) ∧
      Nat.ofDigitChars 10 (c :: rest) 0 = value := by
  constructor
  · rintro ⟨_, rfl | same, -, all, valued⟩
    · exact ⟨all, valued⟩
    · exact absurd (List.cons.inj same).1 sign
  · rintro ⟨all, valued⟩
    exact ⟨c :: rest, Or.inl rfl, List.cons_ne_nil _ _, all, valued⟩

theorem readWhole_eq_ok {bound : Nat} (positive : 0 < bound) (text : List Char) (value : Nat) :
    readWhole bound text = .ok value ↔ Spells text value ∧ value < bound := by
  cases text with
  | nil => simp [readWhole, not_spells_nil]
  | cons c rest =>
      by_cases sign : c = '+'
      · subst sign
        rw [spells_plus_iff]
        cases rest with
        | nil => simp [readWhole]
        | cons d others =>
            rw [readWhole, readWholeFrom_eq_ok positive]
            · simp [and_assoc]
            · simp
      · rw [spells_cons_iff sign, readWhole, readWholeFrom_eq_ok positive]
        · simp [and_assoc]
        · simp
        · intro same
          exact sign (List.cons.inj same).1
        · intro others same
          exact sign (List.cons.inj same).1

/-! ### Writing -/

theorem isDigit_iff (c : Char) : c.isDigit = true ↔ 48 ≤ c.toNat ∧ c.toNat ≤ 57 := by
  simp [Char.isDigit, UInt32.le_iff_toNat_le]

theorem digitChar_of_isDigit {c : Char} (digit : c.isDigit = true) :
    (c.toNat - '0'.toNat).digitChar = c := by
  rw [isDigit_iff] at digit
  have zero : '0'.toNat = 48 := rfl
  apply Char.toNat_inj.mp
  rw [Nat.toNat_digitChar_of_lt_ten (by omega)]
  omega

/-- Digits behind those of a number are those of the number that they spell together. -/
theorem toDigits_append {value : Nat} (positive : 0 < value) {digits : List Char}
    (all : ∀ c ∈ digits, c.isDigit = true) :
    Nat.toDigits 10 value ++ digits = Nat.toDigits 10 (Nat.ofDigitChars 10 digits value) := by
  induction digits generalizing value with
  | nil => rw [List.append_nil, Nat.ofDigitChars_nil]
  | cons c rest ih =>
      rw [List.forall_mem_cons] at all
      obtain ⟨digit, restDigits⟩ := all
      have small : c.toNat - '0'.toNat < 10 := by
        rw [isDigit_iff] at digit
        have zero : '0'.toNat = 48 := rfl
        omega
      have next := Nat.toDigits_append_toDigits (b := 10) (by decide) positive small
      rw [Nat.toDigits_of_lt_base small, digitChar_of_isDigit digit] at next
      have stillPositive : 0 < 10 * value + (c.toNat - '0'.toNat) := by omega
      have later := ih stillPositive restDigits
      rw [← next, List.append_assoc] at later
      rw [Nat.ofDigitChars_cons]
      exact later

theorem Canonical.toDigits_eq {digits : List Char} (canonical : Canonical digits) :
    Nat.toDigits 10 (Nat.ofDigitChars 10 digits 0) = digits := by
  cases digits with
  | nil => exact absurd rfl canonical.filled
  | cons c rest =>
      by_cases zero : c = '0'
      · subst zero
        obtain rfl : rest = [] := (List.cons.inj (canonical.leading rfl)).2
        rfl
      · obtain ⟨digit, restDigits⟩ := List.forall_mem_cons.mp canonical.all
        have range := (isDigit_iff c).mp digit
        have code : '0'.toNat = 48 := rfl
        have positive : 0 < c.toNat - '0'.toNat := by
          have other : c.toNat ≠ '0'.toNat := fun same => zero (Char.toNat_inj.mp same)
          omega
        have whole := toDigits_append positive restDigits
        rw [Nat.toDigits_of_lt_base (by omega), digitChar_of_isDigit digit] at whole
        rw [Nat.ofDigitChars_cons, Nat.mul_zero, Nat.zero_add, ← whole]
        rfl

theorem Canonical.spells {digits : List Char} (canonical : Canonical digits) :
    Spells digits (Nat.ofDigitChars 10 digits 0) :=
  ⟨digits, Or.inl rfl, canonical.filled, canonical.all, rfl⟩

theorem Canonical.toDigits_of_spells {digits : List Char} {value : Nat}
    (canonical : Canonical digits) (spells : Spells digits value) :
    Nat.toDigits 10 value = digits := by
  obtain ⟨_, rfl | rfl, -, -, rfl⟩ := spells
  · exact canonical.toDigits_eq
  · exact absurd (canonical.all '+' List.mem_cons_self) (by decide)

theorem spells_toDigits (value : Nat) : Spells (Nat.toDigits 10 value) value := by
  refine ⟨_, Or.inl rfl, Nat.toDigits_ne_nil, ?_, Nat.ofDigitChars_ten_toDigits⟩
  intro c member
  exact Nat.isDigit_of_mem_toDigits (by decide) (by decide) member

end BuildBench.Number
