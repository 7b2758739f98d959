set_option autoImplicit false

/-! Whole numbers in digits of any base up to sixteen. -/

namespace BuildBench.Number

/-- The value of a digit in a base. Letters of either case follow the decimal digits. -/
def digitValue? (base : Nat) (c : Char) : Option Nat :=
  let value :=
    if c.isDigit then c.toNat - '0'.toNat
    else if 'a' ≤ c ∧ c ≤ 'f' then c.toNat - 'a'.toNat + 10
    else if 'A' ≤ c ∧ c ≤ 'F' then c.toNat - 'A'.toNat + 10
    else base
  if value < base then some value else none

/-- The value of one or more digits in a base. -/
def readNatural? (base : Nat) (digits : List Char) : Option Nat :=
  if digits.isEmpty then none
  else
    digits.foldl
      (fun value digit => do return (← value) * base + (← digitValue? base digit)) (some 0)

end BuildBench.Number
