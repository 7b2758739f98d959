import BuildBench.Number.Power

set_option autoImplicit false

/-! Double-precision binary numbers as exact data. A finite number is a whole significand times a
power of two, so that rounding, comparison and arithmetic are whole-number arithmetic; every
result is the representable number nearest to the exact one, and a tie goes to the even
significand. -/

namespace BuildBench.Number

/-- A double-precision number. A finite one has the value `± significand · 2 ^ exponent`; the
number zero has a sign. -/
inductive Binary64
  | nan
  | infinity (negative : Bool)
  | finite (negative : Bool) (significand : Nat) (exponent : Int)
  deriving DecidableEq, Repr

/-- The quotient rounded to the nearest whole number; half goes to the even neighbour. -/
def roundHalfEven (numerator denominator : Nat) : Nat :=
  let quotient := numerator / denominator
  let twice := 2 * (numerator % denominator)
  if twice < denominator then quotient
  else if twice = denominator ∧ quotient % 2 = 0 then quotient
  else quotient + 1

namespace Binary64

/-- Numbers below `2 ^ precision` have exact significands. -/
def precision : Int := 53

/-- The exponent of the smallest representable steps. -/
def lowestExponent : Int := -1074

/-- The exponent of the largest representable steps. -/
def highestExponent : Int := 971

def zero (negative : Bool) : Binary64 :=
  .finite negative 0 lowestExponent

/-- The whole number nearest to `numerator / denominator · 2 ^ -exponent`. -/
def scaled (numerator denominator : Nat) (exponent : Int) : Nat :=
  roundHalfEven (numerator * powerOfTwo (-exponent)) (denominator * powerOfTwo exponent)

/-- The exponent at which the quotient of two positive numbers has a significand of full width,
but never below the lowest one. -/
def exponentFor (numerator denominator : Nat) : Int :=
  let estimate : Int := (numerator.log2 : Int) - (denominator.log2 : Int) - 53
  let wide :=
    powerOfTwo precision * denominator * powerOfTwo estimate ≤ numerator * powerOfTwo (-estimate)
  max (if wide then estimate + 1 else estimate) lowestExponent

/-- The representable number nearest to `± numerator / denominator`. -/
def nearest (negative : Bool) (numerator denominator : Nat) : Binary64 :=
  if numerator = 0 then zero negative
  else
    let exponent := exponentFor numerator denominator
    let significand := scaled numerator denominator exponent
    let carried := significand = powerOfTwo precision
    let significand := if carried then powerOfTwo (precision - 1) else significand
    let exponent := if carried then exponent + 1 else exponent
    if highestExponent < exponent then .infinity negative
    else .finite negative significand exponent

def ofNat (value : Nat) : Binary64 :=
  nearest false value 1

/-- The representable number nearest to a whole number with a sign. -/
def ofInt (value : Int) : Binary64 :=
  nearest (decide (value < 0)) value.natAbs 1

def isFinite : Binary64 → Bool
  | .finite .. => true
  | _ => false

def isInfinite : Binary64 → Bool
  | .infinity _ => true
  | _ => false

def negate : Binary64 → Binary64
  | .nan => .nan
  | .infinity negative => .infinity !negative
  | .finite negative significand exponent => .finite (!negative) significand exponent

/-- Numerator of the magnitude of a finite number. -/
def numerator (significand : Nat) (exponent : Int) : Nat :=
  significand * powerOfTwo exponent

/-- Denominator of the magnitude of a finite number. -/
def denominator (exponent : Int) : Nat :=
  powerOfTwo (-exponent)

/-- The smallest whole number that is no smaller than the magnitude of a finite number. -/
def ceiling (significand : Nat) (exponent : Int) : Nat :=
  (numerator significand exponent + (denominator exponent - 1)) / denominator exponent

/-- Product of two finite numbers, rounded once. A product with a number that is not finite is
undefined here: no caller forms one. -/
def mul : Binary64 → Binary64 → Binary64
  | .finite leftSign left leftExponent, .finite rightSign right rightExponent =>
      nearest (leftSign != rightSign)
        (numerator left leftExponent * numerator right rightExponent)
        (denominator leftExponent * denominator rightExponent)
  | _, _ => .nan

/-- Quotient of a finite number by a finite number other than zero, rounded once. -/
def div : Binary64 → Binary64 → Binary64
  | .finite leftSign left leftExponent, .finite rightSign right rightExponent =>
      nearest (leftSign != rightSign)
        (numerator left leftExponent * denominator rightExponent)
        (denominator leftExponent * numerator right rightExponent)
  | _, _ => .nan

/-- Sum of two finite numbers that are not negative, rounded once. -/
def addMagnitudes : Binary64 → Binary64 → Binary64
  | .finite _ left leftExponent, .finite _ right rightExponent =>
      nearest false
        (numerator left leftExponent * denominator rightExponent +
          numerator right rightExponent * denominator leftExponent)
        (denominator leftExponent * denominator rightExponent)
  | _, _ => .nan

/-- The number compares equal to zero. -/
def isZero : Binary64 → Bool
  | .finite _ significand _ => significand == 0
  | _ => false

/-- Equality of values: the two zeros are equal, and so are two undefined numbers. -/
def sameValue (left right : Binary64) : Bool :=
  left == right || (left.isZero && right.isZero)

end Binary64

end BuildBench.Number
