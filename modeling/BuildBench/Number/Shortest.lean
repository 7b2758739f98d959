import BuildBench.Number.Binary64

set_option autoImplicit false

/-! The shortest decimal text of a double-precision number: the fewest digits that read back as
the same number and, among those, the digits nearest to its exact value. A layout says which way an
exact tie goes, and how the digits are then written. -/

namespace BuildBench.Number

/-- Decimal digits `d₁ d₂ …` of the value `0.d₁d₂… · 10 ^ point`. -/
structure Digits where
  digits : List Char
  point : Int
  deriving DecidableEq, Repr

/-- The grid point taken when a value lies halfway between two: the larger, or the even one. -/
inductive Tie
  | upward
  | even
  deriving DecidableEq, Repr

namespace Shortest

/-- The decimal places before the point of `significand · 2 ^ exponent`, from the binary ones. The
ratio of the logarithms is close enough to miss by at most one. -/
def estimatePlaces (significand : Nat) (exponent : Int) : Int :=
  (((significand.log2 : Int) + exponent) * 30103).fdiv 100000 + 1

/-- The value lies at or above `10 ^ places`. -/
def reaches (significand : Nat) (exponent places : Int) : Bool :=
  powerOfTwo (-exponent) * powerOfTen places ≤
    significand * powerOfTwo exponent * powerOfTen (-places)

/-- Places before the point: the least number of them whose power of ten exceeds the value. -/
def placesOf (significand : Nat) (exponent : Int) : Int :=
  let places := estimatePlaces significand exponent
  if reaches significand exponent places then places + 1 else places

/-- A grid of decimal numbers `x · 10 ^ step` beside the numbers that round to the given one. All
comparisons multiply both sides up to whole numbers: a grid point `x` stands at `x · unit`, the
value at `value`, and the numbers that round to it lie between `low` and `high`. -/
structure Grid where
  step : Int
  unit : Nat
  value : Nat
  low : Nat
  high : Nat
  closed : Bool

/-- The grid that has `count` digits for the value. -/
def gridOf (significand : Nat) (exponent : Int) (count : Nat) : Grid :=
  let step := placesOf significand exponent - count
  let quarter := exponent - 2
  let unit := powerOfTen step * powerOfTwo (-quarter)
  let scale := powerOfTwo quarter * powerOfTen (-step)
  let narrow :=
    significand = powerOfTwo (Binary64.precision - 1) ∧ Binary64.lowestExponent < exponent
  { step
    unit
    value := 4 * significand * scale
    low := (4 * significand - if narrow then 1 else 2) * scale
    high := (4 * significand + 2) * scale
    closed := significand % 2 == 0 }

def Grid.holds (grid : Grid) (x : Nat) : Bool :=
  let place := x * grid.unit
  if grid.closed then grid.low ≤ place && place ≤ grid.high
  else grid.low < place && place < grid.high

/-- The grid point that reads back as the value; of two, the nearer one. -/
def Grid.choose? (tie : Tie) (grid : Grid) : Option Nat :=
  let below := grid.value / grid.unit
  let above := below + 1
  match grid.holds below, grid.holds above with
  | true, true =>
      let fromBelow := grid.value - below * grid.unit
      let fromAbove := above * grid.unit - grid.value
      let downward := tie = .even ∧ below % 2 = 0
      if fromBelow < fromAbove ∨ (fromBelow = fromAbove ∧ downward) then some below
      else some above
  | true, false => some below
  | false, true => some above
  | false, false => none

/-- Digits of `x · 10 ^ step` without zeros at the end. -/
def digitsOf (x : Nat) (step : Int) : Digits :=
  let all := Nat.toDigits 10 x
  { digits := (all.reverse.dropWhile (· = '0')).reverse
    point := step + all.length }

/-- Tries grids of growing digit counts. Seventeen digits tell any two numbers apart, so the
search ends there at the latest. -/
def search (tie : Tie) (significand : Nat) (exponent : Int) : Nat → Nat → Digits
  | count, 0 =>
      let grid := gridOf significand exponent count
      digitsOf (grid.value / grid.unit) grid.step
  | count, more + 1 =>
      let grid := gridOf significand exponent count
      match grid.choose? tie with
      | some x => digitsOf x grid.step
      | none => search tie significand exponent (count + 1) more

/-- The shortest digits of a positive number. -/
def digits (tie : Tie) (significand : Nat) (exponent : Int) : Digits :=
  search tie significand exponent 1 17

end Shortest

/-- How a number is written: which way ties go, where positional notation is used, what follows a
whole number in it, how an exponent that is not negative is marked, and the names of the special
values. -/
structure Layout where
  tie : Tie
  positional : Int → Bool
  wholeSuffix : List Char
  exponentMark : List Char
  infinity : String
  nan : String

namespace Layout

/-- As many zeros as `count` says, none if it is negative. -/
def zeros (count : Int) : List Char :=
  List.replicate count.toNat '0'

def writePositional (layout : Layout) (number : Digits) : List Char :=
  let size : Int := number.digits.length
  if number.point ≤ 0 then '0' :: '.' :: zeros (-number.point) ++ number.digits
  else if number.point < size then
    number.digits.take number.point.toNat ++ '.' :: number.digits.drop number.point.toNat
  else number.digits ++ zeros (number.point - size) ++ layout.wholeSuffix

/-- One digit before the point, and a power of ten. -/
def writeScientific (layout : Layout) (number : Digits) : List Char :=
  let power := number.point - 1
  let mantissa :=
    match number.digits with
    | [] => ['0']
    | [digit] => [digit]
    | digit :: rest => digit :: '.' :: rest
  let mark := if power < 0 then ['-'] else layout.exponentMark
  mantissa ++ 'e' :: mark ++ Nat.toDigits 10 power.natAbs

def writeMagnitude (layout : Layout) (significand : Nat) (exponent : Int) : List Char :=
  if significand = 0 then '0' :: layout.wholeSuffix
  else
    let number := Shortest.digits layout.tie significand exponent
    if layout.positional number.point then layout.writePositional number
    else layout.writeScientific number

def write (layout : Layout) : Binary64 → String
  | .nan => layout.nan
  | .infinity negative => (if negative then "-" else "") ++ layout.infinity
  | .finite negative significand exponent =>
      let magnitude := layout.writeMagnitude significand exponent
      String.ofList (if negative then '-' :: magnitude else magnitude)

end Layout

end BuildBench.Number
