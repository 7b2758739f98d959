import BuildBench.Number.Binary64
import BuildBench.Text.Blank

set_option autoImplicit false

/-! Reading decimal text as the nearest double-precision number, and as a whole number. -/

namespace BuildBench.Number

def digitsValue (digits : List Char) : Nat :=
  digits.foldl (fun value digit => value * 10 + (digit.toNat - '0'.toNat)) 0

/-- The number nearest to `± significand · 10 ^ exponent`. Beyond the range of doubles in either
direction the power of ten is not formed. -/
def Binary64.ofDecimal (negative : Bool) (significand : Nat) (exponent : Int) : Binary64 :=
  let places : Int := (Nat.toDigits 10 significand).length + exponent
  if significand = 0 then .zero negative
  else if places < -400 then .zero negative
  else if 400 < places then .infinity negative
  else .nearest negative (significand * powerOfTen exponent) (powerOfTen (-exponent))

namespace Decimal

/-- A sign in front of a text, and the rest. A missing sign is positive. -/
def sign : List Char → Bool × List Char
  | '-' :: rest => (true, rest)
  | '+' :: rest => (false, rest)
  | text => (false, text)

/-- The digits at the front of a text, and the rest. -/
def digitRun (text : List Char) : List Char × List Char :=
  (text.takeWhile Char.isDigit, text.dropWhile Char.isDigit)

/-- The fraction after a point, if there is a point. -/
def fraction : List Char → List Char × List Char
  | '.' :: rest => digitRun rest
  | text => ([], text)

/-- The power of ten that ends a number. The text must end with it, and an exponent must have a
digit. -/
def exponentPart : List Char → Option Int
  | [] => some 0
  | mark :: rest =>
      if mark = 'e' ∨ mark = 'E' then
        let (negative, digits) := sign rest
        if !digits.isEmpty && digits.all Char.isDigit then
          let value : Int := digitsValue digits
          some (if negative then -value else value)
        else none
      else none

/-- A number in digits: a whole part, a fraction, or both, and an optional power of ten. -/
def readDigits (negative : Bool) (text : List Char) : Option Binary64 :=
  let (whole, afterWhole) := digitRun text
  let (part, afterPart) := fraction afterWhole
  if whole.isEmpty && part.isEmpty then none
  else
    (exponentPart afterPart).map fun exponent =>
      .ofDecimal negative (digitsValue (whole ++ part)) (exponent - part.length)

/-- Reads a number: digits with an optional sign, or the name of a special value in any letter
case. -/
def read (text : List Char) : Option Binary64 :=
  let (negative, magnitude) := sign text
  let name := magnitude.map Char.toLower
  if name = ['i', 'n', 'f'] ∨ name = ['i', 'n', 'f', 'i', 'n', 'i', 't', 'y'] then
    some (.infinity negative)
  else if name = ['n', 'a', 'n'] then some .nan
  else readDigits negative magnitude

end Decimal

/-- Why a text is no whole number of a bounded type. -/
inductive WholeDefect
  | empty
  | digit
  | tooLarge
  | tooSmall
  deriving DecidableEq, Repr

def WholeDefect.message : WholeDefect → String
  | .empty => "cannot parse integer from empty string"
  | .digit => "invalid digit found in string"
  | .tooLarge => "number too large to fit in target type"
  | .tooSmall => "number too small to fit in target type"

/-- Reads the rest of a whole number below `bound`, whose digits so far have the value `value`. The
first digit that is none, or that takes the value out of range, decides the defect. -/
def readWholeFrom (bound value : Nat) : List Char → Except WholeDefect Nat
  | [] => .ok value
  | c :: rest =>
      if c.isDigit then
        let next := value * 10 + (c.toNat - '0'.toNat)
        if next < bound then readWholeFrom bound next rest else .error .tooLarge
      else .error .digit

/-- Reads a whole number below `bound`: an optional plus and at least one digit. -/
def readWhole (bound : Nat) : List Char → Except WholeDefect Nat
  | [] => .error .empty
  | ['+'] => .error .digit
  | '+' :: rest => readWholeFrom bound 0 rest
  | text => readWholeFrom bound 0 text

end BuildBench.Number
