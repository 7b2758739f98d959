import BuildBench.Number.Decimal
import BuildBench.Number.Digit

set_option autoImplicit false

/-! What a plain scalar means: nothing, a truth value, a whole number, a double, or its own text. -/

namespace BuildBench.Yaml

open BuildBench.Number

/-- The meaning of a plain scalar. -/
inductive Plain
  | null
  | bool (value : Bool)
  /-- A whole number that fits a word of 64 bits, with or without sign. -/
  | integer (value : Int)
  /-- A whole number that fits a word of 128 bits only. -/
  | wideInteger
  | double (value : Binary64)
  | text
  deriving DecidableEq, Repr

namespace Plain

/-- The spellings of a missing value. -/
def isNull (text : String) : Bool :=
  ["null", "Null", "NULL", "~"].contains text

/-- The truth values: capitals throughout, at the front, or nowhere. -/
def readBool? (text : String) : Option Bool :=
  if ["true", "True", "TRUE"].contains text then some true
  else if ["false", "False", "FALSE"].contains text then some false
  else none

/-! ### Whole numbers -/

/-- More than one decimal digit with a zero in front is text, whatever its sign. -/
def hasLeadingZero (text : List Char) : Bool :=
  let digits :=
    match text with
    | '-' :: rest => rest
    | '+' :: rest => rest
    | unsigned => unsigned
  decide (1 < digits.length) && digits.head? == some '0' && digits.all Char.isDigit

/-- The magnitude of a whole number: hexadecimal, octal or binary digits behind their mark, or
decimal digits. -/
def readMagnitude? : List Char → Option Nat
  | '0' :: 'x' :: rest => readNatural? 16 rest
  | '0' :: 'o' :: rest => readNatural? 8 rest
  | '0' :: 'b' :: rest => readNatural? 2 rest
  | digits => if hasLeadingZero digits then none else readNatural? 10 digits

/-- A whole number with an optional sign: whether it has a minus, and its magnitude. -/
def readSigned? : List Char → Option (Bool × Nat)
  | '-' :: rest => (readMagnitude? rest).map fun magnitude => (true, magnitude)
  | '+' :: rest => (readMagnitude? rest).map fun magnitude => (false, magnitude)
  | digits => (readMagnitude? digits).map fun magnitude => (false, magnitude)

/-- The meaning of a whole number, by the words that it fits. -/
def ofWhole? (negative : Bool) (magnitude : Nat) : Option Plain :=
  if negative then
    if magnitude ≤ wordBound 63 then some (.integer (-magnitude))
    else if magnitude ≤ wordBound 127 then some .wideInteger
    else none
  else if magnitude < wordBound 64 then some (.integer magnitude)
  else if magnitude < wordBound 128 then some .wideInteger
  else none

/-- A text as a whole number. -/
def readWhole? (text : List Char) : Option Plain := do
  let (negative, magnitude) ← readSigned? text
  ofWhole? negative magnitude

/-! ### Doubles -/

/-- A finite number in decimal. A plus may stand in front, but no second sign. -/
def readFinite? (text : List Char) : Option Binary64 :=
  let magnitude? :=
    match text with
    | '+' :: '+' :: _ => none
    | '+' :: '-' :: _ => none
    | '+' :: rest => some rest
    | unsigned => some unsigned
  match magnitude?.bind Decimal.read with
  | some value => if value.isFinite then some value else none
  | none => none

/-- A text as a double: a finite decimal, or one of the special values with a point in front. -/
def readDouble? (text : String) : Option Binary64 :=
  if [".inf", ".Inf", ".INF", "+.inf", "+.Inf", "+.INF"].contains text then some (.infinity false)
  else if ["-.inf", "-.Inf", "-.INF"].contains text then some (.infinity true)
  else if [".nan", ".NaN", ".NAN"].contains text then some .nan
  else readFinite? text.toList

def ofText (text : String) : Plain :=
  if text.isEmpty || isNull text then .null
  else
    match readBool? text with
    | some value => .bool value
    | none =>
        match readWhole? text.toList with
        | some whole => whole
        | none =>
            if hasLeadingZero text.toList then .text
            else
              match readDouble? text with
              | some value => .double value
              | none => .text

end Plain

end BuildBench.Yaml
