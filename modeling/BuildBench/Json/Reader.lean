import BuildBench.Json.Basic
import BuildBench.Number.Decimal
import BuildBench.Number.Digit
import BuildBench.Text.Utf8

set_option autoImplicit false

/-! Reading JSON text. Arrays and objects nest at most 127 deep, a repeated name keeps its last
value, and a number outside the range of doubles is refused. The reader does not say where a text
goes wrong. -/

namespace BuildBench.Json

open BuildBench.Number

/-- The four blanks of the format. -/
def isSpace (c : Char) : Bool :=
  c == ' ' || c == '\n' || c == '\r' || c == '\t'

def skipSpaces (text : List Char) : List Char :=
  text.dropWhile isSpace

/-! ### Strings -/

/-- The value of the four hexadecimal digits at the front of a text. -/
def fourHex? (text : List Char) : Option Nat :=
  let digits := text.take 4
  if digits.length < 4 then none else readNatural? 16 digits

/-- The character that a numbered escape stands for, after `\u`, and the characters it takes. A
high surrogate needs a low one behind it, and a low one cannot stand alone. -/
def readCodeEscape (text : List Char) : Option (Char × Nat) := do
  let unit ← fourHex? text
  if 0xD800 ≤ unit ∧ unit ≤ 0xDBFF then
    match text.drop 4 with
    | '\\' :: 'u' :: rest =>
        let low ← fourHex? rest
        if 0xDC00 ≤ low ∧ low ≤ 0xDFFF then
          some (Char.ofNat (0x10000 + (unit - 0xD800) * 0x400 + (low - 0xDC00)), 10)
        else none
    | _ => none
  else if 0xDC00 ≤ unit ∧ unit ≤ 0xDFFF then none
  else some (Char.ofNat unit, 4)

/-- The character that an escape stands for, after the backslash, and the characters it takes. -/
def readEscape : List Char → Option (Char × Nat)
  | [] => none
  | c :: rest =>
      if c = '\x22' ∨ c = '\\' ∨ c = '/' then some (c, 1)
      else if c = 'b' then some (Char.ofNat 0x08, 1)
      else if c = 'f' then some (Char.ofNat 0x0C, 1)
      else if c = 'n' then some ('\n', 1)
      else if c = 'r' then some ('\r', 1)
      else if c = 't' then some ('\t', 1)
      else if c = 'u' then (readCodeEscape rest).map fun (value, size) => (value, size + 1)
      else none

/-- The characters of a string up to its closing quote, and the text after it. -/
def readStringChars : List Char → Option (List Char × List Char)
  | [] => none
  | c :: rest =>
      if c = '\x22' then some ([], rest)
      else if c = '\\' then
        match readEscape rest with
        | none => none
        | some (value, size) =>
            (readStringChars (rest.drop size)).map fun (chars, after) => (value :: chars, after)
      else if c.toNat < 0x20 then none
      else (readStringChars rest).map fun (chars, after) => (c :: chars, after)
  termination_by text => text.length
  decreasing_by all_goals simp only [List.length_cons, List.length_drop]; omega

def readString (text : List Char) : Option (String × List Char) :=
  (readStringChars text).map fun (chars, after) => (String.ofList chars, after)

/-! ### Numbers -/

/-- Digits that were taken up: their value, their number, and what follows them. -/
structure Word where
  value : Nat
  size : Nat
  rest : List Char

/-- Takes up digits while the value fits a word of 64 bits. The rest may start with a digit that
did not fit. -/
def takeWord (value size : Nat) : List Char → Word
  | [] => { value, size, rest := [] }
  | c :: rest =>
      if c.isDigit then
        let next := value * 10 + (c.toNat - '0'.toNat)
        if next < wordBound 64 then takeWord next (size + 1) rest
        else { value, size, rest := c :: rest }
      else { value, size, rest := c :: rest }

/-- A double from a word and a power of ten, in at most three roundings: the word is rounded, then
multiplied by, or divided by, a rounded power of ten. Powers beyond the table are taken in steps
of the largest one. -/
def scaleWord (value : Binary64) (exponent : Int) : Nat → Option Binary64
  | 0 => some value
  | steps + 1 =>
      if exponent.natAbs ≤ 308 then
        let power := Binary64.nearest false (powerOfTen exponent.natAbs) 1
        if 0 ≤ exponent then
          let product := value.mul power
          if product.isInfinite then none else some product
        else some (value.div power)
      else if value.isZero then some value
      else if 0 ≤ exponent then none
      else scaleWord (value.div (.nearest false (powerOfTen 308) 1)) (exponent + 308) steps

/-- The double of a word and a power of ten, with a sign. Three divisions by the largest power
take every word to zero. -/
def doubleOf (negative : Bool) (word : Nat) (exponent : Int) : Option Value :=
  (scaleWord (.ofNat word) exponent 4).map fun value =>
    .double (if negative then value.negate else value)

/-- The power of ten after its mark. A number of more than 31 bits takes the value to zero or out
of range. -/
def readPower (negative : Bool) (word : Nat) (exponent : Int) (text : List Char) :
    Option (Value × List Char) :=
  let (down, digits) := Decimal.sign text
  let run := digits.takeWhile Char.isDigit
  let rest := digits.dropWhile Char.isDigit
  if run.isEmpty then none
  else if digitsValue run < wordBound 31 then
    let power : Int := digitsValue run
    (doubleOf negative word (if down then exponent - power else exponent + power)).map (·, rest)
  else if word ≠ 0 ∧ !down then none
  else some (.double (.zero negative), rest)

/-- What may follow the digits of a number that is a double: a power of ten. -/
def finishDouble (negative : Bool) (word : Nat) (exponent : Int) :
    List Char → Option (Value × List Char)
  | [] => (doubleOf negative word exponent).map (·, [])
  | c :: rest =>
      if c = 'e' ∨ c = 'E' then readPower negative word exponent rest
      else (doubleOf negative word exponent).map (·, c :: rest)

/-- The digits after the point. There must be one; those that no longer fit the word are passed
over. -/
def readFraction (negative : Bool) (word : Nat) (exponent : Int) (text : List Char) :
    Option (Value × List Char) :=
  let fuller := takeWord word 0 text
  if (text.takeWhile Char.isDigit).isEmpty then none
  else
    finishDouble negative fuller.value (exponent - fuller.size)
      (fuller.rest.dropWhile Char.isDigit)

/-- A number without point and power of ten: a whole number if it fits, else a double. The
opposite of zero is a double, for its sign. -/
def wholeOrDouble (negative : Bool) (word : Nat) : Value :=
  if !negative then .integer word
  else if word = 0 ∨ wordBound 63 < word then .double (Binary64.ofNat word).negate
  else .integer (-word)

/-- The digits before the point, and all that follows them. -/
def readNumber (negative : Bool) (text : List Char) : Option (Value × List Char) :=
  let { value := word, rest, .. } := takeWord 0 0 text
  let dropped := rest.takeWhile Char.isDigit
  let after := rest.dropWhile Char.isDigit
  let run := text.takeWhile Char.isDigit
  if run.isEmpty || (run.head? == some '0' && 1 < run.length) then none
  else
    match after with
    | '.' :: fraction => readFraction negative word dropped.length fraction
    | _ =>
        if dropped.isEmpty && !(after.head? == some 'e' || after.head? == some 'E') then
          some (wholeOrDouble negative word, after)
        else finishDouble negative word dropped.length after

/-! ### Documents -/

mutual

/-- A document at the front of a text, with room for `depth` more levels. Each step takes at least
one character, so the length of the text bounds the steps. -/
def readValue : Nat → Nat → List Char → Option (Value × List Char)
  | 0, _, _ => none
  | steps + 1, depth, text =>
      match skipSpaces text with
      | 'n' :: 'u' :: 'l' :: 'l' :: rest => some (.null, rest)
      | 't' :: 'r' :: 'u' :: 'e' :: rest => some (.bool true, rest)
      | 'f' :: 'a' :: 'l' :: 's' :: 'e' :: rest => some (.bool false, rest)
      | '\x22' :: rest => (readString rest).map fun (value, after) => (.text value, after)
      | '-' :: rest => readNumber true rest
      | '[' :: rest =>
          if depth = 0 then none
          else
            match skipSpaces rest with
            | ']' :: after => some (.array [], after)
            | items => readItems steps (depth - 1) [] items
      | '\x7b' :: rest =>
          if depth = 0 then none
          else
            match skipSpaces rest with
            | '\x7d' :: after => some (.object [], after)
            | members => readMembers steps (depth - 1) [] members
      | other => readNumber false other

/-- The items of an array from one item on; `held` has those before it, the last one first. -/
def readItems : Nat → Nat → List Value → List Char → Option (Value × List Char)
  | 0, _, _, _ => none
  | steps + 1, depth, held, text =>
      match readValue steps depth text with
      | none => none
      | some (item, rest) =>
          match skipSpaces rest with
          | ',' :: more => readItems steps depth (item :: held) more
          | ']' :: after => some (.array (item :: held).reverse, after)
          | _ => none

/-- The members of an object from one member on; `held` has those before it. -/
def readMembers : Nat → Nat → List (String × Value) → List Char → Option (Value × List Char)
  | 0, _, _, _ => none
  | steps + 1, depth, held, text =>
      match skipSpaces text with
      | '\x22' :: opened =>
          match readString opened with
          | none => none
          | some (name, rest) =>
              match skipSpaces rest with
              | ':' :: value =>
                  match readValue steps depth value with
                  | none => none
                  | some (value, rest) =>
                      let held := insertMember name value held
                      match skipSpaces rest with
                      | ',' :: more => readMembers steps depth held more
                      | '\x7d' :: after => some (.object held, after)
                      | _ => none
              | _ => none
      | _ => none

end

/-- Arrays and objects nest at most this deep. -/
def maximumDepth : Nat := 127

def read (text : List Char) : Option Value :=
  match readValue (text.length + 1) maximumDepth text with
  | some (value, rest) => if (skipSpaces rest).isEmpty then some value else none
  | none => none

/-- Reads bytes that are the UTF-8 form of one document. -/
def readBytes (bytes : List UInt8) : Option Value :=
  match Text.Utf8.decode bytes with
  | .ok text => read text
  | .error _ => none

end BuildBench.Json
