import BuildBench.Json.Basic
import BuildBench.Number.Shortest

set_option autoImplicit false

/-! The text of a JSON document, compact or spread over lines. -/

namespace BuildBench.Json

open BuildBench.Number

/-- Doubles always show a point or a power of ten. Positional notation serves while the point lies
within sixteen places after the first digit and five zeros before it. -/
def doubleLayout : Layout where
  tie := .even
  positional := fun point => decide (-5 < point) && decide (point ≤ 16)
  wholeSuffix := ['.', '0']
  exponentMark := ['+']
  infinity := "null"
  nan := "null"

def twoHexDigits (code : Nat) : List Char :=
  [Nat.digitChar (code / 16), Nat.digitChar (code % 16)]

/-- A character inside a JSON string. Only quotes, backslashes and controls need an escape. -/
def escapedChar (c : Char) : List Char :=
  if c = '\x22' then ['\\', '\x22']
  else if c = '\\' then ['\\', '\\']
  else if c.toNat = 0x08 then ['\\', 'b']
  else if c.toNat = 0x0C then ['\\', 'f']
  else if c = '\n' then ['\\', 'n']
  else if c = '\r' then ['\\', 'r']
  else if c = '\t' then ['\\', 't']
  else if c.toNat < 0x20 then ['\\', 'u', '0', '0'] ++ twoHexDigits c.toNat
  else [c]

def writeString (text : String) : List Char :=
  '\x22' :: text.toList.flatMap escapedChar ++ ['\x22']

/-- The documents that have no parts. A compound document is not written here. -/
def writeLeaf : Value → List Char
  | .null => ['n', 'u', 'l', 'l']
  | .bool true => ['t', 'r', 'u', 'e']
  | .bool false => ['f', 'a', 'l', 's', 'e']
  | .integer value => (toString value).toList
  | .double value => (doubleLayout.write value).toList
  | .text value => writeString value
  | .array _ => []
  | .object _ => []

mutual

def writeCompact : Value → List Char
  | .array items => '[' :: writeCompactItems items ++ [']']
  | .object members => '\x7b' :: writeCompactMembers members ++ ['\x7d']
  | leaf => writeLeaf leaf

def writeCompactItems : List Value → List Char
  | [] => []
  | [item] => writeCompact item
  | item :: rest => writeCompact item ++ ',' :: writeCompactItems rest

def writeCompactMembers : List (String × Value) → List Char
  | [] => []
  | [(name, value)] => writeString name ++ ':' :: writeCompact value
  | (name, value) :: rest =>
      writeString name ++ ':' :: writeCompact value ++ ',' :: writeCompactMembers rest

end

def newLine (level : Nat) : List Char :=
  '\n' :: List.replicate (2 * level) ' '

mutual

/-- The document with each part on a line of its own, at the given level. An empty part stays on
its line. -/
def writeSpread (level : Nat) : Value → List Char
  | .array [] => ['[', ']']
  | .array items => '[' :: writeSpreadItems (level + 1) items ++ newLine level ++ [']']
  | .object [] => ['\x7b', '\x7d']
  | .object members =>
      '\x7b' :: writeSpreadMembers (level + 1) members ++ newLine level ++ ['\x7d']
  | leaf => writeLeaf leaf

/-- Array items, each on a line of its own. -/
def writeSpreadItems (level : Nat) : List Value → List Char
  | [] => []
  | [item] => newLine level ++ writeSpread level item
  | item :: rest => newLine level ++ writeSpread level item ++ ',' :: writeSpreadItems level rest

/-- Object members, each on a line of its own. -/
def writeSpreadMembers (level : Nat) : List (String × Value) → List Char
  | [] => []
  | [(name, value)] => newLine level ++ writeString name ++ ':' :: ' ' :: writeSpread level value
  | (name, value) :: rest =>
      newLine level ++ writeString name ++ ':' :: ' ' :: writeSpread level value ++
        ',' :: writeSpreadMembers level rest

end

def Value.compact (value : Value) : String :=
  String.ofList (writeCompact value)

def Value.spread (value : Value) : String :=
  String.ofList (writeSpread 0 value)

end BuildBench.Json
