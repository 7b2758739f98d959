import BuildBench.Text.Combining
import BuildBench.Text.Printable

set_option autoImplicit false

/-! The quoted form of a text in messages: double quotes around it, and an escape for every
character that could not be read off the page. -/

namespace BuildBench.Text

/-- Hexadecimal digits of a code point, in small letters and without leading zeros. -/
def hexDigits (code : Nat) : List Char :=
  Nat.toDigits 16 code

/-- The escape of a code point that has no short escape. -/
def codeEscape (code : Nat) : List Char :=
  ['\\', 'u', '\x7b'] ++ hexDigits code ++ ['\x7d']

/-- One character inside quotes. A combining mark is escaped, since it would be drawn onto the
character before it. -/
def quotedChar (c : Char) : List Char :=
  if c = '\x22' then ['\\', '\x22']
  else if c = '\\' then ['\\', '\\']
  else if c = '\n' then ['\\', 'n']
  else if c = '\r' then ['\\', 'r']
  else if c = '\t' then ['\\', 't']
  else if c.toNat = 0 then ['\\', '0']
  else if isPrintable c && !isCombining c then [c]
  else codeEscape c.toNat

def quotedChars (text : List Char) : List Char :=
  text.flatMap quotedChar

def quoted (text : String) : String :=
  String.ofList ('\x22' :: quotedChars text.toList ++ ['\x22'])

end BuildBench.Text
