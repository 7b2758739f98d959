set_option autoImplicit false

/-! Blank characters and the removal of blanks around a text. Every trimming rule of the library
uses this one class. -/

namespace BuildBench.Text

/-- The Unicode property White_Space: the ASCII blanks from tab to carriage return, the space, and
the separators of the other scripts. -/
def isBlank (c : Char) : Bool :=
  let code := c.toNat
  (0x09 ≤ code && code ≤ 0x0D) || code == 0x20 || code == 0x85 || code == 0xA0 ||
    code == 0x1680 || (0x2000 ≤ code && code ≤ 0x200A) || code == 0x2028 || code == 0x2029 ||
    code == 0x202F || code == 0x205F || code == 0x3000

/-- Removes the longest run of characters of the class `drop` at the end. -/
def dropEndWhile (drop : Char → Bool) (text : List Char) : List Char :=
  (text.reverse.dropWhile drop).reverse

/-- Removes the longest runs of characters of the class `drop` at both ends. -/
def dropAround (drop : Char → Bool) (text : List Char) : List Char :=
  dropEndWhile drop (text.dropWhile drop)

def trimChars (text : List Char) : List Char :=
  dropAround isBlank text

def trim (text : String) : String :=
  String.ofList (trimChars text.toList)

/-- Letters A to Z become small; no other character changes. -/
def lowerAscii (text : String) : String :=
  String.ofList (text.toList.map Char.toLower)

end BuildBench.Text
