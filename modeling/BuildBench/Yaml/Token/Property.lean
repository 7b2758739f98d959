import BuildBench.Number.Decimal
import BuildBench.Yaml.Token
import BuildBench.Yaml.Token.Scalar

set_option autoImplicit false

/-! Tokens that stand before a node or a document: anchors and aliases, tags, and directives. -/

namespace BuildBench.Yaml

/-! ### Anchors and aliases -/

/-- Characters that may touch the name of an anchor or an alias. -/
def mayFollowName (c : Char) : Bool :=
  endsWord c || ['?', ':', ',', ']', '\x7d', '%', '@', '\x60'].contains c

/-- The name of an anchor or an alias, after its mark. -/
def readName? (text : List Glyph) : Option (String × List Glyph) :=
  let name := (text.takeWhile fun glyph => isWordChar glyph.char).map Glyph.char
  let rest := text.dropWhile fun glyph => isWordChar glyph.char
  if name.isEmpty || !mayFollowName (peek rest 0) then none
  else some (String.ofList name, rest)

/-! ### Tags -/

def tagSigns : List Char :=
  [';', '/', '?', ':', '@', '&', '=', '+', '$', '.', '!', '~', '*', '\x27', '(', ')']

/-- Characters of a tag. Between angle brackets the separators of flow collections are allowed
too. -/
def isTagChar (verbatim : Bool) (c : Char) : Bool :=
  isWordChar c || tagSigns.contains c || (verbatim && [',', '[', ']'].contains c)

/-- The byte that a percent sign and two hexadecimal digits stand for. -/
def percentByte? (text : List Glyph) : Option UInt8 :=
  if peek text 0 = '%' then do
    let high ← Number.digitValue? 16 (peek text 1)
    let low ← Number.digitValue? 16 (peek text 2)
    some (UInt8.ofNat (high * 16 + low))
  else none

/-- How many bytes the character has that begins with a byte. -/
def widthOfLead? (byte : UInt8) : Option Nat :=
  if byte < 0x80 then some 1
  else if byte &&& 0xE0 = 0xC0 then some 2
  else if byte &&& 0xF0 = 0xE0 then some 3
  else if byte &&& 0xF8 = 0xF0 then some 4
  else none

/-- Reads `count` escaped continuation bytes. -/
def percentTail? : Nat → List Glyph → Option Bytes
  | 0, _ => some []
  | count + 1, text => do
      let byte ← percentByte? text
      if byte &&& 0xC0 = 0x80 then
        let rest ← percentTail? count (text.drop 3)
        some (byte :: rest)
      else none

/-- The bytes of an escaped character, and the glyphs they take. -/
def percentChar? (text : List Glyph) : Option (Bytes × Nat) := do
  let lead ← percentByte? text
  let width ← widthOfLead? lead
  let rest ← percentTail? (width - 1) (text.drop 3)
  some (lead :: rest, 3 * width)

/-- Reads the characters of a tag as bytes. Each step takes at least one glyph, so their number
bounds the steps. -/
def readTagBytes? (verbatim : Bool) : Nat → List Glyph → Option (Bytes × List Glyph)
  | 0, _ => none
  | steps + 1, text =>
      let c := peek text 0
      if c = '%' then do
        let (bytes, size) ← percentChar? text
        let (more, rest) ← readTagBytes? verbatim steps (text.drop size)
        some (bytes ++ more, rest)
      else if isTagChar verbatim c then do
        let (more, rest) ← readTagBytes? verbatim steps (text.drop 1)
        some (Text.Utf8.encode [c] ++ more, rest)
      else some ([], text)

/-- The tag that characters spell. A zero byte ends it. -/
def tagOfBytes (bytes : Bytes) : Tag where
  bytes := bytes.takeWhile (· ≠ 0)

/-- The characters of a tag, at least one of them. -/
def readTagCharacters? (verbatim : Bool) (text : List Glyph) : Option (Bytes × List Glyph) :=
  match readTagBytes? verbatim (text.length + 1) text with
  | some (bytes, rest) => if bytes.isEmpty then none else some (bytes, rest)
  | none => none

/-- A tag handle: an exclamation mark, then perhaps a word and one more mark. -/
def readHandle? (text : List Glyph) : Option (String × List Glyph) :=
  if peek text 0 = '!' then
    let word := ((text.drop 1).takeWhile fun glyph => isWordChar glyph.char).map Glyph.char
    let rest := (text.drop 1).dropWhile fun glyph => isWordChar glyph.char
    if peek rest 0 = '!' then some (String.ofList ('!' :: word ++ ['!']), rest.drop 1)
    else some (String.ofList ('!' :: word), rest)
  else none

/-- A handle that ends with its own mark, and so is not the beginning of a local tag. -/
def isClosedHandle (handle : String) : Bool :=
  1 < handle.length && handle.toList.getLast? == some '!'

/-- The handle and the suffix of a tag, from its first mark on. A verbatim tag has no handle, and
neither has the tag that is a mark alone. -/
def readTagParts? (text : List Glyph) : Option (String × Tag × List Glyph) :=
  if peek text 1 = '<' then do
    let (bytes, rest) ← readTagCharacters? true (text.drop 2)
    if peek rest 0 = '>' then some ("", tagOfBytes bytes, rest.drop 1) else none
  else do
    let (handle, rest) ← readHandle? text
    if isClosedHandle handle then
      let (bytes, rest) ← readTagCharacters? false rest
      some (handle, tagOfBytes bytes, rest)
    else
      let (bytes, rest) ← readTagBytes? false (rest.length + 1) rest
      let word := Text.Utf8.encode (handle.toList.drop 1)
      let suffix := tagOfBytes (word ++ bytes)
      if suffix.bytes.isEmpty then some ("", .mark, rest) else some ("!", suffix, rest)

/-- A tag must be followed by white space or, inside a flow collection, by a comma. -/
def readTag? (inFlow : Bool) (text : List Glyph) : Option (Token × List Glyph) := do
  let (handle, suffix, rest) ← readTagParts? text
  let next := peek rest 0
  if endsWord next || (inFlow && next == ',') then some (.tag handle suffix, rest) else none

/-! ### Directives -/

/-- A version number has at most nine digits. -/
def readVersionNumber? (text : List Glyph) : Option (Nat × List Glyph) :=
  let digits := (text.takeWhile fun glyph => glyph.char.isDigit).map Glyph.char
  if digits.isEmpty || 9 < digits.length then none
  else some (Number.digitsValue digits, text.drop digits.length)

def readVersion? (text : List Glyph) : Option (Token × List Glyph) := do
  let (major, rest) ← readVersionNumber? (skipBlanks text)
  if peek rest 0 = '.' then
    let (minor, rest) ← readVersionNumber? (rest.drop 1)
    some (.version major minor, rest)
  else none

/-- The value of a tag directive: a handle, and what it stands for. -/
def readTagDirective? (text : List Glyph) : Option (Token × List Glyph) := do
  let (handle, rest) ← readHandle? (skipBlanks text)
  if handle ≠ "!" && !isClosedHandle handle then none
  else if !isBlankChar (peek rest 0) then none
  else
    let (bytes, rest) ← readTagCharacters? true (skipBlanks rest)
    if endsWord (peek rest 0) then some (.tagHandle handle (tagOfBytes bytes), rest) else none

/-- A directive, from its percent sign on, with the rest of its line. -/
def readDirective? (text : List Glyph) : Option (Token × List Glyph) := do
  let body := text.drop 1
  let name := (body.takeWhile fun glyph => isWordChar glyph.char).map Glyph.char
  let rest := body.drop name.length
  if name.isEmpty || !endsWord (peek rest 0) then none
  else
    let (token, rest) ←
      if name = ['Y', 'A', 'M', 'L'] then readVersion? rest
      else if name = ['T', 'A', 'G'] then readTagDirective? rest
      else none
    let rest ← skipLineEnd? rest
    some (token, rest)

end BuildBench.Yaml
