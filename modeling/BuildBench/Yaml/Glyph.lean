set_option autoImplicit false

/-! The characters of a YAML text with their positions. Line breaks of the common kinds become line
feeds, and the text ends with a mark that is no character of it, so that every reader meets the end
as one more glyph. -/

namespace BuildBench.Yaml

/-- A character and where it stands. The index counts the bytes before it. -/
structure Glyph where
  char : Char
  index : Nat
  line : Nat
  column : Nat
  deriving DecidableEq, Repr

/-- Stands behind the last character. No text may hold it. -/
def endMark : Char := Char.ofNat 0

/-- Characters that a text may hold. -/
def isAllowed (c : Char) : Bool :=
  let code := c.toNat
  code == 0x09 || code == 0x0A || code == 0x0D || (0x20 ≤ code && code ≤ 0x7E) ||
    code == 0x85 || (0xA0 ≤ code && code ≤ 0xD7FF) || (0xE000 ≤ code && code ≤ 0xFFFD) ||
    0x10000 ≤ code

/-- Carriage returns, alone or before a line feed, and the next-line character become line feeds. -/
def unifyBreaks : List Char → List Char
  | [] => []
  | '\r' :: '\n' :: rest => '\n' :: unifyBreaks rest
  | c :: rest => (if c = '\r' ∨ c.toNat = 0x85 then '\n' else c) :: unifyBreaks rest

/-- A line feed, or the line or paragraph separator. -/
def isBreakChar (c : Char) : Bool :=
  c == '\n' || c.toNat == 0x2028 || c.toNat == 0x2029

/-- A space or a tab. -/
def isBlankChar (c : Char) : Bool :=
  c == ' ' || c == '\t'

/-- A blank, a break or the end: what may stand behind an indicator. -/
def endsWord (c : Char) : Bool :=
  isBlankChar c || isBreakChar c || c == endMark

/-- Letters, digits, hyphens and underscores. -/
def isWordChar (c : Char) : Bool :=
  c.isAlphanum || c == '-' || c == '_'

def glyphsFrom (index line column : Nat) : List Char → List Glyph
  | [] => [{ char := endMark, index, line, column }]
  | c :: rest =>
      { char := c, index, line, column } ::
        if isBreakChar c then glyphsFrom (index + c.utf8Size) (line + 1) 0 rest
        else glyphsFrom (index + c.utf8Size) line (column + 1) rest

/-- The glyphs of a text, if it holds only allowed characters. -/
def glyphs? (text : List Char) : Option (List Glyph) :=
  if text.all isAllowed then some (glyphsFrom 0 0 0 (unifyBreaks text)) else none

namespace Glyph

def isBreak (glyph : Glyph) : Bool :=
  isBreakChar glyph.char

def isBlank (glyph : Glyph) : Bool :=
  isBlankChar glyph.char

/-- The glyph is the mark behind the text. -/
def isEnd (glyph : Glyph) : Bool :=
  glyph.char == endMark

def isContent (glyph : Glyph) : Bool :=
  !glyph.isBreak && !glyph.isEnd

end Glyph

def peek (text : List Glyph) (distance : Nat) : Char :=
  match text[distance]? with
  | some glyph => glyph.char
  | none => endMark

/-- Three marks at the start of a line that begin or end a document. -/
def isDocumentMark (mark : Char) (text : List Glyph) : Bool :=
  (text.head?.map Glyph.column) == some 0 && peek text 0 == mark && peek text 1 == mark &&
    peek text 2 == mark && endsWord (peek text 3)

/-- The text begins with the mark of a document's start or end. -/
def isAnyDocumentMark (text : List Glyph) : Bool :=
  isDocumentMark '-' text || isDocumentMark '.' text

def skipBlanks (text : List Glyph) : List Glyph :=
  text.dropWhile Glyph.isBlank

/-- The text from the end of its first line on. -/
def skipLine (text : List Glyph) : List Glyph :=
  text.dropWhile Glyph.isContent

/-- The rest of a line that may only hold blanks and a comment, up to the line's end. -/
def skipLineEnd? (text : List Glyph) : Option (List Glyph) :=
  let rest := skipBlanks text
  let rest := if peek rest 0 = '#' then skipLine rest else rest
  match rest with
  | [] => some []
  | glyph :: after => if glyph.isBreak then some after else if glyph.isEnd then some rest else none

end BuildBench.Yaml
