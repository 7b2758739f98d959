import BuildBench.Number.Digit
import BuildBench.Yaml.Gap

set_option autoImplicit false

/-! The texts of scalars in their five styles: plain, in single or double quotes, literal and
folded. Each reader starts behind the character that tells the style, a plain one at its first
character, and returns the text and what follows. -/

namespace BuildBench.Yaml

/-! ### Plain scalars -/

structure PlainScalar where
  text : List Char
  /-- Line breaks follow the scalar. -/
  broken : Bool
  rest : List Glyph

/-- Characters that separate the parts of flow collections. -/
def isFlowMark (c : Char) : Bool :=
  c == ',' || c == '[' || c == ']' || c == '\x7b' || c == '\x7d'

/-- After white space a plain scalar goes on only at its indentation, and not with a comment or a
document mark. -/
def plainStopsAfterGap (inFlow : Bool) (indent : Int) (glyph : Glyph) (text : List Glyph) : Bool :=
  (!inFlow && decide ((glyph.column : Int) < indent)) || isAnyDocumentMark text ||
    glyph.char == '#'

/-- A character ends a plain scalar: a colon before white space, or a separator inside a flow
collection. -/
def plainStopsAt (inFlow : Bool) (c next : Char) : Bool :=
  (c == ':' && endsWord next) || (inFlow && isFlowMark c)

/-- Inside a flow collection a colon cannot touch a separator. -/
def plainClashes (inFlow : Bool) (c next : Char) : Bool :=
  inFlow && c == ':' && (isFlowMark next || next == '?')

/-- The end of a plain scalar. `text` is what was read, the last character first. -/
def endPlain (text : List Char) (gap : Gap) (rest : List Glyph) : Option PlainScalar :=
  some { text := text.reverse, broken := gap.broken, rest }

/-- Reads on in a plain scalar. `text` is what was read so far, the last character first. -/
def readPlain (inFlow : Bool) (indent : Int) (text : List Char) (gap : Gap) :
    List Glyph → Option PlainScalar
  | [] => endPlain text gap []
  | glyph :: rest =>
      if glyph.isBlank then
        if gap.broken && decide ((glyph.column : Int) < indent) && glyph.char == '\t' then none
        else readPlain inFlow indent text (gap.addBlank glyph.char) rest
      else if glyph.isBreak then readPlain inFlow indent text (gap.addBreak glyph.char) rest
      else if glyph.isEnd then endPlain text gap (glyph :: rest)
      else if gap.isOpen && plainStopsAfterGap inFlow indent glyph (glyph :: rest) then
        endPlain text gap (glyph :: rest)
      else if plainClashes inFlow glyph.char (peek rest 0) then none
      else if plainStopsAt inFlow glyph.char (peek rest 0) then endPlain text gap (glyph :: rest)
      else readPlain inFlow indent (glyph.char :: gap.fold.reverse ++ text) .none rest

/-! ### Quoted scalars -/

def shortEscape? (c : Char) : Option Char :=
  match c with
  | '0' => some (Char.ofNat 0x00)
  | 'a' => some (Char.ofNat 0x07)
  | 'b' => some (Char.ofNat 0x08)
  | 't' => some '\t'
  | '\t' => some '\t'
  | 'n' => some '\n'
  | 'v' => some (Char.ofNat 0x0B)
  | 'f' => some (Char.ofNat 0x0C)
  | 'r' => some '\r'
  | 'e' => some (Char.ofNat 0x1B)
  | ' ' => some ' '
  | '\x22' => some '\x22'
  | '/' => some '/'
  | '\\' => some '\\'
  | 'N' => some (Char.ofNat 0x85)
  | '_' => some (Char.ofNat 0xA0)
  | 'L' => some (Char.ofNat 0x2028)
  | 'P' => some (Char.ofNat 0x2029)
  | _ => none

def escapeWidth? (c : Char) : Option Nat :=
  match c with
  | 'x' => some 2
  | 'u' => some 4
  | 'U' => some 8
  | _ => none

/-- The character that an escape stands for, after the backslash, and the characters it takes. -/
def readQuotedEscape? (text : List Glyph) : Option (Char × Nat) :=
  let mark := peek text 0
  match shortEscape? mark with
  | some c => some (c, 1)
  | none =>
      match escapeWidth? mark with
      | none => none
      | some width =>
          let digits := ((text.drop 1).take width).map Glyph.char
          if digits.length < width then none
          else
            match Number.readNatural? 16 digits with
            | none => none
            | some code =>
                if code.isValidChar then some (Char.ofNat code, width + 1) else none

/-- Reads on in a scalar in quotes. `text` is what was read so far, the last character first. -/
def readQuoted (single : Bool) (text : List Char) (gap : Gap) :
    List Glyph → Option (List Char × List Glyph)
  | [] => none
  | glyph :: rest =>
      if glyph.isBlank then readQuoted single text (gap.addBlank glyph.char) rest
      else if glyph.isBreak then readQuoted single text (gap.addBreak glyph.char) rest
      else if glyph.isEnd then none
      else if gap.isOpen && isAnyDocumentMark (glyph :: rest) then none
      else
        let text := gap.fold.reverse ++ text
        if single then
          if glyph.char = '\x27' then
            if peek rest 0 = '\x27' then readQuoted single ('\x27' :: text) .none (rest.drop 1)
            else some (text.reverse, rest)
          else readQuoted single (glyph.char :: text) .none rest
        else if glyph.char = '\x22' then some (text.reverse, rest)
        else if glyph.char = '\\' then
          if isBreakChar (peek rest 0) then readQuoted single text .escapedBreak (rest.drop 1)
          else
            match readQuotedEscape? rest with
            | none => none
            | some (c, size) => readQuoted single (c :: text) .none (rest.drop size)
        else readQuoted single (glyph.char :: text) .none rest
  termination_by glyphs => glyphs.length
  decreasing_by all_goals simp only [List.length_cons, List.length_drop]; omega

/-! ### Block scalars -/

/-- What becomes of the line breaks at the end of a block scalar. -/
inductive Chomp
  | strip
  | clip
  | keep
  deriving DecidableEq, Repr

def chompMark? (c : Char) : Option Chomp :=
  if c = '+' then some .keep else if c = '-' then some .strip else none

/-- The indentation that a digit in a block scalar's header gives. -/
inductive Increment
  | given (width : Nat)
  | absent
  | invalid

/-- Reads the digit of a header. -/
def incrementOf (c : Char) : Increment :=
  if c = '0' then .invalid
  else if c.isDigit then .given (c.toNat - '0'.toNat)
  else .absent

/-- The marks of a block scalar: a chomping mark and a digit in either order, each optional. The
width zero means that the first line tells the indentation. -/
def blockMarks? (text : List Glyph) : Option (Chomp × Nat × List Glyph) :=
  match chompMark? (peek text 0) with
  | some chomp =>
      match incrementOf (peek text 1) with
      | .given width => some (chomp, width, text.drop 2)
      | .absent => some (chomp, 0, text.drop 1)
      | .invalid => none
  | none =>
      match incrementOf (peek text 0) with
      | .given width =>
          match chompMark? (peek text 1) with
          | some chomp => some (chomp, width, text.drop 2)
          | none => some (.clip, width, text.drop 1)
      | .absent => some (.clip, 0, text)
      | .invalid => none

/-- Passes indentation and empty lines. `indent` is zero as long as it is not known; `widest` is the
widest indentation so far. Returns the widest one, the breaks passed, and what follows. A tab cannot
indent. -/
def passBreaks (indent widest : Nat) (breaks : List Char) :
    List Glyph → Option (Nat × List Char × List Glyph)
  | [] => some (widest, breaks, [])
  | glyph :: rest =>
      let indents := indent == 0 || decide (glyph.column < indent)
      if glyph.char = ' ' && indents then passBreaks indent widest breaks rest
      else
        let widest := max widest glyph.column
        if glyph.char = '\t' && indents then none
        else if glyph.isBreak then passBreaks indent widest (breaks ++ [glyph.char]) rest
        else some (widest, breaks, glyph :: rest)

/-- A folded scalar joins two lines with a space when neither begins with a blank and one line feed
stands between them. -/
def joinLines (literal leadBlank lineBlank : Bool) (lead further : List Char) : List Char :=
  if !literal && lead == ['\n'] && !leadBlank && !lineBlank then
    (if further.isEmpty then [' '] else []) ++ further
  else lead ++ further

/-- What a block scalar leaves behind its last line. -/
def Chomp.ending (chomp : Chomp) (lead further : List Char) : List Char :=
  match chomp with
  | .strip => []
  | .clip => lead
  | .keep => lead ++ further

/-- Reads the lines of a block scalar. Each line takes at least one character, so `steps` can be
their number. The text read so far has its last character first. -/
def readBlockLines (literal : Bool) (chomp : Chomp) (indent : Nat) :
    Nat → List Char → List Char → List Char → Bool → List Glyph →
      Option (List Char × List Glyph)
  | 0, _, _, _, _, _ => none
  | _ + 1, text, lead, further, _, [] => some (text.reverse ++ chomp.ending lead further, [])
  | steps + 1, text, lead, further, leadBlank, glyph :: rest =>
      if glyph.column = indent && !glyph.isEnd then
        let joined := joinLines literal leadBlank glyph.isBlank lead further
        let line := ((glyph :: rest).takeWhile Glyph.isContent).map Glyph.char
        let after := skipLine (glyph :: rest)
        let broken := isBreakChar (peek after 0)
        let lead := if broken then [peek after 0] else []
        match passBreaks indent 0 [] (if broken then after.drop 1 else after) with
        | none => none
        | some (_, further, after) =>
            readBlockLines literal chomp indent steps ((joined ++ line).reverse ++ text) lead
              further glyph.isBlank after
      else some (text.reverse ++ chomp.ending lead further, glyph :: rest)

/-- Reads a block scalar inside a collection that is indented by `parent`. -/
def readBlock (literal : Bool) (parent : Int) (text : List Glyph) :
    Option (List Char × List Glyph) := do
  let (chomp, width, rest) ← blockMarks? text
  let body ← skipLineEnd? rest
  let known := if width = 0 then 0 else (max parent 0).toNat + width
  let (widest, breaks, body) ← passBreaks known 0 [] body
  let indent := if width = 0 then max widest (max (parent + 1) 1).toNat else known
  readBlockLines literal chomp indent (body.length + 1) [] [] breaks false body

end BuildBench.Yaml
