import BuildBench.Yaml.Token.Property

set_option autoImplicit false

/-! The tokens of a text. Two things decide where block collections open and close: the column of
their entries, and keys that are recognised only at the colon behind them, when the tokens that open
a mapping have to be put in front of the key. -/

namespace BuildBench.Yaml

/-- A place where a key may have begun. -/
structure KeyCandidate where
  possible : Bool
  /-- The place is at the indentation of the current mapping, so that nothing but a key fits. -/
  required : Bool
  /-- The number of tokens before it. -/
  tokensBefore : Nat
  index : Nat
  line : Nat
  column : Nat
  deriving Repr

/-- No key can have begun. -/
def KeyCandidate.none : KeyCandidate where
  possible := false
  required := false
  tokensBefore := 0
  index := 0
  line := 0
  column := 0

/-- A key lies on one line and has at most so many bytes. -/
def keyLimit : Nat := 1024

/-- A reader in the middle of a text. -/
structure Lexer where
  rest : List Glyph
  /-- The tokens read so far, the last one first, and their number. -/
  tokens : List Token
  count : Nat
  /-- The column of the current block collection, and of those around it. -/
  indent : Int
  outerIndents : List Int
  /-- Where a key may have begun, for each open flow collection and for the block around them. -/
  candidates : List KeyCandidate
  /-- The number of open flow collections. -/
  flowLevel : Nat
  /-- A key may begin here. -/
  keyAllowed : Bool

namespace Lexer

def ofGlyphs (text : List Glyph) : Lexer where
  rest := text
  tokens := []
  count := 0
  indent := -1
  outerIndents := []
  candidates := [.none]
  flowLevel := 0
  keyAllowed := true

def inFlow (lexer : Lexer) : Bool :=
  lexer.flowLevel != 0

def column (lexer : Lexer) : Int :=
  match lexer.rest with
  | [] => 0
  | glyph :: _ => glyph.column

def emit (lexer : Lexer) (token : Token) : Lexer :=
  { lexer with tokens := token :: lexer.tokens, count := lexer.count + 1 }

/-- The reader with a token put in where only `position` tokens had been read. -/
def emitAt (lexer : Lexer) (position : Nat) (token : Token) : Lexer :=
  let later := lexer.count - position
  { lexer with
    tokens := lexer.tokens.take later ++ token :: lexer.tokens.drop later
    count := lexer.count + 1 }

/-! ### Indentation -/

/-- Opens a block collection if the column lies to the right of the current one. -/
def openBlock (lexer : Lexer) (column : Int) (position : Option Nat) (token : Token) : Lexer :=
  if lexer.inFlow || decide (column ≤ lexer.indent) then lexer
  else
    let lexer :=
      match position with
      | some position => lexer.emitAt position token
      | none => lexer.emit token
    { lexer with indent := column, outerIndents := lexer.indent :: lexer.outerIndents }

/-- The indentation after all collections to the right of a column have been closed: the new
indentation, those around it, and the number of collections closed. -/
def closedTo (column : Int) : Int → List Int → Int × List Int × Nat
  | indent, [] => (indent, [], 0)
  | indent, outer :: rest =>
      if column < indent then
        let (indent, outerIndents, closed) := closedTo column outer rest
        (indent, outerIndents, closed + 1)
      else (indent, outer :: rest, 0)

/-- Closes the block collections to the right of a column. -/
def closeBlocks (lexer : Lexer) (column : Int) : Lexer :=
  if lexer.inFlow then lexer
  else
    let (indent, outerIndents, closed) := closedTo column lexer.indent lexer.outerIndents
    { lexer with
      tokens := List.replicate closed .blockEnd ++ lexer.tokens
      count := lexer.count + closed
      indent
      outerIndents }

/-! ### Keys -/

/-- A key cannot reach the place of the glyph. -/
def isStale (candidate : KeyCandidate) (glyph : Glyph) : Bool :=
  candidate.line < glyph.line || candidate.index + keyLimit < glyph.index

/-- Drops the places whose keys cannot reach the next glyph. A required key must not be missed. -/
def dropStale (lexer : Lexer) : Option Lexer :=
  match lexer.rest with
  | [] => some lexer
  | glyph :: _ =>
      let missed := lexer.candidates.any fun candidate =>
        candidate.possible && candidate.required && isStale candidate glyph
      if missed then none
      else
        some { lexer with
          candidates := lexer.candidates.map fun candidate =>
            if isStale candidate glyph then { candidate with possible := false } else candidate }

/-- Forgets the place where a key may have begun. A required key must not be missed. -/
def forgetKey (lexer : Lexer) : Option Lexer :=
  match lexer.candidates with
  | [] => some lexer
  | candidate :: outer =>
      if candidate.possible && candidate.required then none
      else some { lexer with candidates := { candidate with possible := false } :: outer }

/-- Notes that a key may begin here. -/
def noteKey (lexer : Lexer) : Option Lexer :=
  if lexer.keyAllowed then do
    let lexer ← lexer.forgetKey
    match lexer.rest, lexer.candidates with
    | glyph :: _, _ :: outer =>
        let candidate : KeyCandidate :=
          { possible := true
            required := !lexer.inFlow && lexer.indent == (glyph.column : Int)
            tokensBefore := lexer.count
            index := glyph.index
            line := glyph.line
            column := glyph.column }
        some { lexer with candidates := candidate :: outer }
    | _, _ => some lexer
  else some lexer

/-! ### White space -/

/-- Passes white space, comments and line breaks. A byte order mark may stand at the start of a
line. A tab is white space only where no key may begin. A line break in block context lets a key
begin. -/
def passSpace (inFlow : Bool) (keyAllowed : Bool) : List Glyph → List Glyph × Bool
  | [] => ([], keyAllowed)
  | glyph :: rest =>
      if glyph.column == 0 && glyph.char.toNat == 0xFEFF then passSpace inFlow keyAllowed rest
      else if glyph.char == ' ' || (glyph.char == '\t' && (inFlow || !keyAllowed)) then
        passSpace inFlow keyAllowed rest
      else if glyph.char == '#' then passComment inFlow keyAllowed rest
      else if glyph.isBreak then passSpace inFlow (keyAllowed || !inFlow) rest
      else (glyph :: rest, keyAllowed)
where
  passComment (inFlow : Bool) (keyAllowed : Bool) : List Glyph → List Glyph × Bool
    | [] => ([], keyAllowed)
    | glyph :: rest =>
        if glyph.isBreak then passSpace inFlow (keyAllowed || !inFlow) rest
        else if glyph.isEnd then (glyph :: rest, keyAllowed)
        else passComment inFlow keyAllowed rest

/-! ### Tokens -/

/-- Ends all block collections before something that stands outside of documents. -/
def leaveDocument (lexer : Lexer) : Option Lexer :=
  ((lexer.closeBlocks (-1)).forgetKey).map fun lexer => { lexer with keyAllowed := false }

/-- The reader with a token that takes so many glyphs. -/
def take (lexer : Lexer) (size : Nat) (token : Token) : Lexer :=
  { lexer.emit token with rest := lexer.rest.drop size }

def readEnd (lexer : Lexer) : Option Lexer :=
  lexer.leaveDocument.map fun lexer => lexer.emit .streamEnd

def readDirectiveToken (lexer : Lexer) : Option Lexer := do
  let lexer ← lexer.leaveDocument
  let (token, rest) ← readDirective? lexer.rest
  some { lexer.emit token with rest }

def readDocumentMark (lexer : Lexer) (token : Token) : Option Lexer :=
  lexer.leaveDocument.map fun lexer => lexer.take 3 token

/-- An opening bracket. A flow collection may itself be a key. -/
def readFlowStart (lexer : Lexer) (token : Token) : Option Lexer := do
  let lexer ← lexer.noteKey
  some ({ lexer with
    candidates := .none :: lexer.candidates
    flowLevel := lexer.flowLevel + 1
    keyAllowed := true }.take 1 token)

def readFlowEnd (lexer : Lexer) (token : Token) : Option Lexer := do
  let lexer ← lexer.forgetKey
  let lexer :=
    if lexer.inFlow then
      { lexer with candidates := lexer.candidates.drop 1, flowLevel := lexer.flowLevel - 1 }
    else lexer
  some ({ lexer with keyAllowed := false }.take 1 token)

def readFlowEntry (lexer : Lexer) : Option Lexer := do
  let lexer ← lexer.forgetKey
  some ({ lexer with keyAllowed := true }.take 1 .flowEntry)

def readBlockEntry (lexer : Lexer) : Option Lexer := do
  if !lexer.inFlow && !lexer.keyAllowed then none
  else
    let lexer ← (lexer.openBlock lexer.column none .blockSequence).forgetKey
    some ({ lexer with keyAllowed := true }.take 1 .blockEntry)

def readKey (lexer : Lexer) : Option Lexer := do
  if !lexer.inFlow && !lexer.keyAllowed then none
  else
    let lexer ← (lexer.openBlock lexer.column none .blockMapping).forgetKey
    some ({ lexer with keyAllowed := !lexer.inFlow }.take 1 .key)

/-- The colon of a value. If a key began at the noted place, the tokens of the key and perhaps of a
new mapping go there. -/
def readValue (lexer : Lexer) : Option Lexer :=
  match lexer.candidates with
  | [] => none
  | candidate :: outer =>
      if candidate.possible then
        let lexer := lexer.emitAt candidate.tokensBefore .key
        let lexer := lexer.openBlock candidate.column (some candidate.tokensBefore) .blockMapping
        some ({ lexer with
          candidates := { candidate with possible := false } :: outer
          keyAllowed := false }.take 1 .value)
      else if !lexer.inFlow && !lexer.keyAllowed then none
      else
        let lexer := lexer.openBlock lexer.column none .blockMapping
        some ({ lexer with keyAllowed := !lexer.inFlow }.take 1 .value)

/-- An anchor or an alias. -/
def readNamed (lexer : Lexer) (token : String → Token) : Option Lexer := do
  let lexer ← lexer.noteKey
  let (name, rest) ← readName? (lexer.rest.drop 1)
  some { lexer.emit (token name) with rest, keyAllowed := false }

def readTagToken (lexer : Lexer) : Option Lexer := do
  let lexer ← lexer.noteKey
  let (token, rest) ← readTag? lexer.inFlow lexer.rest
  some { lexer.emit token with rest, keyAllowed := false }

def readBlockToken (lexer : Lexer) (literal : Bool) : Option Lexer := do
  let lexer ← lexer.forgetKey
  let (text, rest) ← readBlock literal lexer.indent (lexer.rest.drop 1)
  let style := if literal then Style.literal else .marked
  some { lexer.emit (.scalar style (String.ofList text)) with rest, keyAllowed := true }

def readQuotedToken (lexer : Lexer) (single : Bool) : Option Lexer := do
  let lexer ← lexer.noteKey
  let (text, rest) ← readQuoted single [] .none (lexer.rest.drop 1)
  some { lexer.emit (.scalar .marked (String.ofList text)) with rest, keyAllowed := false }

/-- A plain scalar. Line breaks behind it let a key begin. -/
def readPlainToken (lexer : Lexer) : Option Lexer := do
  let lexer ← lexer.noteKey
  let scalar ← readPlain lexer.inFlow (lexer.indent + 1) [] .none lexer.rest
  some { lexer.emit (.scalar .plain (String.ofList scalar.text)) with
    rest := scalar.rest
    keyAllowed := scalar.broken }

/-- Characters that mean something else at the start of a token. -/
def indicators : List Char :=
  ['-', '?', ':', ',', '[', ']', '\x7b', '\x7d', '#', '&', '*', '!', '|', '>', '\x27', '\x22',
    '%', '@', '\x60']

/-- A plain scalar can begin with a character. -/
def beginsPlain (inFlow : Bool) (c next : Char) : Bool :=
  (!endsWord c && !indicators.contains c) ||
    (c == '-' && !isBlankChar next) ||
    (!inFlow && (c == '?' || c == ':') && !endsWord next)

/-- The token at the front, whose first two characters are given. -/
def readToken (lexer : Lexer) (c next : Char) : Option Lexer :=
  if c = endMark then lexer.readEnd
  else if lexer.column = 0 && c = '%' then lexer.readDirectiveToken
  else if isDocumentMark '-' lexer.rest then lexer.readDocumentMark .documentStart
  else if isDocumentMark '.' lexer.rest then lexer.readDocumentMark .documentEnd
  else if c = '[' then lexer.readFlowStart .flowSequence
  else if c = '\x7b' then lexer.readFlowStart .flowMapping
  else if c = ']' then lexer.readFlowEnd .flowSequenceEnd
  else if c = '\x7d' then lexer.readFlowEnd .flowMappingEnd
  else if c = ',' then lexer.readFlowEntry
  else if c = '-' && endsWord next then lexer.readBlockEntry
  else if c = '?' && (lexer.inFlow || endsWord next) then lexer.readKey
  else if c = ':' && (lexer.inFlow || endsWord next) then lexer.readValue
  else if c = '*' then lexer.readNamed .alias
  else if c = '&' then lexer.readNamed .anchor
  else if c = '!' then lexer.readTagToken
  else if c = '|' && !lexer.inFlow then lexer.readBlockToken true
  else if c = '>' && !lexer.inFlow then lexer.readBlockToken false
  else if c = '\x27' then lexer.readQuotedToken true
  else if c = '\x22' then lexer.readQuotedToken false
  else if beginsPlain lexer.inFlow c next then lexer.readPlainToken
  else none

def advance (lexer : Lexer) : Option Lexer := do
  let (rest, keyAllowed) := passSpace lexer.inFlow lexer.keyAllowed lexer.rest
  let lexer ← dropStale { lexer with rest, keyAllowed }
  let lexer := lexer.closeBlocks lexer.column
  lexer.readToken (peek lexer.rest 0) (peek lexer.rest 1)

/-- Reads all tokens. Each takes at least one glyph, so the number of glyphs bounds the steps. -/
def run : Nat → Lexer → Option (List Token)
  | 0, _ => none
  | steps + 1, lexer =>
      match lexer.advance with
      | none => none
      | some lexer =>
          match lexer.tokens with
          | .streamEnd :: _ => some lexer.tokens.reverse
          | _ => run steps lexer

end Lexer

def tokens? (text : List Char) : Option (List Token) := do
  let glyphs ← glyphs? text
  Lexer.run (glyphs.length + 1) (.ofGlyphs glyphs)

end BuildBench.Yaml
