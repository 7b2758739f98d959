import BuildBench.Logging.Pattern
import BuildBench.Number.Decimal
import BuildBench.Text.Pieces
import BuildBench.Text.Utf8

set_option autoImplicit false

/-! Filters of log lines. A filter is a list of directives with commas between them. A directive
names a level, or a target and a level. It may also name a span in which it holds, and a field that
lines must have. -/

namespace BuildBench.Logging

open BuildBench.Text

/-- How much is let through: nothing, or all up to a level. -/
inductive Verbosity
  | off
  | error
  | warning
  | info
  | debug
  | trace
  deriving DecidableEq, Repr

namespace Verbosity

/-- The number of a level. Nothing is zero, and the least important level is five. -/
def rank : Verbosity → Nat
  | .off => 0
  | .error => 1
  | .warning => 2
  | .info => 3
  | .debug => 4
  | .trace => 5

def name : Verbosity → String
  | .off => "OFF"
  | .error => "ERROR"
  | .warning => "WARN"
  | .info => "INFO"
  | .debug => "DEBUG"
  | .trace => "TRACE"

/-- The levels by number. -/
def all : List Verbosity :=
  [.off, .error, .warning, .info, .debug, .trace]

/-- Reads a level: its number, or its name in any letter case. -/
def read? (text : List Char) : Option Verbosity :=
  match Number.readWhole (Number.wordBound 64) text with
  | .ok number => all[number]?
  | .error _ => all.find? fun level => lowerAscii level.name == lowerAscii (String.ofList text)

/-- Reads the level behind an equals sign. A missing one lets everything through. -/
def readBehindTarget? (text : List Char) : Option Verbosity :=
  if text.isEmpty then some .trace else read? text

end Verbosity

structure Directive where
  /-- The beginning of the targets that it speaks of. -/
  target : Option String
  field : Option String
  /-- It holds only within some span, or for some value of the field, and lets no line through
  outside. -/
  withinSpan : Bool
  level : Verbosity
  deriving DecidableEq, Repr

namespace Directive

/-! ### Reading -/

/-- The characters of a text, each with the number of bytes before it. -/
def placed (position : Nat) : List Char → List (Nat × Char)
  | [] => []
  | c :: rest => (position, c) :: placed (position + c.utf8Size) rest

/-- A directive in the middle of being read. Positions are counted from the first character that
is not blank, but the parts are cut from the text with its blanks. -/
structure Reader where
  /-- The whole text. -/
  source : List Char
  target : Option String
  field : Option String
  withinSpan : Bool
  deriving DecidableEq, Repr

namespace Reader

/-- The part of the source from one position up to another. Both must lie between characters. -/
def part? (reader : Reader) (start stop : Nat) : Option (List Char) :=
  let bytes := (Text.Utf8.encode reader.source).take stop
  (Text.Utf8.decode (bytes.drop start)).toOption

def partFrom? (reader : Reader) (start : Nat) : Option (List Char) :=
  reader.part? start (Text.Utf8.encode reader.source).length

def finish (reader : Reader) (level : Verbosity) : Directive where
  target := reader.target
  field := reader.field
  withinSpan := reader.withinSpan
  level := level

/-- A value that a field can be compared with: a number, or else a pattern. -/
def isValue (text : List Char) : Bool :=
  (Number.Decimal.read text).isSome || Pattern.isWellFormed text

/-- Reads a field: its name, and perhaps a value behind an equals sign. -/
def readField? (reader : Reader) (text : List Char) : Option Reader :=
  if text.isEmpty then none
  else
    match pieces '=' text with
    | name :: value :: _ =>
        if isValue value then
          some { reader with field := some (String.ofList name), withinSpan := true }
        else none
    | name :: [] => some { reader with field := some (String.ofList name) }
    | [] => none

/-- Reads the level behind the equals sign at a position. -/
def readLevel? (reader : Reader) (position : Nat) : Option Directive := do
  let text ← reader.partFrom? (position + 1)
  let level ← Verbosity.readBehindTarget? text
  some (reader.finish level)

/-- Reads what follows a span: nothing, or an equals sign and a level. -/
def readBehindSpan? (reader : Reader) : List (Nat × Char) → Option Directive
  | [] => some (reader.finish .trace)
  | (position, c) :: _ => if c = '=' then reader.readLevel? position else none

/-- Reads a field between braces, which end the span, and what follows. -/
def readBraces? (reader : Reader) (start : Nat) (text : List (Nat × Char)) : Option Directive :=
  match text.dropWhile (·.2 ≠ '\x7d') with
  | (stop, _) :: (_, ']') :: rest => do
      let reader ← reader.readField? (← reader.part? start stop)
      reader.readBehindSpan? rest
  | _ => none

/-- Reads a span behind the bracket at a position, and what follows. A span without field is named,
be it by nothing. -/
def readSpan? (reader : Reader) (position : Nat) (text : List (Nat × Char)) : Option Directive :=
  let start := position + 1
  match text.dropWhile fun entry => entry.2 != ']' && entry.2 != '\x7b' with
  | [] => none
  | (stop, mark) :: rest => do
      let name ← reader.part? start stop
      let named := mark == ']' || !name.isEmpty
      let reader := { reader with withinSpan := named }
      if mark = ']' then reader.readBehindSpan? rest else reader.readBraces? (stop + 1) rest

/-- Reads a directive that is one word: a level, or else a target, of which everything is let
through. -/
def readWord? (reader : Reader) : Option Directive := do
  let word ← reader.partFrom? 0
  match Verbosity.read? word with
  | some level => some (reader.finish level)
  | none => some ({ reader with target := some (String.ofList word) }.finish .trace)

/-- Reads a directive that begins with a target, up to the equals sign or bracket behind it. -/
def readTarget? (reader : Reader) (text : List (Nat × Char)) : Option Directive :=
  match text.dropWhile fun entry => entry.2 != '=' && entry.2 != '[' with
  | [] => reader.readWord?
  | (stop, mark) :: rest => do
      let reader := { reader with target := some (String.ofList (← reader.part? 0 stop)) }
      if mark = '[' then reader.readSpan? stop rest else reader.readLevel? stop

end Reader

/-- A directive can begin with a letter, a number, or a sign that names hold. -/
def begins (c : Char) : Bool :=
  c == '-' || c == ':' || c == '_' || isAlphanumeric c

def read? (source : List Char) : Option Directive :=
  let reader : Reader := { source, target := none, field := none, withinSpan := false }
  match placed 0 (trimChars source) with
  | [] => none
  | (position, c) :: rest =>
      if c = '[' then reader.readSpan? position rest
      else if begins c then reader.readTarget? ((position, c) :: rest)
      else none

/-! ### What a directive says -/

/-- The directive says something of the lines of a target with certain fields: it names no target or
the beginning of this one, and no field or one of these. -/
def speaksOf (directive : Directive) (target : String) (fields : List String) : Bool :=
  let ofTarget :=
    match directive.target with
    | some part => part.toList.isPrefixOf target.toList
    | none => true
  let ofFields :=
    match directive.field with
    | some name => fields.contains name
    | none => true
  !directive.withinSpan && ofTarget && ofFields

/-- How much of a target a directive names. One that names something says more than one that names
nothing. -/
def reach (directive : Directive) : Nat :=
  match directive.target with
  | some part => part.utf8ByteSize + 1
  | none => 0

/-- A directive yields to one that says at least as much: that names more of the target, or as much
of it and a field, or a field that comes later in order. -/
def yieldsTo (directive other : Directive) : Bool :=
  if directive.reach = other.reach then
    match directive.field, other.field with
    | none, _ => true
    | some _, none => false
    | some name, some otherName => decide (name ≤ otherName)
  else decide (directive.reach < other.reach)

end Directive

structure Filter where
  directives : List Directive
  deriving DecidableEq, Repr

namespace Filter

/-- Reads a filter. Empty directives do not count. -/
def read? (text : String) : Option Filter :=
  let parts := (pieces ',' text.toList).filter (!·.isEmpty)
  (parts.mapM Directive.read?).map fun directives => { directives }

def messageField : String := "message"

/-- The level up to which lines of a target are let through that have, beside a message, the given
fields. The directive decides that says most of them, the last one of equals. Where none speaks of
them, nothing is let through. -/
def levelOf (filter : Filter) (target : String) (fields : List String) : Verbosity :=
  let candidates := filter.directives.filter (·.speaksOf target (messageField :: fields))
  let best? := candidates.foldl
    (fun best? directive =>
      match best? with
      | some best => if Directive.yieldsTo best directive then some directive else some best
      | none => some directive)
    (none : Option Directive)
  (best?.map (·.level)).getD .off

def admits (filter : Filter) (level : Verbosity) (target : String) (fields : List String) : Bool :=
  decide (level.rank ≤ (filter.levelOf target fields).rank)

end Filter

end BuildBench.Logging
