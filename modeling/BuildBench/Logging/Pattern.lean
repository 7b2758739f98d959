import BuildBench.Logging.Pattern.CharClass
import BuildBench.Text.Alphanumeric

set_option autoImplicit false

/-! Patterns that values of fields are compared with. Only one thing is asked of a pattern here:
whether it is well formed. A filter with one that is not is refused. -/

namespace BuildBench.Logging.Pattern

/-- A pattern may nest so deep. -/
def depthLimit : Nat := 250

/-- A part of a branch. Options that are set have no text to be repeated. -/
structure Part where
  depth : Nat
  repeatable : Bool
  deriving DecidableEq, Repr

/-- Branches with bars between them, as far as they are read. -/
structure Branches where
  /-- The depths of the branches before the last bar. -/
  before : List Nat
  /-- The parts of the branch behind it, the last one first. -/
  parts : List Part
  deriving DecidableEq, Repr

namespace Branches

def empty : Branches where
  before := []
  parts := []

/-- The depth of parts or branches side by side. -/
def depthOf (depths : List Nat) : Nat :=
  (depths.foldl Group.add (.flat 0)).whole

def lastDepth (branches : Branches) : Nat :=
  depthOf (branches.parts.map Part.depth)

def depth (branches : Branches) : Nat :=
  depthOf (branches.lastDepth :: branches.before)

def add (branches : Branches) (depth : Nat) : Branches :=
  { branches with parts := { depth, repeatable := true } :: branches.parts }

def addOptions (branches : Branches) : Branches :=
  { branches with parts := { depth := 0, repeatable := false } :: branches.parts }

def addBar (branches : Branches) : Branches where
  before := branches.lastDepth :: branches.before
  parts := []

def repeated? (branches : Branches) : Option Branches :=
  match branches.parts with
  | [] => none
  | last :: parts =>
      if last.repeatable then
        some { branches with parts := { last with depth := last.depth + 1 } :: parts }
      else none

end Branches

/-! ### Groups -/

/-- The name of a group, and what follows the mark behind it. A name begins with a letter or an
underscore, and holds digits, points and brackets further on. -/
def readGroupName? (text : List Char) : Option (List Char × List Char) :=
  let name := text.takeWhile (· ≠ '>')
  match name, text.drop name.length with
  | first :: more, '>' :: rest =>
      let begins := first == '_' || Text.isAlphabetic first
      let goesOn := fun c => ['_', '.', '[', ']'].contains c || Text.isAlphanumeric c
      if begins && more.all goesOn then some (name, rest) else none
  | _, _ => none

def optionLetters : List Char :=
  ['i', 'm', 's', 'U', 'u', 'R', 'x']

def setOption (mode : Mode) (letter : Char) (value : Bool) : Mode :=
  match letter with
  | 'i' => { mode with foldsCase := value }
  | 'u' => { mode with unicode := value }
  | 'x' => { mode with spaced := value }
  | _ => mode

/-- Reads the options of a group up to the character that ends them: the mode then, that character,
and what follows. `seen` has the letters and the hyphen so far, the last one first. A hyphen takes
back the options behind it, of which there must be one. Nothing comes twice. -/
def readOptions? (mode : Mode) (seen : List Char) :
    List Char → Option (Mode × Char × List Char)
  | [] => none
  | c :: rest =>
      if c = ':' ∨ c = ')' then
        if seen.head? = some '-' ∨ (c = ')' ∧ seen.isEmpty) then none else some (mode, c, rest)
      else if seen.contains c then none
      else if c = '-' then readOptions? mode (c :: seen) rest
      else if optionLetters.contains c then
        readOptions? (setOption mode c !(seen.contains '-')) (c :: seen) rest
      else none

/-- What a parenthesis opens. -/
inductive Opening
  /-- A group in which a mode holds. -/
  | group (mode : Mode)
  | named (name : List Char)
  /-- No group, but a mode for the rest of the group around it. -/
  | options (mode : Mode)
  deriving DecidableEq, Repr

/-- Reads what a parenthesis opens, and what follows. Nothing can look ahead or behind. -/
def readOpening? (mode : Mode) (text : List Char) : Option (Opening × List Char) :=
  match mode.passSpace text with
  | '?' :: '<' :: '=' :: _ => none
  | '?' :: '<' :: '!' :: _ => none
  | '?' :: '<' :: rest | '?' :: 'P' :: '<' :: rest =>
      (readGroupName? rest).map fun (name, rest) => (.named name, rest)
  | '?' :: rest =>
      match readOptions? mode [] rest with
      | some (mode, ':', rest) => some (.group mode, rest)
      | some (mode, _, rest) => some (.options mode, rest)
      | none => none
  | rest => some (.group mode, rest)

/-! ### Patterns -/

structure Reader where
  mode : Mode
  branches : Branches
  /-- What was read around each open group, and the mode there, the innermost first. -/
  around : List (Mode × Branches)
  /-- The names of groups so far. -/
  names : List (List Char)
  deriving DecidableEq, Repr

namespace Reader

def start : Reader where
  mode := .usual
  branches := .empty
  around := []
  names := []

/-- The reader with one more part of the current branch. -/
def add (reader : Reader) (depth : Nat) : Reader :=
  { reader with branches := reader.branches.add depth }

/-- The reader inside a further group in which a mode holds. -/
def enter (reader : Reader) (mode : Mode) : Reader :=
  { reader with
    mode
    branches := .empty
    around := (reader.mode, reader.branches) :: reader.around }

def leave? (reader : Reader) : Option Reader :=
  match reader.around with
  | [] => none
  | (mode, branches) :: around =>
      some { reader with mode, around, branches := branches.add (reader.branches.depth + 1) }

/-- Reads what a parenthesis opens. No name comes twice. -/
def readParenthesis? (reader : Reader) (text : List Char) : Option (Reader × List Char) :=
  match readOpening? reader.mode text with
  | none => none
  | some (.group mode, rest) => some (reader.enter mode, rest)
  | some (.named name, rest) =>
      if reader.names.contains name then none
      else some ({ reader.enter reader.mode with names := name :: reader.names }, rest)
  | some (.options mode, rest) =>
      some ({ reader with mode, branches := reader.branches.addOptions }, rest)

def readAtom? (reader : Reader) (atom? : Option (Atom × List Char)) :
    Option (Reader × List Char) :=
  match atom? with
  | some (atom, rest) => if atom.isAllowed reader.mode then some (reader.add 0, rest) else none
  | none => none

/-- Reads on from a character that counts. A brace would have to count repetitions up to another
one, which no value holds. -/
def readNext? (reader : Reader) (c : Char) (rest : List Char) : Option (Reader × List Char) :=
  if c = '(' then reader.readParenthesis? rest
  else if c = ')' then reader.leave?.map fun reader => (reader, rest)
  else if c = '|' then some ({ reader with branches := reader.branches.addBar }, rest)
  else if c = '[' then
    (readClass? reader.mode (rest.length + 1) rest).map fun (depth, rest) =>
      (reader.add depth, rest)
  else if c = '*' ∨ c = '+' ∨ c = '?' then
    reader.branches.repeated?.map fun branches => ({ reader with branches }, rest)
  else if c = '\x7b' then none
  else if c = '.' then if reader.mode.unicode then some (reader.add 0, rest) else none
  else if c = '^' ∨ c = '$' then some (reader.add 0, rest)
  else if c = '\\' then reader.readAtom? (Atom.readEscape? reader.mode rest)
  else reader.readAtom? (some (.literal c false, rest))

/-- The rest of a pattern is well formed. Each step takes a character, so their number bounds the
steps. -/
def accepts (reader : Reader) : Nat → List Char → Bool
  | 0, _ => false
  | steps + 1, text =>
      match reader.mode.passSpace text with
      | [] => reader.around.isEmpty && decide (reader.branches.depth ≤ depthLimit)
      | c :: rest =>
          match reader.readNext? c rest with
          | some (reader, rest) => accepts reader steps rest
          | none => false

end Reader

def isWellFormed (text : List Char) : Bool :=
  Reader.start.accepts (text.length + 1) text

end BuildBench.Logging.Pattern
