import BuildBench.Text.Blank
import BuildBench.Text.Pieces
import BuildBench.Text.Quoted

set_option autoImplicit false

/-! Argument lists as one line of text. Single quotes keep everything, double quotes keep blanks and
single quotes, and a backslash outside single quotes keeps the next character. -/

namespace BuildBench.Tool

open BuildBench.Text

/-- Where a reader of a line stands: between or inside plain words, inside quotes, or right after a
backslash in either. -/
inductive Mode
  | bare
  | single
  | double
  | escaped
  | doubleEscaped
  deriving DecidableEq, Repr

/-- Why a line is no argument list. -/
inductive LineDefect
  | unterminatedQuote
  | danglingEscape
  deriving DecidableEq, Repr

def Mode.next (mode : Mode) (c : Char) : Mode :=
  match mode with
  | .bare => if c = '\x27' then .single else if c = '\x22' then .double
      else if c = '\\' then .escaped else .bare
  | .single => if c = '\x27' then .bare else .single
  | .double => if c = '\x22' then .bare else if c = '\\' then .doubleEscaped else .double
  | .escaped => .bare
  | .doubleEscaped => .double

/-- A word that is being read, with one more character. -/
def extend (word : Option (List Char)) (c : Char) : Option (List Char) :=
  some (word.getD [] ++ [c])

/-- A word that is being read after a character that only opens or closes quotes. -/
def touch (word : Option (List Char)) : Option (List Char) :=
  some (word.getD [])

/-- The word after a character that does not end it. -/
def Mode.extendWord (mode : Mode) (word : Option (List Char)) (c : Char) : Option (List Char) :=
  match mode with
  | .bare => if c = '\x27' ∨ c = '\x22' ∨ c = '\\' then touch word else extend word c
  | .single => if c = '\x27' then touch word else extend word c
  | .double => if c = '\x22' ∨ c = '\\' then touch word else extend word c
  | .escaped => extend word c
  | .doubleEscaped => extend word c

/-- Only a blank outside quotes, and not after a backslash, stands between words. -/
def Mode.separates (mode : Mode) (c : Char) : Bool :=
  mode == .bare && isBlank c

/-- The words from a place in the line on, `word` being the one that is being read there. -/
def wordsFrom (mode : Mode) (word : Option (List Char)) :
    List Char → Except LineDefect (List (List Char))
  | [] =>
      match mode with
      | .bare => .ok word.toList
      | .single => .error .unterminatedQuote
      | .double => .error .unterminatedQuote
      | .escaped => .error .danglingEscape
      | .doubleEscaped => .error .danglingEscape
  | c :: rest =>
      if mode.separates c then
        match wordsFrom .bare none rest with
        | .ok words => .ok (word.toList ++ words)
        | .error defect => .error defect
      else wordsFrom (mode.next c) (mode.extendWord word c) rest

def words (line : List Char) : Except LineDefect (List (List Char)) :=
  wordsFrom .bare none line

/-- Letters, digits and a few marks stand for themselves in a line. -/
def isPlainChar (c : Char) : Bool :=
  c.isAlphanum || ['-', '_', '.', '/', ':', '=', ',', '+', '@', '%'].contains c

/-- A character inside single quotes. A quote has to leave them. -/
def insideQuotes (c : Char) : List Char :=
  if c = '\x27' then ['\x27', '\\', '\x27', '\x27'] else [c]

/-- One argument in a line. It is quoted unless all of it is plain. -/
def quoteArgument (argument : List Char) : List Char :=
  if !argument.isEmpty && argument.all isPlainChar then argument
  else '\x27' :: argument.flatMap insideQuotes ++ ['\x27']

structure Invocation where
  arguments : List String
  deriving DecidableEq, Repr

def Invocation.line (invocation : Invocation) : String :=
  join " " (invocation.arguments.map fun argument => String.ofList (quoteArgument argument.toList))

end BuildBench.Tool
