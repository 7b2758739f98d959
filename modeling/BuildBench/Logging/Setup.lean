import BuildBench.Files.Tree
import BuildBench.Logging.Filter
import BuildBench.Logging.Line
import BuildBench.Text.Pieces

set_option autoImplicit false

/-! Setting up a log: its form, what it lets through, and where its lines go. -/

namespace BuildBench.Logging

open BuildBench.Files

structure Setup where
  format : Format
  filter : String
  /-- Lines show their targets. -/
  showsTargets : Bool
  colour : Bool
  /-- The path of the file that lines are added to, if they do not go to standard output. -/
  file : Option String
  deriving DecidableEq, Repr

def Setup.usual : Setup where
  format := .text
  filter := "info"
  showsTargets := true
  colour := false
  file := none

structure Log where
  setup : Setup
  filter : Filter
  /-- The lines that went to standard output, the oldest first. -/
  printed : List Line
  deriving DecidableEq, Repr

namespace Setup

/-- Adds to the file of a log, which is made if it is not there. -/
def addToFile (tree : Tree) (path : String) (text : String) : Except IoError Tree :=
  tree.appendFile path Tree.plainMode (Text.Utf8.encodeString text)

def openFile (setup : Setup) (tree : Tree) : Except Error Tree :=
  match setup.file with
  | none => .ok tree
  | some path =>
      match addToFile tree path "" with
      | .ok tree => .ok tree
      | .error cause => .error (.unwritable path cause.message)

/-- Starts a log. The filter is read first, then the file is opened. -/
def start (setup : Setup) (tree : Tree) : Except Error (Log × Tree) :=
  match Filter.read? setup.filter with
  | none => .error (.invalidFilter setup.filter)
  | some filter =>
      match setup.format with
      | .journal => .error .journalUnsupported
      | .text | .json =>
          (setup.openFile tree).map fun tree => ({ setup, filter, printed := [] }, tree)

/-- Starts a log where one is being kept already. What was done before that is noticed stays
done. -/
def startAgain (setup : Setup) (tree : Tree) : Error × Tree :=
  match setup.start tree with
  | .error error => (error, tree)
  | .ok (_, tree) => (.alreadyStarted, tree)

end Setup

namespace Log

/-- The text of a line in the form of the log. -/
def lineText (log : Log) (line : Line) : String :=
  line.text log.setup.format log.setup.showsTargets ++ "\n"

/-- Adds a line, if the filter lets it through. `fields` names what the line tells beside its
message. A file that refuses the line does without it. -/
def write (log : Log) (line : Line) (fields : List String) (tree : Tree) : Log × Tree :=
  if log.filter.admits line.level line.target fields then
    match log.setup.file with
    | none => ({ log with printed := log.printed ++ [line] }, tree)
    | some path => (log, (Setup.addToFile tree path (log.lineText line)).toOption.getD tree)
  else (log, tree)

/-- The text of all lines that went to standard output. -/
def output (log : Log) : String :=
  Text.join "" (log.printed.map log.lineText)

end Log

end BuildBench.Logging
