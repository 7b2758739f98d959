import BuildBench.Entry.Fields
import BuildBench.Json.Writer
import BuildBench.Number.Decimal
import BuildBench.Text.Utf8
import BuildBench.Tool.Basic

set_option autoImplicit false

/-! Benchmark output in rows of quoted cells, as a JSON document. Lines that do not start with a
quote are no rows. A row whose first cell is `test` names the columns of the rows below it; each
other row holds the values of one test. -/

namespace BuildBench.Tool

open BuildBench.Text

/-- A cell without the blanks and then the quotes around it. -/
def cellText (cell : List Char) : List Char :=
  dropAround (· = '\x22') (trimChars cell)

/-- The cells of a line, if it is a row. -/
def rowCells? (line : List Char) : Option (List String) :=
  match trimChars line with
  | [] => none
  | c :: rest =>
      if c = '\x22' then
        some ((pieces ',' (c :: rest)).map fun cell => String.ofList (cellText cell))
      else none

def rows (stdout : String) : List (List String) :=
  (pieces '\n' stdout.toList).filterMap rowCells?

/-- The value of a cell: a number if its text is a finite one, else the text. -/
def readCell (cell : String) : Json.Value :=
  match Number.Decimal.read cell.toList with
  | some value => if value.isFinite then .double value else .text cell
  | none => .text cell

/-- The columns below the title and the values beside it, paired up to the shorter of the two. -/
def rowValue (header values : List String) : Json.Value :=
  .ofMembers (((header.drop 1).zip values).map fun (column, cell) => (column, readCell cell))

/-- The columns in force and the tests read so far. -/
structure CsvReport where
  header : List String
  tests : List (String × Json.Value)
  deriving Repr

namespace CsvReport

/-- Releases that print no header have a title and a rate in each row. -/
def start : CsvReport where
  header := ["test", "rps"]
  tests := []

/-- The report with one more row. A later row of a test replaces an earlier one. -/
def addRow (report : CsvReport) : List String → CsvReport
  | [] => report
  | title :: values =>
      if title = "test" then { report with header := title :: values }
      else
        { report with
          tests := Json.insertMember title (rowValue report.header values) report.tests }

def ofOutput (stdout : String) : CsvReport :=
  (rows stdout).foldl addRow start

end CsvReport

/-- The document of an output that has at least one test. -/
def csvDocument (stdout : String) : Except Error Json.Value :=
  match (CsvReport.ofOutput stdout).tests with
  | [] => .error .emptyOutput
  | tests => .ok (.object [("Tests", .object tests)])

/-- What a tool leaves to be put into its result file from its output: nothing, if it wrote the
file itself. -/
def resultFile (tool : Tool) (stdout : String) : Except Error (Option Bytes) :=
  match tool with
  | .memtierBenchmark => .ok none
  | .redisBenchmark => do
      let document ← csvDocument stdout
      return some (Utf8.encodeString document.spread)

end BuildBench.Tool
