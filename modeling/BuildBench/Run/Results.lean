import BuildBench.Entry.Fields
import BuildBench.Json.Reader
import BuildBench.Run.Error
import BuildBench.Text.Pieces
import BuildBench.Time.Civil
import BuildBench.Tool.CsvReport

set_option autoImplicit false

/-! The result file of a run: its name, how it is written, and the document in it. -/

namespace BuildBench.Run

def withoutSeparators (name : String) : String :=
  String.ofList (name.toList.map fun c => if c = '/' ∨ c = '\\' then '_' else c)

/-- Start of the run, commit, suite and kind of deployment, with hyphens between them. -/
def resultsName (started : Time.Moment) (gitHash suite deployment : String) : String :=
  let stamp := (Time.Civil.ofMoment started).stamp
  s!"{stamp}-{gitHash}-{withoutSeparators suite}-{deployment}.json"

/-- Puts the results in the output of a tool into a file, if the tool did not write it itself.
`write` writes a file at a path. -/
def storeResults {ω : Type} (write : String → Bytes → StateM ω (Except Files.IoError Unit))
    (tool : Tool) (path stdout : String) : StateM ω (Except Tool.Error Unit) := do
  match tool.resultFile stdout with
  | .error error => return .error error
  | .ok none => return .ok ()
  | .ok (some data) =>
      match ← write path data with
      | .ok () => return .ok ()
      | .error cause => return .error (.writeResults path cause.message)

/-- What malformed results fail to be. -/
def documentDefect : String :=
  "not a JSON document"

def documentOf (path : String) (content : Except Files.IoError Bytes) :
    Except ResultsError Json.Value :=
  match content with
  | .error cause => .error (.unreadable path cause)
  | .ok data =>
      match Json.readBytes data with
      | some document => .ok document
      | none => .error (.malformed path documentDefect)

end BuildBench.Run
