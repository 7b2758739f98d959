import BuildBench.Definition.Error
import BuildBench.Definition.Resources

set_option autoImplicit false

/-! Benchmark suites: which topologies to run on, how the database is configured, and which client
measures it. -/

namespace BuildBench.Definition

open BuildBench.Yaml

structure Client where
  tool : String
  /-- Image of the client sandbox, if it is not the tool's own. -/
  runImage : Option String
  /-- Program inside the image, if it is not the tool's own. -/
  binary : Option String
  /-- More arguments of the tool, quoted as on a command line. -/
  arguments : String
  resources : Option Resources
  deriving DecidableEq, Repr

/-- The tool of a suite that names none. -/
def Client.usualTool : String := "redis-benchmark"

/-- The client of a suite that describes none. -/
def Client.default : Client where
  tool := usualTool
  runImage := none
  binary := none
  arguments := ""
  resources := none

structure Suite where
  name : String
  description : Option String
  /-- Names of the topologies to run on, in order. -/
  topologies : List String
  /-- Names and values of database parameters, in order. -/
  parameters : List (String × String)
  client : Client
  source : String
  deriving DecidableEq, Repr

def Client.read (node : Node) : Reading Client := do
  let fields ← Reading.fields node
  let tool ← Reading.fieldD fields "tool" Reading.text usualTool
  let runImage ← Reading.optionalField? fields "run_image" Reading.text
  let binary ← Reading.optionalField? fields "binary" Reading.text
  let arguments ← Reading.fieldD fields "arguments" Reading.text ""
  let resources ← Reading.optionalField? fields "resources" Resources.read
  return { tool, runImage, binary, arguments, resources }

namespace Suite

/-- Collections of a document may lie so many levels inside each other. -/
def depthLimit : Nat := 128

/-- Parameters lie three levels inside their document. -/
def parameterDepth : Nat := depthLimit - 3

def readConfiguration (node : Node) : Reading (List (Value × Value)) := do
  let fields ← Reading.fields node
  Reading.fieldD fields "configuration-parameters" (Reading.entries parameterDepth) []

/-- A suite as its document has it, before the texts of its parameters are formed. -/
structure Draft where
  suite : Suite
  configuration : List (Value × Value)

def readDraft (source : String) (node : Node) : Reading Draft := do
  let fields ← Reading.fields node
  let name ← Reading.field fields "name" Reading.text
  let description ← Reading.optionalField? fields "description" Reading.text
  let topologies ← Reading.fieldD fields "redis-topologies" (Reading.list Reading.text) []
  let configuration ← Reading.optionalField? fields "dbconfig" readConfiguration
  let client ← Reading.optionalField? fields "clientconfig" Client.read
  return {
    suite := {
      name, description, topologies, parameters := []
      client := client.getD .default
      source }
    configuration := configuration.getD [] }

def parameterText (entry : Value × Value) : Except ParameterDefect (String × String) :=
  match entry.1.scalarText? with
  | none => .error (.name entry.1.shown)
  | some name =>
      match entry.2.scalarText? with
      | none => .error (.value name)
      | some value => .ok (name, value)

/-- The parameters in order. The first one that has no text decides the defect. -/
def parameterTexts : List (Value × Value) → Except ParameterDefect (List (String × String))
  | [] => .ok []
  | entry :: rest =>
      match parameterText entry with
      | .error defect => .error defect
      | .ok parameter => (parameterTexts rest).map (parameter :: ·)

def ofDraft (draft : Draft) : Except Error Suite :=
  match parameterTexts draft.configuration with
  | .error defect => .error (.invalidParameters defect)
  | .ok parameters => .ok { draft.suite with parameters }

def ofText (source text : String) : Except Error Suite :=
  match Reading.run (readDraft source) text with
  | none => .error (.malformed source formDefect)
  | some draft => ofDraft draft

end Suite

end BuildBench.Definition
