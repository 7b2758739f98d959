import BuildBench.Entry.Fields
import BuildBench.Entry.Id

set_option autoImplicit false

/-! A completed build that was announced on the stream: its commit, the images to run it in, and
the artifacts delivered with it. Four fields of an entry describe the build; each other field is
the payload of an artifact. -/

namespace BuildBench.Entry

open BuildBench.Text

/-- The fields that describe a build, in the order in which they are read. -/
inductive Metadata
  | gitHash
  | buildImage
  | runImage
  | buildArtifacts
  deriving DecidableEq, Repr

def Metadata.name : Metadata → String
  | .gitHash => "git_hash"
  | .buildImage => "build_image"
  | .runImage => "run_image"
  | .buildArtifacts => "build_artifacts"

def Metadata.names : List String :=
  [gitHash.name, buildImage.name, runImage.name, buildArtifacts.name]

/-- Why an entry describes no build. -/
inductive DecodeError
  | missingField (field : Metadata)
  | invalidField (field : Metadata) (defect : Utf8.Defect)
  deriving DecidableEq, Repr

def DecodeError.message : DecodeError → String
  | .missingField field => s!"missing required field: {field.name}"
  | .invalidField field defect => s!"invalid field {field.name}: {defect.message}"

structure Build where
  id : Id
  gitHash : String
  buildImage : String
  /-- Image that the database runs in: the build image unless the entry names another. -/
  runImage : String
  /-- Names of the declared artifacts, in delivery order. -/
  artifacts : List String
  payloads : Fields
  deriving DecidableEq, Repr

namespace Build

/-- The artifact of an entry that declares none. -/
def defaultArtifact : String := "redis-server"

/-- The trimmed text of a describing field, if the entry has it. -/
def readText (fields : Fields) (field : Metadata) : Except DecodeError (Option String) :=
  match fields.get? field.name with
  | none => .ok none
  | some bytes =>
      match Utf8.decode bytes with
      | .ok text => .ok (some (String.ofList (trimChars text)))
      | .error defect => .error (.invalidField field defect)

/-- The trimmed text of a describing field that every entry must have. -/
def readRequired (fields : Fields) (field : Metadata) : Except DecodeError String :=
  match readText fields field with
  | .ok (some text) => .ok text
  | .ok none => .error (.missingField field)
  | .error error => .error error

/-- The names in a list with commas, without blanks around them. Blank names do not count. -/
def artifactNames (text : List Char) : List String :=
  (((pieces ',' text).map trimChars).filter (!·.isEmpty)).map String.ofList

/-- The run image that an entry names, or else its build image. -/
def chooseRunImage (buildImage : String) : Option String → String
  | some image => if image.isEmpty then buildImage else image
  | none => buildImage

/-- The artifacts that an entry declares, or else the default one. -/
def chooseArtifacts : Option String → List String
  | some text =>
      match artifactNames text.toList with
      | [] => [defaultArtifact]
      | names => names
  | none => [defaultArtifact]

/-- Reads the fields of an entry. Whether each declared artifact has a payload is not asked here:
that fails a single run, not the entry. -/
def decode (id : Id) (fields : Fields) : Except DecodeError Build := do
  let gitHash ← readRequired fields .gitHash
  let buildImage ← readRequired fields .buildImage
  let runImage ← readText fields .runImage
  let artifacts ← readText fields .buildArtifacts
  return {
    id
    gitHash
    buildImage
    runImage := chooseRunImage buildImage runImage
    artifacts := chooseArtifacts artifacts
    payloads := fields.without Metadata.names }

def payload? (build : Build) (name : String) : Option Bytes :=
  build.payloads.get? name

/-- The build with one more payload. -/
def addPayload (build : Build) (name : String) (data : Bytes) : Build :=
  { build with payloads := build.payloads.insert name data }

def addPayloads (build : Build) (payloads : List (String × Bytes)) : Build :=
  payloads.foldl (fun build (name, data) => build.addPayload name data) build

end Build

end BuildBench.Entry
