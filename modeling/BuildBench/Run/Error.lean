import BuildBench.Cpu.Allocation
import BuildBench.Files.IoError
import BuildBench.Sandbox.Basic
import BuildBench.Text.Quoted
import BuildBench.Tool.Error

set_option autoImplicit false

/-! Why a run fails. An error has a message of its own, and the messages of what is behind it. -/

namespace BuildBench.Run

/-- Why a database is not ready, or not told to shut down. -/
inductive ProbeError
  | notReady (address : String) (attempts : Nat) (lastError : String)
  | shutdownRefused (reason : String)
  deriving DecidableEq, Repr

def ProbeError.message : ProbeError → String
  | .notReady address attempts lastError =>
      s!"database at {address} not ready after {attempts} attempts: {lastError}"
  | .shutdownRefused reason => s!"database shutdown request failed: {reason}"

/-- Why artifacts cannot be put in place. -/
inductive ArtifactError
  | missing (artifact : String)
  | invalidName (artifact : String)
  | unwritable (path : String) (cause : Files.IoError)
  deriving DecidableEq, Repr

namespace ArtifactError

def message : ArtifactError → String
  | .missing artifact => s!"artifact {Text.quoted artifact} declared but not delivered"
  | .invalidName artifact => s!"invalid artifact name {Text.quoted artifact}"
  | .unwritable path cause => s!"failed to write artifact {path}: {cause.message}"

def causes : ArtifactError → List String
  | .unwritable _ cause => [cause.message]
  | _ => []

end ArtifactError

/-- Why results cannot be read back. -/
inductive ResultsError
  | unreadable (path : String) (cause : Files.IoError)
  | malformed (path reason : String)
  deriving DecidableEq, Repr

namespace ResultsError

def message : ResultsError → String
  | .unreadable path cause => s!"failed to read results {path}: {cause.message}"
  | .malformed path reason => s!"results {path} are not valid JSON: {reason}"

def causes : ResultsError → List String
  | .unreadable _ cause => [cause.message]
  | .malformed _ reason => [reason]

end ResultsError

/-- The two sandboxes of a run. -/
inductive Role
  | database
  | client
  deriving DecidableEq, Repr

def Role.name : Role → String
  | .database => "database"
  | .client => "client"

inductive Error
  | unknownTopology (topology : String)
  | cpu (error : Cpu.Error)
  | directory (cause : Files.IoError)
  | artifact (error : ArtifactError)
  | missingServer (name : String)
  | sandbox (role : Role) (error : Sandbox.Error)
  | probe (error : ProbeError)
  | unsupportedTool (name : String)
  | tool (error : Tool.Error)
  | results (error : ResultsError)
  deriving DecidableEq, Repr

namespace Error

def message : Error → String
  | .unknownTopology topology => s!"topology {Text.quoted topology} is not in the catalog"
  | .cpu error => error.message
  | .directory cause => s!"failed to create run directory: {cause.message}"
  | .artifact error => error.message
  | .missingServer name => s!"no server binary {Text.quoted name} among the build artifacts"
  | .sandbox role error => s!"{role.name} sandbox failed: {error.message}"
  | .probe error => error.message
  | .unsupportedTool name => s!"unsupported benchmark tool {Text.quoted name}"
  | .tool error => error.message
  | .results error => error.message

def causes : Error → List String
  | .directory cause => [cause.message]
  | .artifact error => error.causes
  | .sandbox _ error => [error.message]
  | .results error => error.causes
  | _ => []

/-- The message and the wordings behind it, with colons between them. -/
def chain (error : Error) : String :=
  Text.join ": " (error.message :: error.causes)

end Error

end BuildBench.Run
