import BuildBench.Files.IoError

set_option autoImplicit false

/-! Why definition files cannot be used. -/

namespace BuildBench.Definition

/-- A parameter of the database whose name or value is no scalar. -/
inductive ParameterDefect
  | name (shown : String)
  | value (parameter : String)
  deriving DecidableEq, Repr

def ParameterDefect.reason : ParameterDefect → String
  | .name shown => s!"non-scalar parameter name {shown}"
  | .value parameter => s!"non-scalar value for {parameter}"

/-- Why a definition file, or a directory of them, cannot be used. -/
inductive Error
  | unreadable (path : String) (cause : Files.IoError)
  | malformed (path reason : String)
  | invalidParameters (defect : ParameterDefect)
  | noDefinitions (directory : String)
  deriving DecidableEq, Repr

namespace Error

def message : Error → String
  | .unreadable path cause => s!"failed to read {path}: {cause.message}"
  | .malformed path reason => s!"failed to parse {path}: {reason}"
  | .invalidParameters defect =>
      s!"invalid field dbconfig.configuration-parameters: {defect.reason}"
  | .noDefinitions directory => s!"no definition files found in {directory}"

/-- The wordings of the errors behind an error, the nearest first. -/
def causes : Error → List String
  | .unreadable _ cause => [cause.message]
  | .malformed _ reason => [reason]
  | .invalidParameters _ => []
  | .noDefinitions _ => []

end Error

def formDefect : String :=
  "not a document of the expected form"

end BuildBench.Definition
