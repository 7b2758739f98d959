set_option autoImplicit false

/-! Why a log cannot be kept. -/

namespace BuildBench.Logging

inductive Error
  | invalidFormat (text : String)
  | journalUnsupported
  | alreadyStarted
  | startFailed (reason : String)
  | invalidFilter (text : String)
  | unwritable (path reason : String)
  deriving DecidableEq, Repr

def Error.message : Error → String
  | .invalidFormat text => s!"Invalid logger format: {text} (expected: text|json|journald)"
  | .journalUnsupported => "Journald is not supported on this platform or feature disabled"
  | .alreadyStarted => "Logger has been already initialized"
  | .startFailed reason => s!"Failed to initialize logger: {reason}"
  | .invalidFilter text => s!"Invalid log level: {text}"
  | .unwritable path reason => s!"Failed to open log file {path}: {reason}"

end BuildBench.Logging
