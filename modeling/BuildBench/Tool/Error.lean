import BuildBench.Tool.Words

set_option autoImplicit false

/-! How benchmark tools fail. -/

namespace BuildBench.Tool

/-- Why a tool cannot be run or its output cannot be used. -/
inductive Error
  | invalidArguments (reason : String)
  | emptyOutput
  | writeResults (path reason : String)
  deriving DecidableEq, Repr

def Error.message : Error → String
  | .invalidArguments reason => s!"invalid tool arguments: {reason}"
  | .emptyOutput => "benchmark produced no parsable results"
  | .writeResults path reason => s!"failed to write results to {path}: {reason}"

def LineDefect.reason (line : String) : LineDefect → String
  | .unterminatedQuote => s!"unterminated quote in {Text.quoted line}"
  | .danglingEscape => s!"dangling escape in {Text.quoted line}"

def splitArguments (line : String) : Except Error (List String) :=
  match words line.toList with
  | .ok words => .ok (words.map String.ofList)
  | .error defect => .error (.invalidArguments (defect.reason line))

end BuildBench.Tool
