import BuildBench.Logging.Error
import BuildBench.Text.Blank

set_option autoImplicit false

/-! The forms that log lines can have. -/

namespace BuildBench.Logging

inductive Format
  | text
  | json
  | journal
  deriving DecidableEq, Repr

namespace Format

def journalNames : List String :=
  ["journald", "journal"]

/-- Reads the name of a form in any letter case. The journal has a name, but no one writes to
it. -/
def read (name : String) : Except Error Format :=
  let plain := Text.lowerAscii (Text.trim name)
  if plain = "text" then .ok .text
  else if plain = "json" then .ok .json
  else if journalNames.contains plain then .error .journalUnsupported
  else .error (.invalidFormat name)

end Format

end BuildBench.Logging
