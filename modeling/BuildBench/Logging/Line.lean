import BuildBench.Json.Writer
import BuildBench.Logging.Filter
import BuildBench.Logging.Format

set_option autoImplicit false

/-! The lines of a log and their texts. -/

namespace BuildBench.Logging

structure Line where
  level : Verbosity
  target : String
  message : String
  deriving DecidableEq, Repr

namespace Line

def document (line : Line) (showsTarget : Bool) : Json.Value :=
  let target := if showsTarget then [("target", .text line.target)] else []
  .ofMembers (("level", .text line.level.name) ::
    ("fields", .ofMembers [("message", .text line.message)]) :: target)

/-- The line as a text of one line, without what ends it. -/
def text (line : Line) (format : Format) (showsTarget : Bool) : String :=
  match format with
  | .json => (line.document showsTarget).compact
  | .text | .journal =>
      let target := if showsTarget then s!"{line.target}: " else ""
      s!"{line.level.name} {target}{line.message}"

end Line

end BuildBench.Logging
