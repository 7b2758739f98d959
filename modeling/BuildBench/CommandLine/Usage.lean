import BuildBench.CommandLine.Arguments
import BuildBench.Text.Pieces

set_option autoImplicit false

/-! What the program says about itself when it is asked. -/

namespace BuildBench.CommandLine

def programName : String := "rbs-coordinatord"

def programVersion : String := "0.1.0"

/-- One line on an option: how it is written, and its environment variable. -/
def Opt.usage (option : Opt) : String :=
  match option.variableName with
  | some name => s!"      {option.shown} [env: {name}]"
  | none => s!"      {option.shown}"

def Inquiry.answer : Inquiry → String
  | .version => s!"{programName} {programVersion}"
  | .help =>
      Text.join "\n" (
        ["Consumes build events and benchmarks each build in isolated sandboxes", "",
          s!"Usage: {programName} [OPTIONS]", "", "Options:"] ++ Opt.all.map Opt.usage)

end BuildBench.CommandLine
