set_option autoImplicit false

/-! The command line of a standalone database server. -/

namespace BuildBench.Sandbox

/-- Parameters that the command line itself sets. A suite cannot set them. -/
def fixedParameters : List String :=
  ["port", "protected-mode", "dir"]

def parameterArguments (parameter : String × String) : List String :=
  ["--" ++ parameter.1, parameter.2]

/-- The server runs without protected mode, since clients come over the host network, at a fixed
port and in a fixed directory. The suite's own parameters follow in their order. -/
def serverArguments (binary : String) (port : Nat) (directory : String)
    (parameters : List (String × String)) : List String :=
  [binary, "--protected-mode", "no", "--port", toString port, "--dir", directory] ++
    (parameters.filter fun parameter => !fixedParameters.contains parameter.1).flatMap
      parameterArguments

end BuildBench.Sandbox
