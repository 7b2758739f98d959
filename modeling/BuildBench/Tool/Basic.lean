import BuildBench.Tool.Error

set_option autoImplicit false

/-! The benchmark tools that a client sandbox can run: their names, where they live, and their
command lines. -/

namespace BuildBench

inductive Tool
  | redisBenchmark
  | memtierBenchmark
  deriving DecidableEq, Repr

namespace Tool

def name : Tool → String
  | .redisBenchmark => "redis-benchmark"
  | .memtierBenchmark => "memtier_benchmark"

/-- The tool's program in its usual image. -/
def usualProgram : Tool → String
  | .redisBenchmark => "/usr/local/bin/redis-benchmark"
  | .memtierBenchmark => "/usr/local/bin/memtier_benchmark"

def usualImage : Tool → String
  | .redisBenchmark => "redis:6.2.4"
  | .memtierBenchmark => "redislabs/memtier_benchmark:edge"

/-- The tool that a suite names, blanks around the name aside. -/
def ofName? (text : String) : Option Tool :=
  let name := Text.trim text
  if name = "redis-benchmark" then some .redisBenchmark
  else if name = "memtier_benchmark" ∨ name = "memtier-benchmark" then some .memtierBenchmark
  else none

/-- Arguments that point a tool at the database and say how it reports. -/
def fixedArguments (tool : Tool) (host : String) (port : Nat) (outputFile : String) :
    List String :=
  match tool with
  | .redisBenchmark => ["-h", host, "-p", toString port, "--csv"]
  | .memtierBenchmark =>
      ["--server", host, "--port", toString port, "--json-out-file=" ++ outputFile,
        "--hide-histogram"]

/-- The command of a client: the program, the fixed arguments, and those of the suite. -/
def prepare (tool : Tool) (arguments binary host : String) (port : Nat) (outputFile : String) :
    Except Error Invocation := do
  let extra ← splitArguments arguments
  return { arguments := binary :: tool.fixedArguments host port outputFile ++ extra }

end Tool

end BuildBench
