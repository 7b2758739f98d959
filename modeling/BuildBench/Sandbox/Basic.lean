import BuildBench.Cpu.Slice
import BuildBench.Time.Duration

set_option autoImplicit false

/-! Sandboxes: what one runs, where, and on which CPUs. A database sandbox is detached and has to be
stopped; a client sandbox runs in the foreground and is gone once it has been waited for. -/

namespace BuildBench.Sandbox

structure Mount where
  host : String
  /-- Where the directory appears inside; also the working directory there. -/
  target : String
  deriving DecidableEq, Repr

/-- The path inside the sandbox of a file in the mounted directory. -/
def Mount.pathInside (mount : Mount) (file : String) : String :=
  if mount.target.toList.getLast? = some '/' then mount.target ++ file
  else mount.target ++ "/" ++ file

structure Spec where
  image : String
  mount : Mount
  command : List String
  cpus : Option Cpu.Slice := none
  privileged : Bool := true
  hostNetwork : Bool := true
  deriving DecidableEq, Repr

/-- A launched sandbox, for its end. -/
inductive Handle
  /-- A detached container that has to be stopped. -/
  | container (id : String)
  /-- A foreground sandbox that has exited. -/
  | completed
  deriving DecidableEq, Repr

/-- What a foreground sandbox left behind. -/
structure ClientRun where
  stdout : String
  duration : Time.Duration
  deriving DecidableEq, Repr

inductive Error
  | emptyCommand
  | spawn (reason : String)
  | nonZeroExit (code : Int) (stderr : String)
  | killedBySignal
  | missingContainerId
  | io (reason : String)
  deriving DecidableEq, Repr

def Error.message : Error → String
  | .emptyCommand => "empty sandbox command"
  | .spawn reason => s!"spawn failed: {reason}"
  | .nonZeroExit code stderr => s!"non-zero exit code: {code}: {stderr}"
  | .killedBySignal => "killed by signal"
  | .missingContainerId => "runtime returned no container id"
  | .io reason => s!"io error: {reason}"

end BuildBench.Sandbox
