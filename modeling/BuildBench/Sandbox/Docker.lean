import BuildBench.Entry.Fields
import BuildBench.Sandbox.Basic
import BuildBench.Text.Blank
import BuildBench.Text.Pieces

set_option autoImplicit false

/-! Sandboxes as containers of a `docker` command line: the arguments of its commands, and what
their ends mean. -/

namespace BuildBench.Sandbox.Docker

open BuildBench.Text

def runOptions (spec : Spec) (detach : Bool) : List String :=
  ["run", "--rm"] ++ (if detach then ["--detach"] else []) ++
    (if spec.privileged then ["--privileged"] else []) ++
    (if spec.hostNetwork then ["--network=host"] else []) ++
    ["--volume=" ++ spec.mount.host ++ ":" ++ spec.mount.target ++ ":rw",
      "--workdir=" ++ spec.mount.target] ++
    match spec.cpus with
    | some slice => ["--cpuset-cpus=" ++ slice.cpuset]
    | none => []

def runArguments (spec : Spec) (detach : Bool) : Except Error (List String) :=
  if spec.command.isEmpty then .error .emptyCommand
  else .ok (runOptions spec detach ++ spec.image :: spec.command)

/-- How a program ended. -/
inductive Exit
  | code (value : Int)
  | signal
  deriving DecidableEq, Repr

/-- A program that ran to its end. -/
structure Finished where
  exit : Exit
  stdout : Bytes
  stderr : Bytes
  deriving DecidableEq, Repr

/-- The command line client: it is given arguments and either runs to its end or cannot be
started, for the reason that the system gives. `π` is the state of what it works on. -/
abbrev Program (π : Type) := List String → StateM π (Except String Finished)

variable {π : Type}

/-- An argument has fewer bytes than this. -/
def argumentBound : Nat := 131072

/-- The system hands arguments on only up to a length, and none that holds the character that ends
arguments. -/
def spawn (program : Program π) (arguments : List String) :
    StateM π (Except String Finished) :=
  if arguments.any fun argument => argument.toList.contains (Char.ofNat 0) then
    return .error "nul byte found in provided data"
  else if arguments.any fun argument => decide (argumentBound ≤ argument.utf8ByteSize) then
    return .error "Argument list too long (os error 7)"
  else program arguments

/-- The text of some output. What is not UTF-8 is replaced. -/
def outputText (output : Bytes) : String :=
  String.ofList (Utf8.decodeLossy output)

/-- The standard output of the client. Only the exit code zero is a success. -/
def outputOf : Except String Finished → Except Error Bytes
  | .error reason => .error (.spawn reason)
  | .ok finished =>
      match finished.exit with
      | .code code =>
          if code = 0 then .ok finished.stdout
          else .error (.nonZeroExit code (trim (outputText finished.stderr)))
      | .signal => .error .killedBySignal

def capture (program : Program π) (arguments : List String) : StateM π (Except Error Bytes) := do
  return outputOf (← spawn program arguments)

def runSandbox (program : Program π) (spec : Spec) (detach : Bool) :
    StateM π (Except Error Bytes) := do
  match runArguments spec detach with
  | .error error => return .error error
  | .ok arguments => capture program arguments

/-- The handle of a detached sandbox. The client prints the id of the container. -/
def handleOf (stdout : Bytes) : Except Error Handle :=
  let id := trim (outputText stdout)
  if id.isEmpty then .error .missingContainerId else .ok (.container id)

def launchDatabase (program : Program π) (spec : Spec) : StateM π (Except Error Handle) := do
  return (← runSandbox program spec true).bind handleOf

/-- Runs a client sandbox to its end and takes its output. -/
def launchClient (program : Program π) (spec : Spec) : StateM π (Except Error String) := do
  return (← runSandbox program spec false).map outputText

/-- The client says that the container has vanished, as containers do that are removed when they
exit. -/
def saysGone (stderr : String) : Bool :=
  let text := (lowerAscii stderr).toList
  occursIn "no such container".toList text || occursIn "is not running".toList text

/-- What the end of a stop means. A container that is already gone counts as stopped. -/
def stopped : Except Error Bytes → Except Error Unit
  | .ok _ => .ok ()
  | .error (.nonZeroExit code stderr) =>
      if saysGone stderr then .ok () else .error (.nonZeroExit code stderr)
  | .error error => .error error

/-- Stops a sandbox. One that has exited needs no stop. -/
def stop (program : Program π) (handle : Handle) : StateM π (Except Error Unit) := do
  match handle with
  | .completed => return .ok ()
  | .container id => return stopped (← capture program ["stop", id])

end BuildBench.Sandbox.Docker
