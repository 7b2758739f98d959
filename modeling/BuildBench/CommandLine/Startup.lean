import BuildBench.CommandLine.Choices
import BuildBench.Definition.Directory

set_option autoImplicit false

/-! The start of the coordinator: reading the command line, starting the log, loading the
topologies, and connecting to the server of build events. Each step that fails ends the program
with an exit code and a complaint. -/

namespace BuildBench.CommandLine

inductive Failure
  | arguments (error : Error)
  | inquiry (inquiry : Inquiry)
  | log (error : Logging.Error)
  | topologies (directory : String) (error : Definition.Error)
  | connection (reason : String)
  | group (reason : String)
  deriving DecidableEq, Repr

namespace Failure

/-- The exit code. To answer an inquiry is no failure. -/
def code : Failure → UInt8
  | .arguments _ => 2
  | .inquiry _ => 0
  | .log _ | .topologies _ _ | .connection _ | .group _ => 1

/-- What the program was about when it failed, and why that failed, the nearest cause first. -/
def circumstances? : Failure → Option (String × List String)
  | .arguments _ | .inquiry _ => none
  | .log error => some ("initializing logger", [error.message])
  | .topologies directory error =>
      some (s!"loading topologies from {directory}", error.message :: error.causes)
  | .connection reason => some ("connecting to the build-events server", [reason])
  | .group reason => some ("creating consumer group", [reason])

def complaint? (failure : Failure) : Option String :=
  match failure, failure.circumstances? with
  | .arguments error, _ => some error.complaint
  | _, some (work, causes) =>
      let lines := causes.map fun cause => s!"    {cause}\n"
      some (s!"Error: {work}\n\nCaused by:\n" ++ Text.join "" lines)
  | _, none => none

def heading? (failure : Failure) : Option String :=
  failure.complaint?.map Text.firstLine

end Failure

structure Session where
  choices : Choices
  log : Logging.Log
  files : Files.Tree
  catalog : Definition.Catalog

/-- A program that has ended before it has worked: why, what it logged, and the files then. -/
structure Ended where
  failure : Failure
  log : Option Logging.Log
  files : Files.Tree

def logTarget : String := "rbs_coordinatord"

/-- Adds a log line of the program with the fields of the given names. -/
def note (log : Logging.Log) (files : Files.Tree) (level : Logging.Verbosity) (message : String)
    (fields : List String) : Logging.Log × Files.Tree :=
  log.write { level, target := logTarget, message } fields files

/-- Says in the log where it is kept, if that is a file. -/
def noteLogFile (choices : Choices) (log : Logging.Log) (files : Files.Tree) :
    Logging.Log × Files.Tree :=
  match choices.logFile with
  | some _ => note log files .info "writing log to file" ["path"]
  | none => (log, files)

def Choices.topologiesDirectory (choices : Choices) : String :=
  Files.joinPath choices.setupsFolder "topologies"

def loadTopologies (choices : Choices) (log : Logging.Log) (files : Files.Tree) :
    Except Ended Session :=
  let directory := choices.topologiesDirectory
  match Definition.Catalog.loadDirectory files directory with
  | .error error => .error { failure := .topologies directory error, log := some log, files }
  | .ok catalog =>
      let (log, files) := note log files .info "topologies loaded" ["source", "topologies"]
      .ok { choices, log, files, catalog }

def startLog (choices : Choices) (files : Files.Tree) : Except Ended Session :=
  match choices.log.start files with
  | .error error => .error { failure := .log error, log := none, files }
  | .ok (log, files) =>
      let (log, files) := noteLogFile choices log files
      loadTopologies choices log files

/-- All that is done before the first connection. -/
def start (arguments : List String) (environment : List (String × String)) (files : Files.Tree) :
    Except Ended Session :=
  match Choices.read arguments environment with
  | .error (.error error) => .error { failure := .arguments error, log := none, files }
  | .error (.inquiry inquiry) => .error { failure := .inquiry inquiry, log := none, files }
  | .ok choices => startLog choices files

namespace Session

/-- The session with one more log line of the program. -/
def noted (session : Session) (level : Logging.Verbosity) (message : String)
    (fields : List String) : Session :=
  let (log, files) := note session.log session.files level message fields
  { session with log, files }

def ended (session : Session) (failure : Failure) : Ended where
  failure := failure
  log := some session.log
  files := session.files

/-- Connects to the server of build events. `refusal` is why the server cannot be reached. -/
def connect (session : Session) (refusal : Option String) : Except Ended Session :=
  let session := session.noted .info "connecting to build-events server" ["addr", "stream"]
  match refusal with
  | none => .ok session
  | some reason =>
      let text := "unable to connect to the build-events server"
      let session := session.noted .error text ["addr", "error"]
      .error (session.ended (.connection reason))

end Session

end BuildBench.CommandLine
