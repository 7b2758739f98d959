import BuildBench.Entry.Cursor
import BuildBench.Logging.Format
import BuildBench.Number.Decimal

set_option autoImplicit false

/-! The options of the command line: their names, what their values have to be, and where else
values may come from. -/

namespace BuildBench.CommandLine

inductive ValueKind
  | text
  | path
  /-- A whole number that fits a word of 64 bits. -/
  | whole
  /-- A whole number up to the given one. -/
  | upTo (top : Nat)
  | format
  | cursor
  deriving DecidableEq, Repr

structure Opt where
  /-- The name behind the two hyphens. -/
  name : String
  /-- The name of the value in messages. An option without it takes no value. -/
  value : Option String
  kind : ValueKind
  /-- The environment variable that stands in for an absent option. -/
  variableName : Option String
  deriving DecidableEq, Repr

inductive Refusal
  | missing
  | because (reason : String)
  deriving DecidableEq, Repr

namespace ValueKind

/-- A whole number with a sign in a word of 64 bits. -/
def readSigned (text : List Char) : Except Number.WholeDefect Int :=
  match text with
  | '-' :: rest =>
      match rest with
      | [] => .error .digit
      | '+' :: _ => .error .digit
      | _ =>
          match Number.readWhole (Number.wordBound 63 + 1) rest with
          | .ok magnitude => .ok (-magnitude)
          | .error .tooLarge => .error .tooSmall
          | .error defect => .error defect
  | _ => (Number.readWhole (Number.wordBound 63) text).map Int.ofNat

def readUpTo (top : Nat) (text : List Char) : Except Refusal Nat :=
  match readSigned text with
  | .error defect => .error (.because defect.message)
  | .ok value =>
      if 0 ≤ value ∧ value ≤ top then .ok value.toNat
      else .error (.because s!"{value} is not in 0..={top}")

def readWhole (text : List Char) : Except Refusal Nat :=
  match Number.readWhole (Number.wordBound 64) text with
  | .ok value => .ok value
  | .error defect => .error (.because defect.message)

def readFormat (text : String) : Except Refusal Logging.Format :=
  match Logging.Format.read text with
  | .ok read => .ok read
  | .error error => .error (.because error.message)

def readCursor (text : String) : Except Refusal Entry.Cursor :=
  match Entry.Cursor.read text with
  | .ok read => .ok read
  | .error error => .error (.because error.message)

def readPath (text : String) : Except Refusal String :=
  if text.isEmpty then .error .missing else .ok text

/-- Refuses a text that is no value of the kind. -/
def check (kind : ValueKind) (text : String) : Except Refusal Unit :=
  match kind with
  | .text => .ok ()
  | .path => (readPath text).map fun _ => ()
  | .whole => (readWhole text.toList).map fun _ => ()
  | .upTo top => (readUpTo top text.toList).map fun _ => ()
  | .format => (readFormat text).map fun _ => ()
  | .cursor => (readCursor text).map fun _ => ()

end ValueKind

namespace Opt

def shown (option : Opt) : String :=
  match option.value with
  | some value => s!"--{option.name} <{value}>"
  | none => s!"--{option.name}"

/-- An option with a value. Its name in messages is that of the option in capitals. -/
def withValue (name : String) (kind : ValueKind) (variableName : Option String) : Opt where
  name := name
  value := some (String.ofList (name.toList.map fun c => if c = '-' then '_' else c.toUpper))
  kind := kind
  variableName := variableName

/-- Ports are words of 16 bits. -/
def highestPort : Nat := Number.wordBound 16 - 1

/-- Consumers are numbered with words of 32 bits. -/
def highestConsumer : Nat := Number.wordBound 32 - 1

def cpuCount : Opt := withValue "cpu-count" .whole none
def logFile : Opt := withValue "logname" .path none
def logLevel : Opt := withValue "log-level" .text (some "LOG_LEVEL")
def logFormat : Opt := withValue "log-format" .format (some "LOG_FORMAT")
def startId : Opt := withValue "consumer-start-id" .cursor none
def consumerId : Opt := withValue "consumer-id" (.upTo highestConsumer) none
def setupsFolder : Opt := withValue "setups-folder" .path (some "SPECS_PATH_SETUPS")
def suitesFolder : Opt := withValue "test-suites-folder" .path (some "SPECS_PATH_TEST_SUITES")
def workRoot : Opt := withValue "work-root" .path none
def claimIdle : Opt := withValue "claim-min-idle-secs" .whole none
def host : Opt := withValue "redis-host" .text (some "GH_REDIS_SERVER_HOST")
def port : Opt := withValue "redis-port" (.upTo highestPort) (some "GH_REDIS_SERVER_PORT")
def user : Opt := withValue "redis-user" .text (some "GH_REDIS_SERVER_USER")
def password : Opt := withValue "redis-pass" .text (some "GH_REDIS_SERVER_AUTH")
def streamKey : Opt := withValue "stream-key" .text (some "STREAM_KEYNAME_NEW_BUILD_EVENTS")
def group : Opt := withValue "consumer-group" .text (some "STREAM_GH_NEW_BUILD_RUNNERS_CG")

def pushResults : Opt where
  name := "push-results-redistimeseries"
  value := none
  kind := .text
  variableName := none

def sinkHost : Opt :=
  withValue "datasink-redistimeseries-host" .text (some "DATASINK_RTS_HOST")

def sinkPort : Opt :=
  withValue "datasink-redistimeseries-port" (.upTo highestPort) (some "DATASINK_RTS_PORT")

def sinkUser : Opt :=
  withValue "datasink-redistimeseries-user" .text (some "DATASINK_RTS_USER")

def sinkPassword : Opt :=
  withValue "datasink-redistimeseries-pass" .text (some "DATASINK_RTS_AUTH")

def trigger : Opt := withValue "triggering-env" .text (some "TRIGGERING_ENV")

/-- All options, in the order in which their environment variables are read. -/
def all : List Opt :=
  [cpuCount, logFile, logLevel, logFormat, startId, consumerId, setupsFolder, suitesFolder,
    workRoot, claimIdle, host, port, user, password, streamKey, group, pushResults, sinkHost,
    sinkPort, sinkUser, sinkPassword, trigger]

end Opt

end BuildBench.CommandLine
