import BuildBench.CommandLine.Arguments
import BuildBench.Logging.Setup
import BuildBench.Run.Settings
import BuildBench.Server.Settings

set_option autoImplicit false

/-! What the operator chooses on the command line. An option that is absent has the value of its
environment variable or else its usual value. -/

namespace BuildBench.CommandLine

open BuildBench.Server

structure Choices where
  cpuCount : Option Nat
  logFile : Option String
  logLevel : String
  logFormat : Logging.Format
  start : Entry.Cursor
  consumer : Nat
  setupsFolder : String
  suitesFolder : String
  workRoot : Option String
  /-- In seconds. -/
  claimIdle : Option Nat
  server : Address
  streamKey : String
  group : String
  pushesResults : Bool
  sink : Address
  trigger : String
  deriving DecidableEq, Repr

namespace Choices

structure Source where
  given : Given
  environment : List (String × String)

/-- Takes a refusal as an error of an option. -/
def worded {α : Type} (option : Opt) (value : String) : Except Refusal α → Except Error α
  | .ok value => .ok value
  | .error cause => .error (Given.refusal option value cause)

def value? (source : Source) (option : Opt) : Option String :=
  match source.given.value? option with
  | some value => some value
  | none => option.variableName.bind fun name => source.environment.lookup name

/-- The value of an option as something else than text, if it has any. -/
def optional {α : Type} (source : Source) (option : Opt) (reading : String → Except Refusal α) :
    Except Error (Option α) :=
  match value? source option with
  | none => .ok none
  | some value => (worded option value (reading value)).map some

/-- The value of an option, or else its usual value. -/
def orUsual {α : Type} (source : Source) (option : Opt) (reading : String → Except Refusal α)
    (usual : α) : Except Error α :=
  (optional source option reading).map (·.getD usual)

def anyText (text : String) : Except Refusal String :=
  .ok text

def whole (text : String) : Except Refusal Nat :=
  ValueKind.readWhole text.toList

def upTo (top : Nat) (text : String) : Except Refusal Nat :=
  ValueKind.readUpTo top text.toList

def ofSource (source : Source) : Except Error Choices := do
  let cpuCount ← optional source .cpuCount whole
  let logFile ← optional source .logFile ValueKind.readPath
  let logLevel ← orUsual source .logLevel anyText "info"
  let logFormat ← orUsual source .logFormat ValueKind.readFormat .text
  let start ← orUsual source .startId ValueKind.readCursor .undelivered
  let consumer ← orUsual source .consumerId (upTo Opt.highestConsumer) 1
  let setupsFolder ← orUsual source .setupsFolder ValueKind.readPath "specs/setups"
  let suitesFolder ← orUsual source .suitesFolder ValueKind.readPath "specs/test-suites"
  let workRoot ← optional source .workRoot ValueKind.readPath
  let claimIdle ← optional source .claimIdle whole
  let host ← orUsual source .host anyText Address.usual.host
  let port ← orUsual source .port (upTo Opt.highestPort) Address.usual.port
  let username ← optional source .user anyText
  let password ← optional source .password anyText
  let streamKey ← orUsual source .streamKey anyText StreamSettings.usualKey
  let group ← orUsual source .group anyText StreamSettings.usualGroup
  let sinkHost ← orUsual source .sinkHost anyText Address.usual.host
  let sinkPort ← orUsual source .sinkPort (upTo Opt.highestPort) Address.usual.port
  let sinkUser ← optional source .sinkUser anyText
  let sinkPassword ← optional source .sinkPassword anyText
  let trigger ← orUsual source .trigger anyText SeriesSettings.usual.trigger
  return {
    cpuCount, logFile, logLevel, logFormat, start, consumer, setupsFolder, suitesFolder, workRoot
    claimIdle, streamKey, group, trigger
    server := { host, port, username, password }
    pushesResults := source.given.has .pushResults
    sink := { host := sinkHost, port := sinkPort, username := sinkUser, password := sinkPassword } }

def read (arguments : List String) (environment : List (String × String)) :
    Except Stop Choices :=
  match readArguments arguments with
  | .error stop => .error stop
  | .ok given => Reader.orStop (ofSource { given, environment })

def log (choices : Choices) : Logging.Setup :=
  { Logging.Setup.usual with
    format := choices.logFormat
    filter := choices.logLevel
    file := choices.logFile }

def stream (choices : Choices) : StreamSettings where
  server := choices.server
  streamKey := choices.streamKey
  group := choices.group
  consumer := numberedConsumer choices.group choices.consumer

def series (choices : Choices) : SeriesSettings :=
  { SeriesSettings.usual with server := choices.sink, trigger := choices.trigger }

/-- The settings that are chosen on a host with a usual work root, a label and so many CPUs. -/
def settings (choices : Choices) (workRoot runner : String) (cpuCount : Nat) : Run.Settings :=
  { Run.Settings.usual (choices.workRoot.getD workRoot) runner (choices.cpuCount.getD cpuCount) with
    suitesDirectory := choices.suitesFolder
    claimIdle := choices.claimIdle.map .ofSeconds }

end Choices

end BuildBench.CommandLine
