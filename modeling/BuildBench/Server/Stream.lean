import BuildBench.Entry.Delivery
import BuildBench.Server.Network
import BuildBench.Server.Settings
import BuildBench.Text.Quoted

set_option autoImplicit false

/-! The stream of build events as a queue: the commands of a consumer, and entries as deliveries. An
entry whose fields cannot be read is delivered all the same. -/

namespace BuildBench.Server

open BuildBench.Entry

/-- Why the stream cannot be used. -/
inductive StreamError
  | server (fault : Fault)
  | invalidEntryId (text : String)
  | invalidField (field reason : String)
  deriving DecidableEq, Repr

namespace StreamError

def message : StreamError → String
  | .server fault => s!"redis error: {fault.message}"
  | .invalidEntryId text => s!"invalid entry id {Text.quoted text}"
  | .invalidField field reason => s!"field {field} is not binary: {reason}"

def toQueueError : StreamError → QueueError
  | .server fault => .backend fault.message
  | error => .malformed error.message

end StreamError

/-! ### Entries -/

def fieldBytes (name : String) (value : Reply) : Except StreamError Bytes :=
  match value.bytes with
  | .ok data => .ok data
  | .error fault => .error (.invalidField name fault.message)

/-- The fields of an entry. Of a repeated name the last value counts. -/
def fieldsOf (entries : List (String × Reply)) : Except StreamError Fields := do
  let last := entries.foldl
    (fun (held : List (String × Reply)) entry => held.filter (·.1 != entry.1) ++ [entry]) []
  let read ← last.mapM fun (name, value) => return (name, ← fieldBytes name value)
  return .ofList read

/-- The delivery of an entry. Only an id that is none is an error. -/
def deliveryOf (idText : String) (entries : List (String × Reply)) :
    Except StreamError Delivery :=
  match Id.read idText with
  | .error _ => .error (.invalidEntryId idText)
  | .ok id =>
      match fieldsOf entries with
      | .ok fields => .ok { id, body := .fields fields }
      | .error error => .ok { id, body := .unreadable error.message }

/-- An entry in an answer: its id, and a list of names and values. -/
def readEntry (reply : Reply) : Except Fault (String × List (String × Reply)) := do
  match ← reply.list with
  | [id, values] =>
      let pairs ← Reply.pairs (← values.list)
      return (← id.text, ← pairs.mapM fun (name, value) => return (← name.text, value))
  | _ => throw (.unexpected "an entry")

/-- The entries of a stream in an answer, behind its key. -/
def readStream (reply : Reply) : Except Fault (List (String × List (String × Reply))) := do
  match ← reply.list with
  | [_, entries] => (← entries.list).mapM readEntry
  | _ => throw (.unexpected "a stream")

/-- The delivery of the first of some entries, if there is one. -/
def firstDelivery (entries : Except Fault (List (String × List (String × Reply)))) :
    Except StreamError (Option Delivery) :=
  match entries with
  | .error fault => .error (.server fault)
  | .ok [] => .ok none
  | .ok ((id, fields) :: _) => (deliveryOf id fields).map some

def deliveryRead (reply : Reply) : Except StreamError (Option Delivery) :=
  firstDelivery do return (← (← reply.list).mapM readStream).flatten

def deliveryClaimed (reply : Reply) : Except StreamError (Option Delivery) :=
  firstDelivery do (← reply.list).mapM readEntry

/-- The id of the first entry in a list of pending ones. -/
def stalePending (reply : Reply) : Except Fault (Option String) := do
  match ← reply.list with
  | [] => return none
  | first :: _ =>
      match ← first.list with
      | id :: _ => return some (← id.text)
      | [] => throw (.unexpected "a pending entry")

/-! ### Commands -/

namespace StreamSettings

/-- Makes the group at the end of the stream, and the stream if it is not there. -/
def createGroup (settings : StreamSettings) : List String :=
  ["XGROUP", "CREATE", settings.streamKey, settings.group, "$", "MKSTREAM"]

/-- Reads one entry at a position, and waits for it. -/
def readGroup (settings : StreamSettings) (cursor : Cursor) : List String :=
  ["XREADGROUP", "GROUP", settings.group, settings.consumer, "COUNT", "1", "BLOCK", "0", "STREAMS",
    settings.streamKey, cursor.toText]

def acknowledge (settings : StreamSettings) (id : Id) : List String :=
  ["XACK", settings.streamKey, settings.group, id.toText]

/-- Asks for one entry that has been pending for so many thousandths of a second. -/
def pending (settings : StreamSettings) (idle : Nat) : List String :=
  ["XPENDING", settings.streamKey, settings.group, "IDLE", toString idle, "-", "+", "1"]

/-- Takes an entry over that has been pending for so many thousandths of a second. -/
def claim (settings : StreamSettings) (idle : Nat) (id : String) : List String :=
  ["XCLAIM", settings.streamKey, settings.group, settings.consumer, toString idle, id]

end StreamSettings

/-! ### The queue -/

/-- A queue on a network. -/
structure Stream (σ : Type) where
  network : Network σ
  settings : StreamSettings

namespace Stream

variable {σ : Type}

def ask {α : Type} (stream : Stream σ) (command : List String)
    (reading : Reply → Except StreamError α) : StateM σ (Except StreamError α) := do
  match ← stream.network.send stream.settings.server command with
  | .error fault => return .error (.server fault)
  | .ok reply => return reading reply

/-- Connects to the server and asks whether it is there. -/
def connect (stream : Stream σ) : StateM σ (Except StreamError Unit) := do
  match ← stream.network.connect stream.settings.server with
  | .error fault => return .error (.server fault)
  | .ok () =>
      stream.ask ["PING"] fun reply =>
        match reply.text with
        | .ok _ => .ok ()
        | .error fault => .error (.server fault)

/-- Makes the group of consumers. One that is there stays as it is. -/
def makeGroup (stream : Stream σ) : StateM σ (Except StreamError Unit) := do
  match ← stream.ask stream.settings.createGroup (fun _ => .ok ()) with
  | .error (.server fault) =>
      if fault.code? = some "BUSYGROUP" then return .ok () else return .error (.server fault)
  | answer => return answer

def read (stream : Stream σ) (cursor : Cursor) :
    StateM σ (Except QueueError (Option Delivery)) := do
  return (← stream.ask (stream.settings.readGroup cursor) deliveryRead).mapError
    StreamError.toQueueError

/-- Acknowledges an entry. The answer has to be a number. -/
def acknowledge (stream : Stream σ) (id : Id) : StateM σ (Except QueueError Unit) := do
  let answer ← stream.ask (stream.settings.acknowledge id) fun reply =>
    match reply.whole with
    | .ok _ => .ok ()
    | .error fault => .error (.server fault)
  return answer.mapError StreamError.toQueueError

/-- Takes over an entry that another consumer left idle. Someone else may be faster. -/
def takeOver (stream : Stream σ) (idle : Time.Duration) :
    StateM σ (Except QueueError (Option Delivery)) := do
  let settings := stream.settings
  let milliseconds := idle.milliseconds
  let stale ← stream.ask (settings.pending milliseconds) fun reply =>
    (stalePending reply).mapError StreamError.server
  match stale with
  | .error error => return .error error.toQueueError
  | .ok none => return .ok none
  | .ok (some id) =>
      return (← stream.ask (settings.claim milliseconds id) deliveryClaimed).mapError
        StreamError.toQueueError

end Stream

end BuildBench.Server
