import BuildBench.Entry.Fields
import BuildBench.Number.Decimal
import BuildBench.Server.Address
import BuildBench.Text.Utf8

set_option autoImplicit false

/-! Commands that are sent to servers, and what comes back. -/

namespace BuildBench.Server

inductive Reply
  | nothing
  | integer (value : Int)
  | bulk (data : Bytes)
  | status (text : String)
  | array (items : List Reply)
  deriving Inhabited, Repr

/-- Why there is no answer, or none that can be used. -/
inductive Fault
  | unreachable (reason : String)
  | dropped
  | late (bound : String)
  /-- The server answers with an error, of which the first word is its code. -/
  | refused (text : String)
  | unexpected (wanted : String)
  deriving DecidableEq, Repr

namespace Fault

def message : Fault → String
  | .unreachable reason => reason
  | .dropped => "connection dropped"
  | .late bound => s!"no reply within {bound}"
  | .refused text => text
  | .unexpected wanted => s!"reply is not {wanted}"

/-- The server's code for the error that it answers with. -/
def code? : Fault → Option String
  | .refused text => some (String.ofList (text.toList.takeWhile (· ≠ ' ')))
  | _ => none

/-- The connection failed, or was closed without an answer. -/
def isLost : Fault → Bool
  | .unreachable _ | .dropped => true
  | _ => false

end Fault

namespace Reply

def text : Reply → Except Fault String
  | .status text => .ok text
  | .integer value => .ok (toString value)
  | .bulk data =>
      match Text.Utf8.decodeString data with
      | .ok text => .ok text
      | .error _ => .error (.unexpected "a text")
  | _ => .error (.unexpected "a text")

/-- An answer that can be read as bytes. Nothing stands for no bytes. -/
def bytes : Reply → Except Fault Bytes
  | .bulk data => .ok data
  | .nothing => .ok []
  | _ => .error (.unexpected "binary")

/-- The whole number that a text spells, if it fits a word of 64 bits with sign. One sign may stand
in front. -/
def readSigned? : List Char → Option Int
  | '-' :: '+' :: _ => none
  | '-' :: digits =>
      (Number.readWhole (Number.wordBound 63 + 1) digits).toOption.map fun value => -value
  | digits => (Number.readWhole (Number.wordBound 63) digits).toOption.map fun value => value

/-- An answer that can be read as a whole number. -/
def whole : Reply → Except Fault Int
  | .integer value => .ok value
  | reply =>
      match reply.text.toOption.bind (readSigned? ·.toList) with
      | some value => .ok value
      | none => .error (.unexpected "a whole number")

/-- An answer that is a list. Nothing stands for an empty one. -/
def list : Reply → Except Fault (List Reply)
  | .array items => .ok items
  | .nothing => .ok []
  | _ => .error (.unexpected "a list")

def pairs : List Reply → Except Fault (List (Reply × Reply))
  | [] => .ok []
  | [_] => .error (.unexpected "a list of pairs")
  | first :: second :: rest => (pairs rest).map ((first, second) :: ·)

end Reply

/-- A way to reach servers. `σ` is the state of what is out there. -/
structure Network (σ : Type) where
  connect : Address → StateM σ (Except Fault Unit)
  /-- Sends a command to the server that was connected to last at this address. -/
  send : Address → List String → StateM σ (Except Fault Reply)

/-- A network on which no server listens. -/
def Network.unreachable {σ : Type} (reason : String) : Network σ where
  connect := fun _ => return .error (.unreachable reason)
  send := fun _ _ => return .error (.unreachable reason)

end BuildBench.Server
