import BuildBench.Run.Error
import BuildBench.Server.Network
import BuildBench.Server.Settings

set_option autoImplicit false

/-! Waiting for a database, and telling it to shut down. -/

namespace BuildBench.Server

variable {σ : Type}

/-- Tries until an attempt succeeds, but at most so often, with a pause between each two attempts.
The error is that of the last attempt, or `last` if none is made. -/
def retry {ε : Type} (attempt : StateM σ (Except ε Unit)) (pause : StateM σ Unit) :
    Nat → ε → StateM σ (Except ε Unit)
  | 0, last => return .error last
  | attempts + 1, _ => do
      match ← attempt with
      | .ok () => return .ok ()
      | .error error =>
          if 0 < attempts then pause
          retry attempt pause attempts error

def ask (network : Network σ) (address : Address) (command : List String) :
    StateM σ (Except Fault Reply) := do
  match ← network.connect address with
  | .error fault => return .error fault
  | .ok () => network.send address command

def ping (network : Network σ) (address : Address) : StateM σ (Except Fault Unit) := do
  return (← ask network address ["PING"]).bind fun reply => reply.text.map fun _ => ()

/-- The wording of a failed attempt. -/
def attemptText (answer : Except Fault Unit) : Except String Unit :=
  answer.mapError Fault.message

def awaitReady (network : Network σ) (pause : StateM σ Unit) (settings : ProbeSettings)
    (host : String) (port : Nat) : StateM σ (Except Run.ProbeError Unit) := do
  let address := Address.ofHost host port
  let attempt : StateM σ (Except String Unit) := do return attemptText (← ping network address)
  match ← retry attempt pause settings.attempts "no attempt made" with
  | .ok () => return .ok ()
  | .error last => return .error (.notReady address.toText settings.attempts last)

/-- Tells a database to shut down. It closes the connection instead of an answer, and one that is
gone needs no telling. -/
def shutdown (network : Network σ) (host : String) (port : Nat) :
    StateM σ (Except Run.ProbeError Unit) := do
  match ← ask network (.ofHost host port) ["SHUTDOWN", "NOSAVE"] with
  | .ok _ => return .ok ()
  | .error fault =>
      if fault.isLost then return .ok ()
      else return .error (.shutdownRefused fault.message)

end BuildBench.Server
