import BuildBench.Run.Host

set_option autoImplicit false

/-! Rehearsals: collaborators that follow a script, so that a coordinator can be tried without
servers and sandboxes. Queues hand out what was put into them, sandboxes do as they are told, and
anything can be made to fail. -/

namespace BuildBench.Rehearsal

open BuildBench.Entry BuildBench.Files BuildBench.Run

/-- What a client sandbox does. -/
structure ClientPlan where
  stdout : String
  duration : Time.Duration
  results : Option Bytes
  error : Option Sandbox.Error

/-- What a client does that was told nothing: it reports one test and takes long enough. -/
def ClientPlan.usual : ClientPlan where
  stdout := "\"SET\",\"1000.00\"\n"
  duration := .ofSeconds 12
  results := none
  error := none

/-- What collaborators do from now on. -/
structure Script where
  /-- What the next reads yield. Then there is nothing. -/
  reads : List (Except QueueError (Option Delivery))
  /-- What the next claims yield. Then there is nothing. -/
  claims : List (Except QueueError (Option Delivery))
  /-- What the next clients do. -/
  clients : List ClientPlan
  databaseError : Option Sandbox.Error
  /-- A database that starts is gone at once. -/
  databaseCompletes : Bool
  notReady : Option String
  shutdownError : Option String
  acknowledgeError : Option String
  stopFails : Sandbox.Handle → Bool
  databases : Nat
  runs : Nat
  directories : Nat
  cancelled : Bool

def Script.start : Script where
  reads := []
  claims := []
  clients := []
  databaseError := none
  databaseCompletes := false
  notReady := none
  shutdownError := none
  acknowledgeError := none
  stopFails := fun _ => false
  databases := 0
  runs := 0
  directories := 0
  cancelled := false

namespace Script

def thenReads (script : Script) (answers : List (Except QueueError (Option Delivery))) : Script :=
  { script with reads := script.reads ++ answers }

def thenClaim (script : Script) (answer : Except QueueError (Option Delivery)) : Script :=
  { script with claims := script.claims ++ [answer] }

def thenClient (script : Script) (plan : ClientPlan) : Script :=
  { script with clients := script.clients ++ [plan] }

end Script

/-! ### Queue -/

/-- Reads the next entry. When there is none of those never delivered, the rehearsal is over. -/
def read (cursor : Cursor) : StateM Script (Except QueueError (Option Delivery)) :=
  fun script =>
    match script.reads with
    | answer :: rest => (answer, { script with reads := rest })
    | [] => (.ok none, { script with cancelled := script.cancelled || cursor.isUndelivered })

def claim : StateM Script (Except QueueError (Option Delivery)) :=
  fun script =>
    match script.claims with
    | answer :: rest => (answer, { script with claims := rest })
    | [] => (.ok none, script)

/-! ### Sandboxes -/

/-- Starts a database. Those that stay are numbered. -/
def launchDatabase : StateM (Script × Tree) (Except Sandbox.Error Sandbox.Handle) :=
  fun (script, files) =>
    match script.databaseError with
    | some error => (.error error, script, files)
    | none =>
        if script.databaseCompletes then (.ok .completed, script, files)
        else
          (.ok (.container s!"db-{script.databases}"),
            { script with databases := script.databases + 1 }, files)

/-- The text behind a beginning, if it begins so. -/
def textAfter (start text : List Char) : List Char :=
  if start.isPrefixOf text then text.drop start.length else text

def outputMark : List Char := "--json-out-file=".toList

/-- Writes results where the command says, if it says so and there is room for them. -/
def leaveResults (spec : Sandbox.Spec) (results : Bytes) (files : Tree) : Tree :=
  match spec.command.find? fun argument => outputMark.isPrefixOf argument.toList with
  | none => files
  | some argument =>
      let path := textAfter spec.mount.target.toList (textAfter outputMark argument.toList)
      let name := String.ofList (path.dropWhile (· = '/'))
      match files.writeFile (joinPath spec.mount.host name) Tree.plainMode results with
      | .ok files => files
      | .error _ => files

def launchClient (spec : Sandbox.Spec) :
    StateM (Script × Tree) (Except Sandbox.Error Sandbox.ClientRun) :=
  fun (script, files) =>
    let plan := script.clients.head?.getD .usual
    let script := { script with clients := script.clients.tail }
    let files := (plan.results.map (leaveResults spec · files)).getD files
    match plan.error with
    | some error => (.error error, script, files)
    | none => (.ok { stdout := plan.stdout, duration := plan.duration }, script, files)

def stop (handle : Sandbox.Handle) : StateM Script (Except Sandbox.Error Unit) :=
  fun script =>
    (if script.stopFails handle then .error (.nonZeroExit 1 "daemon") else .ok (), script)

/-! ### The host -/

def unlessRefused {ε : Type} (reason : Script → Option String) (wording : String → ε) :
    StateM Script (Except ε Unit) :=
  fun script =>
    match reason script with
    | some reason => (.error (wording reason), script)
    | none => (.ok (), script)

/-- A number with zeros in front. -/
def sixDigits (value : Nat) : String :=
  let digits := Nat.toDigits 10 value
  String.ofList (List.replicate (6 - digits.length) '0' ++ digits)

/-- The host of a rehearsal. Its clock stands still. -/
def host (now : Time.Moment) : Host Script where
  read := read
  acknowledge := fun _ => unlessRefused (·.acknowledgeError) .backend
  takeOver := fun _ => claim
  launchDatabase := fun _ => launchDatabase
  launchClient := launchClient
  stop := stop
  awaitReady := fun address port =>
    unlessRefused (·.notReady) fun reason => .notReady s!"{address}:{port}" 3 reason
  shutdown := fun _ _ => unlessRefused (·.shutdownError) .shutdownRefused
  now := return now
  newRunId := fun script => (toString script.runs, { script with runs := script.runs + 1 })
  directorySuffix := fun script =>
    (sixDigits script.directories, { script with directories := script.directories + 1 })
  refuse := fun _ => return none
  cancelled := fun script => (script.cancelled, script)

/-- A metrics store that has a reason to refuse everything, or none. -/
def sink : Sink (Option String) where
  push := fun _ reason? =>
    match reason? with
    | some reason => (.error { reason }, some reason)
    | none => (.ok (), none)

end BuildBench.Rehearsal
