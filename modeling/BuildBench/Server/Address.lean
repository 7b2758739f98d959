set_option autoImplicit false

/-! Servers: where they listen, and as whom they are addressed. -/

namespace BuildBench.Server

/-- A server and the credentials for it. -/
structure Address where
  host : String
  port : Nat
  username : Option String
  password : Option String
  deriving DecidableEq, Repr

namespace Address

def ofHost (host : String) (port : Nat) : Address where
  host := host
  port := port
  username := none
  password := none

def usual : Address :=
  .ofHost "localhost" 6379

def toText (address : Address) : String :=
  s!"{address.host}:{address.port}"

/-- A credential that is empty is none. -/
def nonEmpty : Option String → Option String
  | some text => if text.isEmpty then none else some text
  | none => none

def user? (address : Address) : Option String :=
  nonEmpty address.username

def password? (address : Address) : Option String :=
  nonEmpty address.password

def database : Nat := 0

end Address

end BuildBench.Server
