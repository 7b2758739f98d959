import BuildBench.Definition.Error
import BuildBench.Definition.Resources

set_option autoImplicit false

/-! Topologies: the shapes in which a database can be deployed, and the catalog that finds them by
name. -/

namespace BuildBench.Definition

open BuildBench.Yaml

structure Servers where
  primaries : Nat
  replicas : Nat
  deriving DecidableEq, Repr

structure Topology where
  name : String
  kind : Option String
  servers : Option Servers
  resources : Resources
  deriving DecidableEq, Repr

/-- Numbers of servers are words of 32 bits. -/
def serverBound : Nat := Number.wordBound 32

def Servers.read (node : Node) : Reading Servers := do
  let fields ← Reading.fields node
  let primaries ← Reading.field fields "primaries" (Reading.natural serverBound)
  let replicas ← Reading.fieldD fields "replicas" (Reading.natural serverBound) 0
  return { primaries, replicas }

def Topology.read (node : Node) : Reading Topology := do
  let fields ← Reading.fields node
  let name ← Reading.field fields "name" Reading.text
  let kind ← Reading.optionalField? fields "type" Reading.text
  let servers ← Reading.optionalField? fields "redis_topology" Servers.read
  let resources ← Reading.field fields "resources" Resources.read
  return { name, kind, servers, resources }

/-- Topologies by name, in ascending order of their names. -/
structure Catalog where
  /-- The path of the file that defines them. -/
  source : Option String
  topologies : List Topology
  deriving DecidableEq, Repr

namespace Catalog

/-- Puts a topology among others. An older one of its name gives way. -/
def insertInto (topology : Topology) : List Topology → List Topology
  | [] => [topology]
  | head :: rest =>
      if topology.name < head.name then topology :: head :: rest
      else if topology.name = head.name then topology :: rest
      else head :: insertInto topology rest

/-- The catalog of a list; of a repeated name the last topology stays. -/
def ofList (source : Option String) (topologies : List Topology) : Catalog where
  source := source
  topologies := topologies.foldl (fun held topology => insertInto topology held) []

def get? (catalog : Catalog) (name : String) : Option Topology :=
  catalog.topologies.find? (·.name == name)

def size (catalog : Catalog) : Nat :=
  catalog.topologies.length

def names (catalog : Catalog) : List String :=
  catalog.topologies.map (·.name)

def readTopologies (node : Node) : Reading (List Topology) := do
  let fields ← Reading.fields node
  Reading.field fields "spec" fun spec => do
    let fields ← Reading.fields spec
    Reading.field fields "setups" (Reading.list Topology.read)

def ofText (source text : String) : Except Error Catalog :=
  match Reading.run readTopologies text with
  | none => .error (.malformed source formDefect)
  | some topologies => .ok (ofList (some source) topologies)

end Catalog

end BuildBench.Definition
