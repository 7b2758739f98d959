import BuildBench.Entry.Fields
import BuildBench.Files.IoError
import BuildBench.Files.Path

set_option autoImplicit false

/-! A file tree as a list of places and what stands there. Paths are resolved step by step, symbolic
links included. Making something adds it at the end of the list, and removing takes it out, so that
a tree is the same list again when all that was made in it has been removed. -/

namespace BuildBench.Files

inductive Node
  | file (mode : Nat) (data : Bytes)
  | directory
  | link (target : String)
  deriving DecidableEq, Repr

/-- A place: the names from the top of the tree. -/
abbrev Place := List String

/-- A file tree. The top is a directory that is always there. -/
structure Tree where
  entries : List (Place × Node)
  /-- Where paths that do not begin at the top start. -/
  origin : Place
  deriving DecidableEq, Repr, Inhabited

namespace Tree

def empty : Tree where
  entries := []
  origin := []

def node? (tree : Tree) (place : Place) : Option Node :=
  if place.isEmpty then some .directory else tree.entries.lookup place

/-- Puts something at a place among the entries. -/
def putInto (place : Place) (node : Node) : List (Place × Node) → List (Place × Node)
  | [] => [(place, node)]
  | (head, held) :: rest =>
      if head = place then (head, node) :: rest else (head, held) :: putInto place node rest

def put (tree : Tree) (place : Place) (node : Node) : Tree :=
  { tree with entries := putInto place node tree.entries }

/-- The tree without a place and all below it. -/
def prune (tree : Tree) (place : Place) : Tree :=
  { tree with entries := tree.entries.filter fun entry => !place.isPrefixOf entry.1 }

def namesIn (tree : Tree) (directory : Place) : List String :=
  tree.entries.filterMap fun (place, _) =>
    match place.getLast? with
    | some name => if place.dropLast = directory then some name else none
    | none => none

/-! ### Resolution -/

/-- A name may have so many bytes. -/
def nameLimit : Nat := 255

/-- A path may have so many bytes, less the one that ends it. -/
def pathLimit : Nat := 4096

/-- A path may lead through so many symbolic links. -/
def linkLimit : Nat := 40

/-- The place where a path that is met at `base` starts. -/
def startOf (base : Place) (path : String) : Place :=
  if isAbsolute path then [] else base

/-- What a path is resolved for. -/
inductive Aim
  /-- What stands at its end, links followed. -/
  | target
  /-- What stands at its end, be it a link. -/
  | entry
  /-- A file that is made if it is missing, links followed. -/
  | newFile
  deriving DecidableEq, Repr

/-- Steps on from the directory `base`. The place that is reached need not hold anything, but all
places before it are directories. No file is made under a name with a slash behind it. -/
def walk (tree : Tree) (aim : Aim) (links : Nat) (base : Place) :
    List String → Except IoError Place
  | [] => .ok base
  | name :: rest =>
      if staysInPlace name then walk tree aim links base rest
      else if name = ".." then walk tree aim links base.dropLast rest
      else if aim = .newFile ∧ rest = [""] then .error .isDirectory
      else if nameLimit < name.utf8ByteSize then .error .nameTooLong
      else
        let place := base ++ [name]
        match tree.node? place with
        | none => if rest.isEmpty then .ok place else .error .notFound
        | some .directory => walk tree aim links place rest
        | some (.file _ _) => if rest.isEmpty then .ok place else .error .notDirectory
        | some (.link target) =>
            if rest.isEmpty && aim == .entry then .ok place
            else
              match links with
              | 0 => .error .tooManyLinks
              | links + 1 =>
                  walk tree aim links (startOf base target) (steps target ++ rest)
  termination_by names => (links, names.length)

/-- The place that a path leads to. A path without names leads nowhere. -/
def resolve (tree : Tree) (path : String) (aim : Aim) : Except IoError Place :=
  if path.toList.contains (Char.ofNat 0) then .error .nulInName
  else if path.isEmpty then .error .notFound
  else if pathLimit ≤ path.utf8ByteSize then .error .nameTooLong
  else tree.walk aim linkLimit (startOf tree.origin path) (steps path)

def find (tree : Tree) (path : String) : Except IoError (Place × Node) :=
  match tree.resolve path .target with
  | .error error => .error error
  | .ok place =>
      match tree.node? place with
      | some node => .ok (place, node)
      | none => .error .notFound

/-! ### Reading -/

/-- The path leads to a file. -/
def isFile (tree : Tree) (path : String) : Bool :=
  match tree.find path with
  | .ok (_, .file _ _) => true
  | _ => false

def listDirectory (tree : Tree) (path : String) : Except IoError (List String) :=
  match tree.find path with
  | .error error => .error error
  | .ok (place, .directory) => .ok (tree.namesIn place)
  | .ok _ => .error .notDirectory

def content (tree : Tree) (path : String) : Except IoError Bytes :=
  match tree.find path with
  | .error error => .error error
  | .ok (_, .file _ data) => .ok data
  | .ok _ => .error .isDirectory

def readText (tree : Tree) (path : String) : Except IoError String :=
  match tree.content path with
  | .error error => .error error
  | .ok data =>
      match Text.Utf8.decodeString data with
      | .ok text => .ok text
      | .error _ => .error .notUtf8

/-- The files in a directory, links to files included: their names in ascending order, with modes
and data. Where there is no directory there are none. -/
def filesIn (tree : Tree) (path : String) : List (String × Nat × Bytes) :=
  let files := ((tree.listDirectory path).toOption.getD []).filterMap fun name =>
    match tree.find (joinPath path name) with
    | .ok (_, .file mode data) => some (name, mode, data)
    | _ => none
  files.mergeSort fun left right => decide (left.1 ≤ right.1)

/-! ### Writing -/

/-- A new file may be read by all and written by its owner. -/
def plainMode : Nat := 0o644

/-- An executable file may be read and run by all and written by its owner. -/
def executableMode : Nat := 0o755

/-- Writes a file. A file that is there loses its content but keeps its mode. -/
def writeFile (tree : Tree) (path : String) (mode : Nat) (data : Bytes) : Except IoError Tree :=
  match tree.resolve path .newFile with
  | .error error => .error error
  | .ok place =>
      match tree.node? place with
      | some (.file held _) => .ok (tree.put place (.file held data))
      | some _ => .error .isDirectory
      | none => .ok (tree.put place (.file mode data))

def writeFileWithMode (tree : Tree) (path : String) (mode : Nat) (data : Bytes) :
    Except IoError Tree :=
  match tree.resolve path .newFile with
  | .error error => .error error
  | .ok place =>
      match tree.node? place with
      | some .directory => .error .isDirectory
      | _ => .ok (tree.put place (.file mode data))

/-- Adds to the end of a file, and makes it if it is not there. -/
def appendFile (tree : Tree) (path : String) (mode : Nat) (data : Bytes) :
    Except IoError Tree :=
  match tree.resolve path .newFile with
  | .error error => .error error
  | .ok place =>
      match tree.node? place with
      | some (.file held old) => .ok (tree.put place (.file held (old ++ data)))
      | some _ => .error .isDirectory
      | none => .ok (tree.put place (.file mode data))

/-- Changes a tree. A change that fails leaves it as it is. -/
def attempt (change : Tree → Except IoError Tree) : StateM Tree (Except IoError Unit) :=
  fun tree =>
    match change tree with
    | .ok changed => (.ok (), changed)
    | .error error => (.error error, tree)

def makeDirectory (tree : Tree) (path : String) : Except IoError Tree :=
  match tree.resolve path .entry with
  | .error error => .error error
  | .ok place =>
      match tree.node? place with
      | some _ => .error .alreadyExists
      | none => .ok (tree.put place .directory)

def removeDirectory (tree : Tree) (path : String) : Except IoError Tree :=
  match tree.resolve path .entry with
  | .error error => .error error
  | .ok place =>
      match tree.node? place with
      | some .directory => .ok (tree.prune place)
      | some _ => .error .notDirectory
      | none => .error .notFound

/-! ### Setting up -/

/-- Makes the directories that are missing on steps from a place on: the tree then, and the place
that is reached. -/
def makeDirectories (tree : Tree) (base : Place) : List String → Tree × Place
  | [] => (tree, base)
  | name :: rest =>
      let place := (tree.walk .target linkLimit base [name]).toOption.getD base
      let tree := if (tree.node? place).isNone then tree.put place .directory else tree
      makeDirectories tree place rest

/-- The tree with something at the end of a path, and directories on the way to it. A file is
written where a link leads that is there already. -/
def lay (tree : Tree) (path : String) (node : Node) : Tree :=
  let base := startOf tree.origin path
  let names := steps path
  match node with
  | .directory => (tree.makeDirectories base names).1
  | node =>
      let (tree, directory) := tree.makeDirectories base names.dropLast
      let aim := if node matches .link _ then Aim.entry else .newFile
      match tree.walk aim linkLimit directory (names.drop (names.length - 1)) with
      | .ok place => tree.put place node
      | .error _ => tree

/-- The tree without what stands at the end of a path, and without all below that. -/
def remove (tree : Tree) (path : String) : Tree :=
  match tree.resolve path .entry with
  | .ok place => tree.prune place
  | .error _ => tree

end Tree

end BuildBench.Files
