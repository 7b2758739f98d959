import BuildBench.Definition.Suite
import BuildBench.Definition.Topology
import BuildBench.Files.Tree

set_option autoImplicit false

/-! Definition files in a file tree. -/

namespace BuildBench.Definition

open BuildBench.Files

def hasDefinitionName (name : String) : Bool :=
  extension? name == some "yml" || extension? name == some "yaml"

/-- The paths of the definition files that stand directly in a directory, in order. Links to files
count as files. -/
def definitionFiles (tree : Tree) (directory : String) : Except Error (List String) :=
  match tree.listDirectory directory with
  | .error cause => .error (.unreadable directory cause)
  | .ok names =>
      let named := names.filter hasDefinitionName
      let ordered := named.mergeSort fun left right => decide (left ≤ right)
      .ok ((ordered.map (joinPath directory)).filter tree.isFile)

def Suite.load (tree : Tree) (path : String) : Except Error Suite :=
  match tree.readText path with
  | .error cause => .error (.unreadable path cause)
  | .ok text => Suite.ofText path text

def Catalog.load (tree : Tree) (path : String) : Except Error Catalog :=
  match tree.readText path with
  | .error cause => .error (.unreadable path cause)
  | .ok text => Catalog.ofText path text

/-- The catalog that the first definition file of a directory defines. -/
def Catalog.loadDirectory (tree : Tree) (directory : String) : Except Error Catalog :=
  match definitionFiles tree directory with
  | .error error => .error error
  | .ok [] => .error (.noDefinitions directory)
  | .ok (first :: _) => Catalog.load tree first

end BuildBench.Definition
