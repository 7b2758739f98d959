import BuildBench.CommandLine.Usage
import BuildBench.Service.Basic

set_option autoImplicit false

/-! The command line of the program. It looks at the files and the environment, and prints what the
start of the program comes to. It has no network to give to the program, so that the program ends
when it has to connect. -/

namespace BuildBench.Main

open BuildBench.CommandLine BuildBench.Files

def readEnvironment : IO (List (String × String)) :=
  (Opt.all.filterMap (·.variableName)).filterMapM fun name => do
    return (← IO.getEnv name).map (name, ·)

/-- Adds a directory and what stands directly in it to a tree, if the directory is there. -/
def readDirectory (path : String) (tree : Tree) : IO Tree := do
  let directory := (← IO.currentDir) / path
  if !(← directory.isDir) then return tree
  let (made, place) := tree.makeDirectories [] (steps path)
  let mut tree := made
  for entry in ← directory.readDir do
    let node ←
      if ← entry.path.isDir then pure Node.directory
      else pure (Node.file Tree.plainMode (← IO.FS.readBinFile entry.path).toList)
    tree := tree.put (place ++ [entry.fileName]) node
  return tree

def readFiles : Except Stop Choices → IO Tree
  | .error _ => return .empty
  | .ok choices => do
      let tree ← readDirectory choices.topologiesDirectory .empty
      match choices.logFile with
      | none => return tree
      | some path => readDirectory (parentPath path) tree

/-- Prints the log lines of a session, or writes the file that holds them. -/
def writeLog (log : Logging.Log) (files : Tree) : IO Unit := do
  IO.print log.output
  match log.setup.file.map fun path => (path, files.content path) with
  | some (path, .ok data) => IO.FS.writeBinFile path (ByteArray.mk data.toArray)
  | _ => return ()

def complain (failure : Failure) : IO Unit := do
  match failure with
  | .inquiry inquiry => IO.println inquiry.answer
  | failure => failure.complaint?.toList.forM fun text => IO.eprint text

end BuildBench.Main

open BuildBench in
def main (arguments : List String) : IO UInt32 := do
  let environment ← Main.readEnvironment
  let files ← Main.readFiles (CommandLine.Choices.read arguments environment)
  let machine : Service.Machine := { cpuCount := 1, runner := "localhost", workRoot := "." }
  let (answer, ()) := Service.run Service.nothingOutside machine arguments environment files 1 ()
  match answer with
  | .ok session =>
      Main.writeLog session.log session.files
      return 0
  | .error ended =>
      ended.log.toList.forM fun log => Main.writeLog log ended.files
      Main.complain ended.failure
      return ended.failure.code.toUInt32
