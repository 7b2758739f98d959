import BuildBench.Entry.Build
import BuildBench.Files.Path
import BuildBench.Run.Error

set_option autoImplicit false

/-! Artifacts of a build as executable files in a directory. All names and payloads are checked
before the first file is written. -/

namespace BuildBench.Run

open BuildBench.Entry BuildBench.Files

/-- A name that stands for one file directly in a directory. -/
def namesOneFile (name : String) : Bool :=
  !name.isEmpty && name != "." && name != ".." &&
    !name.toList.any fun c => c == '/' || c.toNat == 0

/-- The payload of an artifact under a plain file name. -/
def artifactPayload (build : Build) (name : String) : Except ArtifactError Bytes :=
  if namesOneFile name then
    match build.payload? name with
    | some data => .ok data
    | none => .error (.missing name)
  else .error (.invalidName name)

/-- The payloads of artifacts, in order. The first name without a payload decides the error. -/
def artifactPayloads (build : Build) :
    List String → Except ArtifactError (List (String × Bytes))
  | [] => .ok []
  | name :: rest =>
      match artifactPayload build name with
      | .error error => .error error
      | .ok data => (artifactPayloads build rest).map ((name, data) :: ·)

/-- Writes payloads one after the other, up to the first that is refused. `write` writes an
executable file at a path. -/
def writeArtifacts {ω : Type} (write : String → Bytes → StateM ω (Except IoError Unit))
    (directory : String) : List (String × Bytes) → StateM ω (Except ArtifactError Unit)
  | [] => return .ok ()
  | (name, data) :: rest => do
      let path := joinPath directory name
      match ← write path data with
      | .error cause => return .error (.unwritable path cause)
      | .ok () => writeArtifacts write directory rest

/-- Names and paths of the artifacts in a directory, in ascending order and each name once. -/
def artifactPaths (directory : String) (names : List String) : List (String × String) :=
  let ordered := names.mergeSort fun left right => decide (left ≤ right)
  ordered.eraseReps.map fun name => (name, joinPath directory name)

def putInPlace {ω : Type} (write : String → Bytes → StateM ω (Except IoError Unit))
    (build : Build) (names : List String) (directory : String) :
    StateM ω (Except ArtifactError (List (String × String))) := do
  match artifactPayloads build names with
  | .error error => return .error error
  | .ok payloads =>
      match ← writeArtifacts write directory payloads with
      | .error error => return .error error
      | .ok () => return .ok (artifactPaths directory names)

end BuildBench.Run
