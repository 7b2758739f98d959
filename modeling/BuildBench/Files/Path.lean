import BuildBench.Text.Pieces

set_option autoImplicit false

/-! Path names as text: joining, the steps that a path takes, and file name extensions. -/

namespace BuildBench.Files

open BuildBench.Text

/-- The path of `name` seen from a directory. An absolute name stays as it is. -/
def joinPath (directory name : String) : String :=
  if name.toList.head? = some '/' then name
  else if directory.isEmpty ∨ directory.toList.getLast? = some '/' then directory ++ name
  else directory ++ "/" ++ name

def isAbsolute (path : String) : Bool :=
  path.toList.head? == some '/'

/-- The names that a path steps through. A slash at the end asks for a directory: it is one more
step, without a name, that stays in place. -/
def steps (path : String) : List String :=
  let names := (piecesOf '/' path).filter (!·.isEmpty)
  if !names.isEmpty && path.toList.getLast? == some '/' then names ++ [""] else names

/-- A step that stays in place. -/
def staysInPlace (name : String) : Bool :=
  name.isEmpty || name == "."

/-- The path of the directory in which the last name of a path stands. -/
def parentPath (path : String) : String :=
  let before := path.toList.reverse.dropWhile (· ≠ '/')
  if before.isEmpty then "." else String.ofList before.reverse

/-- The extension of a file name: what follows its last point, if something stands before the
point. -/
def extension? (name : String) : Option String :=
  let chars := name.toList.reverse
  match chars.dropWhile (· ≠ '.') with
  | '.' :: before =>
      if before.isEmpty then none else some (String.ofList (chars.takeWhile (· ≠ '.')).reverse)
  | _ => none

end BuildBench.Files
