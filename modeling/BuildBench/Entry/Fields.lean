import BuildBench.Text.Utf8

set_option autoImplicit false

/-! The fields of a stream entry: named byte strings, each name once. -/

namespace BuildBench.Entry

/-- Named byte strings in the order in which their names first came. -/
structure Fields where
  entries : List (String × Bytes)
  deriving DecidableEq, Repr, Inhabited

namespace Fields

/-- Puts a value under a name among others. An older value of the name gives way. -/
def insertInto (name : String) (value : Bytes) :
    List (String × Bytes) → List (String × Bytes)
  | [] => [(name, value)]
  | (head, held) :: rest =>
      if head = name then (head, value) :: rest else (head, held) :: insertInto name value rest

def empty : Fields where
  entries := []

def insert (fields : Fields) (name : String) (value : Bytes) : Fields where
  entries := insertInto name value fields.entries

/-- The fields of a list of names and values; of a repeated name the last value stays. -/
def ofList (entries : List (String × Bytes)) : Fields :=
  entries.foldl (fun fields entry => fields.insert entry.1 entry.2) empty

def get? (fields : Fields) (name : String) : Option Bytes :=
  fields.entries.lookup name

/-- The fields whose names are not among the given ones. -/
def without (fields : Fields) (names : List String) : Fields where
  entries := fields.entries.filter fun entry => !names.contains entry.1

end Fields

end BuildBench.Entry
