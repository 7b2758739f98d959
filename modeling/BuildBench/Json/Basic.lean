import BuildBench.Number.Binary64

set_option autoImplicit false

/-! JSON documents as values. An object holds its members in ascending order of their names, each
name once. -/

namespace BuildBench.Json

/-- A JSON document. A number is a whole number where its text says so and it fits a word of 64
bits, and a double otherwise. -/
inductive Value
  | null
  | bool (value : Bool)
  | integer (value : Int)
  | double (value : Number.Binary64)
  | text (value : String)
  | array (items : List Value)
  | object (members : List (String × Value))
  deriving Inhabited, Repr

/-- Puts a member into an object's list of members. A member of the same name gives way. -/
def insertMember (name : String) (value : Value) :
    List (String × Value) → List (String × Value)
  | [] => [(name, value)]
  | (head, held) :: rest =>
      if name < head then (name, value) :: (head, held) :: rest
      else if name = head then (name, value) :: rest
      else (head, held) :: insertMember name value rest

/-- The object of a list of members, a later one winning over an earlier one of its name. -/
def Value.ofMembers (members : List (String × Value)) : Value :=
  .object (members.foldl (fun held member => insertMember member.1 member.2 held) [])

/-- The value under a name, if the document is an object that has it. -/
def Value.member? (name : String) : Value → Option Value
  | .object members => (members.find? (·.1 == name)).map (·.2)
  | _ => none

end BuildBench.Json
