import BuildBench.Entry.Id

set_option autoImplicit false

/-! The read position of a consumer inside its group. -/

namespace BuildBench.Entry

open BuildBench.Text

inductive Cursor
  /-- Entries that were never delivered to any consumer of the group. -/
  | undelivered
  /-- The consumer's own pending entries with ids above the given one. -/
  | after (id : Id)
  deriving DecidableEq, Repr

namespace Cursor

/-- The position in the words of a read command. -/
def toText : Cursor → String
  | .undelivered => ">"
  | .after id => id.toText

/-- A delivered entry moves the position to its id. -/
def advance (_ : Cursor) (id : Id) : Cursor :=
  .after id

/-- A read without an entry means that the pending entries are exhausted. -/
def exhaust (_ : Cursor) : Cursor :=
  .undelivered

def isUndelivered : Cursor → Bool
  | .undelivered => true
  | .after _ => false

/-- Reads a position: an id, `>`, or nothing, which means the same as `>`. -/
def read (text : String) : Except InvalidId Cursor :=
  let trimmed := trimChars text.toList
  if trimmed = [] ∨ trimmed = ['>'] then .ok .undelivered
  else (Id.read (String.ofList trimmed)).map .after

end Cursor

end BuildBench.Entry
