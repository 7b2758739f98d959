import BuildBench.Number.Decimal
import BuildBench.Text.Blank
import BuildBench.Text.Pieces

set_option autoImplicit false

/-! Ids of stream entries: a time in milliseconds and a sequence number within it. Ids compare by
time first, then by sequence number. -/

namespace BuildBench.Entry

open BuildBench.Text

structure Id where
  time : UInt64
  sequence : UInt64
  deriving DecidableEq, Hashable, Repr, Inhabited

structure InvalidId where
  text : String
  deriving DecidableEq, Repr

def InvalidId.message (error : InvalidId) : String :=
  s!"invalid stream entry id: {error.text}"

namespace Id

instance : LT Id where
  lt left right :=
    left.time < right.time ∨ (left.time = right.time ∧ left.sequence < right.sequence)

instance : LE Id where
  le left right :=
    left.time < right.time ∨ (left.time = right.time ∧ left.sequence ≤ right.sequence)

instance (left right : Id) : Decidable (left < right) :=
  inferInstanceAs (Decidable (_ ∨ _))

instance (left right : Id) : Decidable (left ≤ right) :=
  inferInstanceAs (Decidable (_ ∨ _))

/-- Ids in ascending order; equal ids keep their places. -/
def sort (ids : List Id) : List Id :=
  ids.mergeSort fun left right => decide (left ≤ right)

def toText (id : Id) : String :=
  toString id.time.toNat ++ "-" ++ toString id.sequence.toNat

/-- A whole number that fits a word. -/
def readWord? (digits : List Char) : Option UInt64 :=
  match Number.readWhole (Number.wordBound 64) digits with
  | .ok value => some value.toUInt64
  | .error _ => none

/-- The id that the trimmed text `text` spells. A time without hyphen has the sequence number
zero. -/
def readTrimmed? (text : List Char) : Option Id :=
  let (time, sequence) := cut '-' text
  match readWord? time, readWord? (sequence.getD ['0']) with
  | some time, some sequence => some { time, sequence }
  | _, _ => none

/-- Reads an id, blanks around it aside. -/
def read (text : String) : Except InvalidId Id :=
  let trimmed := trimChars text.toList
  match readTrimmed? trimmed with
  | some id => .ok id
  | none => .error { text := String.ofList trimmed }

end Id

end BuildBench.Entry
