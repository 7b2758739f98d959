import BuildBench.Yaml.Glyph

set_option autoImplicit false

/-! White space inside a scalar. Blanks within a line stay; a single line break becomes a space, and
of several breaks the first is dropped. Blanks around breaks are dropped. -/

namespace BuildBench.Yaml

/-- White space that was passed since the last character of a scalar. -/
structure Gap where
  /-- A line break was passed. -/
  broken : Bool
  blanks : List Char
  /-- The first line break. An escaped one leaves none. -/
  first : List Char
  further : List Char
  deriving DecidableEq, Repr

namespace Gap

def none : Gap where
  broken := false
  blanks := []
  first := []
  further := []

/-- The gap that an escaped line break leaves. -/
def escapedBreak : Gap where
  broken := true
  blanks := []
  first := []
  further := []

def isOpen (gap : Gap) : Bool :=
  gap.broken || !gap.blanks.isEmpty

/-- The gap with one more blank. -/
def addBlank (gap : Gap) (c : Char) : Gap :=
  if gap.broken then gap else { gap with blanks := gap.blanks ++ [c] }

def addBreak (gap : Gap) (c : Char) : Gap :=
  if gap.broken then { gap with further := gap.further ++ [c] }
  else { broken := true, blanks := [], first := [c], further := [] }

def fold (gap : Gap) : List Char :=
  if !gap.broken then gap.blanks
  else if gap.first = ['\n'] then
    if gap.further.isEmpty then [' '] else gap.further
  else gap.first ++ gap.further

end Gap

end BuildBench.Yaml
