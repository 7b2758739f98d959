import BuildBench.Yaml.Tag

set_option autoImplicit false

/-! The tokens of a YAML text. Indentation shows as tokens that open and close block collections. -/

namespace BuildBench.Yaml

/-- How a scalar is written, as far as its value can depend on it. -/
inductive Style
  | plain
  | literal
  /-- Folded, or in quotes. -/
  | marked
  deriving DecidableEq, Repr

inductive Token
  | version (major minor : Nat)
  | tagHandle (handle : String) (lead : Tag)
  | documentStart
  | documentEnd
  | blockSequence
  | blockMapping
  | blockEnd
  | flowSequence
  | flowSequenceEnd
  | flowMapping
  | flowMappingEnd
  | blockEntry
  | flowEntry
  | key
  | value
  | alias (name : String)
  | anchor (name : String)
  /-- A tag without handle is its suffix. -/
  | tag (handle : String) (suffix : Tag)
  | scalar (style : Style) (text : String)
  | streamEnd
  deriving DecidableEq, Repr

end BuildBench.Yaml
