import BuildBench.Number.Shortest
import BuildBench.Text.Pieces
import BuildBench.Text.Quoted

set_option autoImplicit false

/-! YAML documents as values, where a document may hold any. -/

namespace BuildBench.Yaml

open BuildBench.Number BuildBench.Text

/-- A value. A tag that is local to the document stays with its value. -/
inductive Value
  | null
  | bool (value : Bool)
  | integer (value : Int)
  | double (value : Binary64)
  | text (value : String)
  | sequence (items : List Value)
  | mapping (entries : List (Value × Value))
  | tagged (tag : String) (value : Value)
  deriving Inhabited, Repr

/-- Doubles are written as in JSON, but for a power of ten without plus, and for the special
values. -/
def doubleLayout : Layout where
  tie := .even
  positional := fun point => decide (-5 < point) && decide (point ≤ 16)
  wholeSuffix := ['.', '0']
  exponentMark := []
  infinity := ".inf"
  nan := ".nan"

namespace Value

/-! ### Equality -/

/-- The mark of a tag, once. -/
def tagText (tag : String) : String :=
  match tag.toList with
  | '!' :: c :: rest => String.ofList ('!' :: c :: rest)
  | _ => "!" ++ tag

mutual

/-- Equality of values. Two undefined doubles are equal, and the entries of mappings have no
order. -/
def same : Value → Value → Bool
  | .null, .null => true
  | .bool left, .bool right => left == right
  | .integer left, .integer right => left == right
  | .double left, .double right => left.sameValue right
  | .text left, .text right => left == right
  | .sequence left, .sequence right => sameItems left right
  | .mapping left, .mapping right => left.length == right.length && entriesIn left right
  | .tagged leftTag left, .tagged rightTag right =>
      tagText leftTag == tagText rightTag && same left right
  | _, _ => false

def sameItems : List Value → List Value → Bool
  | [], [] => true
  | left :: leftRest, right :: rightRest => same left right && sameItems leftRest rightRest
  | _, _ => false

/-- Every entry of the one mapping is in the other. -/
def entriesIn : List (Value × Value) → List (Value × Value) → Bool
  | [], _ => true
  | (key, value) :: rest, other =>
      (other.any fun entry => same key entry.1 && same value entry.2) && entriesIn rest other

end

/-! ### Text -/

def numberText? : Value → Option String
  | .integer value => some (toString value)
  | .double value => some (doubleLayout.write value)
  | _ => none

/-- The text of a scalar: numbers in digits, truth values as `yes` and `no`. Nothing, collections
and tagged values have none. -/
def scalarText? : Value → Option String
  | .text value => some value
  | .bool true => some "yes"
  | .bool false => some "no"
  | .integer value => numberText? (.integer value)
  | .double value => numberText? (.double value)
  | _ => none

def boolText (value : Bool) : String :=
  if value then "true" else "false"

mutual

/-- The value with its structure shown, as messages have it. -/
def shown : Value → String
  | .null => "Null"
  | .bool value => "Bool(" ++ boolText value ++ ")"
  | .integer value => "Number(" ++ toString value ++ ")"
  | .double value => "Number(" ++ doubleLayout.write value ++ ")"
  | .text value => "String(" ++ quoted value ++ ")"
  | .sequence items => "Sequence [" ++ join ", " (shownItems items) ++ "]"
  | .mapping entries => "Mapping \x7b" ++ join ", " (shownEntries entries) ++ "\x7d"
  | .tagged tag value =>
      "TaggedValue \x7b tag: " ++ tagText tag ++ ", value: " ++ shown value ++ " \x7d"

def shownItems : List Value → List String
  | [] => []
  | item :: rest => shown item :: shownItems rest

def shownEntries : List (Value × Value) → List String
  | [] => []
  | (key, value) :: rest => (shownKey key ++ ": " ++ shown value) :: shownEntries rest

/-- A key, shown. Scalars need no word before them here. -/
def shownKey : Value → String
  | .bool value => boolText value
  | .integer value => toString value
  | .double value => doubleLayout.write value
  | .text value => quoted value
  | key => shown key

end

end Value

end BuildBench.Yaml
