import BuildBench.Text.Blank
import BuildBench.Yaml.Reading

set_option autoImplicit false

/-! Reading a document whose form is known: mappings with fields of given names, lists, texts and
numbers. A field that nobody asks for is passed over unread. -/

namespace BuildBench.Yaml.Reading

/-! ### Scalars -/

/-- A text: any scalar as it is written, whatever its tag. -/
def text (node : Node) : Reading String := do
  match ← follow node with
  | .scalar _ _ _ text => return text
  | _ => fail

/-- A whole number below `bound` without minus, written plainly. A literal scalar serves if its
tag says that it is a whole number. -/
def natural (bound : Nat) (node : Node) : Reading Nat := do
  match ← follow node with
  | .scalar _ tag style text =>
      if style = .plain ∨ (style = .literal ∧ tag = some (Tag.schema "int")) then
        match Plain.readSigned? text.toList with
        | some (false, value) => if value < bound then return value else fail
        | _ => fail
      else fail
  | _ => fail

def quantity (node : Node) : Reading Number.Binary64 := do
  match ← follow node with
  | .scalar _ tag style text =>
      if (tag.bind Tag.localName?).isSome then fail
      else
        match scalarValue? tag style text with
        | some (.integer value) => return .ofInt value
        | some (.double value) => return value
        | some (.text value) => ofOption (Number.Decimal.read (Text.trimChars value.toList))
        | _ => fail
  | _ => fail

/-- A node stands for nothing: an empty plain scalar without tag, or a spelling of null. A plain
scalar whose tag says that it is null must be one. -/
def isMissing (node : Node) : Reading Bool := do
  match node with
  | .scalar _ none .plain text => return text.isEmpty || Plain.isNull text
  | .scalar _ (some tag) .plain text =>
      if tag = .schema "null" then if Plain.isNull text then return true else fail
      else return false
  | _ => return false

def optional {α : Type} (reading : Node → Reading α) (node : Node) : Reading (Option α) := do
  let node ← follow node
  if ← isMissing node then return none else return some (← reading node)

/-! ### Collections -/

/-- A list. An empty plain scalar is a list without items. -/
def list {α : Type} (reading : Node → Reading α) (node : Node) : Reading (List α) := do
  match ← follow node with
  | .sequence _ _ items => items.mapM reading
  | .scalar _ _ .plain text => if text.isEmpty then return [] else fail
  | _ => fail

/-- The fields of a mapping under their names. An empty plain scalar is a mapping without fields. -/
def fields (node : Node) : Reading (List (String × Node)) := do
  match ← follow node with
  | .mapping _ _ entries => entries.mapM fun (key, value) => return (← text key, value)
  | .scalar _ _ .plain text => if text.isEmpty then return [] else fail
  | _ => fail

/-- A field that may be absent. No field that is asked for may come twice. -/
def field? {α : Type} (entries : List (String × Node)) (name : String)
    (reading : Node → Reading α) : Reading (Option α) := do
  match entries.filter (·.1 == name) with
  | [] => return none
  | [(_, node)] => return some (← reading node)
  | _ => fail

def field {α : Type} (entries : List (String × Node)) (name : String)
    (reading : Node → Reading α) : Reading α := do
  ofOption (← field? entries name reading)

/-- A field that may be absent or stand for nothing. -/
def optionalField? {α : Type} (entries : List (String × Node)) (name : String)
    (reading : Node → Reading α) : Reading (Option α) := do
  return (← field? entries name (optional reading)).join

/-- A field with a value for when it is absent. -/
def fieldD {α : Type} (entries : List (String × Node)) (name : String)
    (reading : Node → Reading α) (default : α) : Reading α := do
  return (← field? entries name reading).getD default

/-- A mapping of any entries, as values with at most so many collections inside each other. An empty
plain scalar is a mapping without entries. -/
def entries (depth : Nat) (node : Node) : Reading (List (Value × Value)) := do
  match ← follow node with
  | .mapping _ _ entries =>
      let entries ← entries.mapM fun (key, held) => return (← value depth key, ← value depth held)
      ofOption (distinct? entries)
  | .scalar _ _ .plain text => if text.isEmpty then return [] else fail
  | _ => fail

end BuildBench.Yaml.Reading
