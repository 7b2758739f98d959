import BuildBench.Yaml.Node
import BuildBench.Yaml.Plain
import BuildBench.Yaml.Value

set_option autoImplicit false

/-! Reading a document. Readers follow aliases, and the document bounds how many they follow in all,
so that a short text cannot stand for a value of any size. -/

namespace BuildBench.Yaml

/-- A reader of a document. Its state is the number of aliases that may still be followed. -/
abbrev Reading (α : Type) := ReaderT Document (StateT Nat Option) α

namespace Reading

/-- The document does not have the form that is read. -/
def fail {α : Type} : Reading α :=
  fun _ _ => none

/-- Something that may be missing, taken as a failure then. -/
def ofOption {α : Type} : Option α → Reading α
  | some value => pure value
  | none => fail

/-- The node that an alias leads to; any other node is itself. -/
def follow (node : Node) : Reading Node := do
  match node with
  | .alias number =>
      match ← get with
      | 0 => fail
      | aliases + 1 =>
          set aliases
          ofOption ((← read).target? number)
  | node => return node

/-- Reads the only document of a text. -/
def run {α : Type} (reading : Node → Reading α) (text : String) : Option α := do
  let document ← Document.ofText? text
  let (value, _) ← reading document.root document document.aliasLimit
  return value

/-! ### Values -/

/-- The value of a plain scalar. A whole number that fits no word of 64 bits has none. -/
def plainValue? (text : String) : Option Value :=
  match Plain.ofText text with
  | .null => some .null
  | .bool value => some (.bool value)
  | .integer value => some (.integer value)
  | .wideInteger => none
  | .double value => some (.double value)
  | .text => some (.text text)

/-- The value of a scalar without tag. Only a plain one is more than its text. -/
def untaggedValue? (style : Style) (text : String) : Option Value :=
  if style = .plain then plainValue? text else some (.text text)

/-- The value of a scalar. Four tags of the common schema say what the text has to be, in any
style. Every other tag but a local one makes it a text. -/
def scalarValue? (tag : Option Tag) (style : Style) (text : String) : Option Value :=
  match tag with
  | none => untaggedValue? style text
  | some tag =>
      if tag = .schema "bool" then (Plain.readBool? text).map .bool
      else if tag = .schema "int" then
        match Plain.readWhole? text.toList with
        | some (.integer value) => some (.integer value)
        | _ => none
      else if tag = .schema "float" then (Plain.readDouble? text).map .double
      else if tag = .schema "null" then if Plain.isNull text then some .null else none
      else if tag.isLocal then untaggedValue? style text
      else some (.text text)

/-- The entries of a mapping, none of whose keys may come twice. -/
def distinct? (entries : List (Value × Value)) : Option (List (Value × Value)) :=
  let known := fun (held : List (Value × Value)) (key : Value) => held.any (key.same ·.1)
  entries.foldl
    (fun held? entry => do
      let held ← held?
      if known held entry.1 then none else some (held ++ [entry]))
    (some [])

/-- A value under its tag, if that is a local one. -/
def withTag (tag : Option Tag) (value : Value) : Value :=
  match tag.bind Tag.localName? with
  | some name => .tagged name value
  | none => value

/-- The value of a node, with at most so many collections inside each other. -/
def value : Nat → Node → Reading Value
  | depth, node => do
      match ← follow node with
      | .alias _ => fail
      | .scalar _ tag style text =>
          match tag.bind Tag.localName? with
          | some name => return .tagged name (← ofOption (untaggedValue? style text))
          | none => ofOption (scalarValue? tag style text)
      | .sequence _ tag items =>
          match depth with
          | 0 => fail
          | depth + 1 => return withTag tag (.sequence (← items.mapM (value depth)))
      | .mapping _ tag entries =>
          match depth with
          | 0 => fail
          | depth + 1 =>
              let entries ← entries.mapM fun (key, held) =>
                return (← value depth key, ← value depth held)
              return withTag tag (.mapping (← ofOption (distinct? entries)))

end Reading

end BuildBench.Yaml
