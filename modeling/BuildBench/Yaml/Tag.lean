import BuildBench.Text.Utf8

set_option autoImplicit false

/-! Tags of nodes. A tag is bytes, which need not be UTF-8. One that begins with an exclamation mark
is local to its document; the others belong to a schema. -/

namespace BuildBench.Yaml

/-- A tag. -/
structure Tag where
  bytes : Bytes
  deriving DecidableEq, Repr

namespace Tag

def ofString (text : String) : Tag where
  bytes := Text.Utf8.encodeString text

/-- A tag that says no more than that it is local. -/
def mark : Tag :=
  ofString "!"

/-- A tag of the common schema. -/
def schema (name : String) : Tag :=
  ofString ("tag:yaml.org,2002:" ++ name)

def markByte : UInt8 := 0x21

def isLocal (tag : Tag) : Bool :=
  tag.bytes.head? == some markByte

/-- The name of a local tag: what follows the mark, or the mark where it stands alone. A name that
is not UTF-8 is none. -/
def localName? (tag : Tag) : Option String :=
  match tag.bytes with
  | [] => none
  | first :: rest =>
      if first = markByte then
        (Text.Utf8.decodeString (if rest.isEmpty then [first] else rest)).toOption
      else none

end Tag

end BuildBench.Yaml
