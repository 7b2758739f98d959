import BuildBench.Yaml.Draft
import BuildBench.Yaml.Token.Stream

set_option autoImplicit false

/-! The node tree of a document, with numbers in place of the names of anchors. A name that is given
again gets a new number. Numbers count the different names, so that they are not always different:
of the nodes that carry a number the last one is meant. -/

namespace BuildBench.Yaml

/-- A node. -/
inductive Node
  | alias (number : Nat)
  | scalar (anchor : Option Nat) (tag : Option Tag) (style : Style) (text : String)
  | sequence (anchor : Option Nat) (tag : Option Tag) (items : List Node)
  | mapping (anchor : Option Nat) (tag : Option Tag) (entries : List (Node × Node))
  deriving Inhabited, Repr

namespace Node

/-! ### Numbers for names -/

/-- Gives a name a number among the names so far. -/
def putName (name : String) (number : Nat) : List (String × Nat) → List (String × Nat)
  | [] => [(name, number)]
  | (head, held) :: rest =>
      if head = name then (head, number) :: rest else (head, held) :: putName name number rest

/-- The number of an anchor, if there is one: how many names there are before it. -/
def numberAnchor (names : List (String × Nat)) :
    Option String → Option Nat × List (String × Nat)
  | none => (none, names)
  | some name => (some names.length, putName name names.length names)

mutual

/-- The node that a draft means, after the names given so far. Only a name given before can be an
alias. -/
def ofDraft? (names : List (String × Nat)) : Draft → Option (Node × List (String × Nat))
  | .alias name => (names.lookup name).map fun number => (.alias number, names)
  | .scalar properties style text =>
      let (anchor, names) := numberAnchor names properties.anchor
      some (.scalar anchor properties.tag style text, names)
  | .sequence properties items =>
      let (anchor, names) := numberAnchor names properties.anchor
      (ofItems? names items).map fun (items, names) =>
        (.sequence anchor properties.tag items, names)
  | .mapping properties entries =>
      let (anchor, names) := numberAnchor names properties.anchor
      (ofEntries? names entries).map fun (entries, names) =>
        (.mapping anchor properties.tag entries, names)

def ofItems? (names : List (String × Nat)) :
    List Draft → Option (List Node × List (String × Nat))
  | [] => some ([], names)
  | item :: rest =>
      match ofDraft? names item with
      | none => none
      | some (item, names) =>
          (ofItems? names rest).map fun (rest, names) => (item :: rest, names)

def ofEntries? (names : List (String × Nat)) :
    List (Draft × Draft) → Option (List (Node × Node) × List (String × Nat))
  | [] => some ([], names)
  | (key, value) :: rest =>
      match ofDraft? names key with
      | none => none
      | some (key, names) =>
          match ofDraft? names value with
          | none => none
          | some (value, names) =>
              (ofEntries? names rest).map fun (rest, names) => ((key, value) :: rest, names)

end

/-! ### Nodes for numbers -/

def labelled (node : Node) : Option Nat → List (Nat × Node)
  | some number => [(number, node)]
  | none => []

mutual

/-- The nodes that carry numbers, in the order of their beginnings. -/
def anchored : Node → List (Nat × Node)
  | .alias _ => []
  | .scalar anchor tag style text => labelled (.scalar anchor tag style text) anchor
  | .sequence anchor tag items =>
      labelled (.sequence anchor tag items) anchor ++ anchoredItems items
  | .mapping anchor tag entries =>
      labelled (.mapping anchor tag entries) anchor ++ anchoredEntries entries

def anchoredItems : List Node → List (Nat × Node)
  | [] => []
  | item :: rest => anchored item ++ anchoredItems rest

def anchoredEntries : List (Node × Node) → List (Nat × Node)
  | [] => []
  | (key, value) :: rest => anchored key ++ anchored value ++ anchoredEntries rest

end

mutual

/-- The size of a node: one for a leaf, two for a collection beside its parts. -/
def size : Node → Nat
  | .alias _ => 1
  | .scalar _ _ _ _ => 1
  | .sequence _ _ items => sizeItems items + 2
  | .mapping _ _ entries => sizeEntries entries + 2

def sizeItems : List Node → Nat
  | [] => 0
  | item :: rest => size item + sizeItems rest

def sizeEntries : List (Node × Node) → Nat
  | [] => 0
  | (key, value) :: rest => size key + size value + sizeEntries rest

end

end Node

/-- A document: its root, and the nodes that aliases lead to. -/
structure Document where
  root : Node
  targets : List (Nat × Node)
  deriving Inhabited, Repr

namespace Document

def ofText? (text : String) : Option Document := do
  let tokens ← tokens? text.toList
  let draft ← Draft.ofTokens? tokens
  let (root, _) ← Node.ofDraft? [] draft
  return { root, targets := root.anchored.reverse }

def target? (document : Document) (number : Nat) : Option Node :=
  document.targets.lookup number

/-- Readers may follow so many aliases, counted over the whole document. -/
def aliasLimit (document : Document) : Nat :=
  100 * document.root.size

end Document

end BuildBench.Yaml
