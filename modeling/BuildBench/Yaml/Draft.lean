import BuildBench.Yaml.Token

set_option autoImplicit false

/-! The node tree that tokens spell, before aliases are looked up. A missing node counts as an empty
plain scalar. -/

namespace BuildBench.Yaml

/-- What may stand before a node: a name for it, and a tag. -/
structure Properties where
  anchor : Option String
  tag : Option Tag
  deriving DecidableEq, Repr

def Properties.none : Properties where
  anchor := Option.none
  tag := Option.none

/-- A node whose aliases are names. -/
inductive Draft
  | alias (name : String)
  | scalar (properties : Properties) (style : Style) (text : String)
  | sequence (properties : Properties) (items : List Draft)
  | mapping (properties : Properties) (entries : List (Draft × Draft))
  deriving Repr

namespace Draft

def missing : Draft :=
  .scalar .none .plain ""

/-- The handles of tags that every document has. -/
def usualHandles : List (String × Tag) :=
  [("!", .mark), ("!!", .schema "")]

/-! ### Properties -/

/-- The tag that a handle and a suffix stand for. A tag without handle is its suffix. -/
def tagOf? (handles : List (String × Tag)) (handle : String) (suffix : Tag) : Option Tag :=
  if handle.isEmpty then some suffix
  else (handles.lookup handle).map fun lead => ⟨lead.bytes ++ suffix.bytes⟩

/-- The properties at the front: an anchor, a tag, or both in either order. -/
def readProperties (handles : List (String × Tag)) :
    List Token → Option (Properties × List Token)
  | .anchor name :: .tag handle suffix :: rest =>
      (tagOf? handles handle suffix).map fun tag => ({ anchor := name, tag := some tag }, rest)
  | .tag handle suffix :: .anchor name :: rest =>
      (tagOf? handles handle suffix).map fun tag => ({ anchor := name, tag := some tag }, rest)
  | .anchor name :: rest => some ({ anchor := name, tag := none }, rest)
  | .tag handle suffix :: rest =>
      (tagOf? handles handle suffix).map fun tag => ({ anchor := none, tag := some tag }, rest)
  | tokens => some (.none, tokens)

/-! ### Nodes -/

/-- The next token of a block mapping ends a key or a value that is missing. -/
def endsBlockPart : List Token → Bool
  | .key :: _ => true
  | .value :: _ => true
  | .blockEnd :: _ => true
  | _ => false

/-- The next token of a block sequence ends an entry that is missing. -/
def endsBlockEntry : List Token → Bool
  | .blockEntry :: _ => true
  | .blockEnd :: _ => true
  | _ => false

/-- The next token ends the entry of a sequence that is not indented. -/
def endsLooseEntry (tokens : List Token) : Bool :=
  endsBlockEntry tokens || endsBlockPart tokens

/-- The next token of a flow mapping ends a key or a value that is missing. -/
def endsFlowPart : List Token → Bool
  | .flowEntry :: _ => true
  | .flowMappingEnd :: _ => true
  | _ => false

/-- The next token of a flow sequence ends a value that is missing. -/
def endsFlowItem : List Token → Bool
  | .flowEntry :: _ => true
  | .flowSequenceEnd :: _ => true
  | _ => false

mutual

/-- A node at the front. `block` admits block collections, and `loose` a sequence whose hyphens are
not indented. Every call takes a token or hands on to one that does, so twice the number of tokens
bounds the steps. -/
def readNode (handles : List (String × Tag)) :
    Nat → (block loose : Bool) → List Token → Option (Draft × List Token)
  | 0, _, _, _ => none
  | steps + 1, block, loose, tokens =>
      match tokens with
      | .alias name :: rest => some (.alias name, rest)
      | _ =>
          match readProperties handles tokens with
          | none => none
          | some (properties, rest) =>
              match rest with
              | .blockEntry :: _ =>
                  if loose then
                    (readLooseItems handles steps [] rest).map fun (items, rest) =>
                      (.sequence properties items, rest)
                  else orMissing properties rest
              | .scalar style text :: rest =>
                  some (.scalar properties style text, rest)
              | .flowSequence :: rest =>
                  (readFlowItems handles steps true [] rest).map fun (items, rest) =>
                    (.sequence properties items, rest)
              | .flowMapping :: rest =>
                  (readFlowEntries handles steps true [] rest).map fun (entries, rest) =>
                    (.mapping properties entries, rest)
              | .blockSequence :: inner =>
                  if block then
                    (readBlockItems handles steps [] inner).map fun (items, rest) =>
                      (.sequence properties items, rest)
                  else orMissing properties rest
              | .blockMapping :: inner =>
                  if block then
                    (readBlockEntries handles steps [] inner).map fun (entries, rest) =>
                      (.mapping properties entries, rest)
                  else orMissing properties rest
              | _ => orMissing properties rest
where
  /-- Properties may stand alone, for an empty scalar. -/
  orMissing (properties : Properties) (rest : List Token) : Option (Draft × List Token) :=
    if properties = .none then none
    else some (.scalar properties .plain "", rest)

/-- The entries of a block sequence; `held` has those before, the last one first. -/
def readBlockItems (handles : List (String × Tag)) :
    Nat → List Draft → List Token → Option (List Draft × List Token)
  | 0, _, _ => none
  | steps + 1, held, tokens =>
      match tokens with
      | .blockEntry :: rest =>
          if endsBlockEntry rest then readBlockItems handles steps (missing :: held) rest
          else
            match readNode handles steps true false rest with
            | none => none
            | some (item, rest) => readBlockItems handles steps (item :: held) rest
      | .blockEnd :: rest => some (held.reverse, rest)
      | _ => none

/-- The entries of a sequence whose hyphens stand at the column of the keys around it. It ends
before the first token that is no hyphen. -/
def readLooseItems (handles : List (String × Tag)) :
    Nat → List Draft → List Token → Option (List Draft × List Token)
  | 0, _, _ => none
  | steps + 1, held, tokens =>
      match tokens with
      | .blockEntry :: rest =>
          if endsLooseEntry rest then readLooseItems handles steps (missing :: held) rest
          else
            match readNode handles steps true false rest with
            | none => none
            | some (item, rest) => readLooseItems handles steps (item :: held) rest
      | _ => some (held.reverse, tokens)

/-- A key or a value of a block mapping, after its mark. -/
def readBlockPart (handles : List (String × Tag)) :
    Nat → List Token → Option (Draft × List Token)
  | 0, _ => none
  | steps + 1, tokens =>
      if endsBlockPart tokens then some (missing, tokens)
      else readNode handles steps true true tokens

def readBlockEntries (handles : List (String × Tag)) :
    Nat → List (Draft × Draft) → List Token → Option (List (Draft × Draft) × List Token)
  | 0, _, _ => none
  | steps + 1, held, tokens =>
      match tokens with
      | .key :: rest =>
          match readBlockPart handles steps rest with
          | none => none
          | some (key, .value :: rest) =>
              match readBlockPart handles steps rest with
              | none => none
              | some (value, rest) =>
                  readBlockEntries handles steps ((key, value) :: held) rest
          | some (key, rest) => readBlockEntries handles steps ((key, missing) :: held) rest
      | .blockEnd :: rest => some (held.reverse, rest)
      | _ => none

/-- The items of a flow sequence. An item with a question mark or a colon is a mapping of one
entry. -/
def readFlowItems (handles : List (String × Tag)) :
    Nat → (first : Bool) → List Draft → List Token → Option (List Draft × List Token)
  | 0, _, _, _ => none
  | steps + 1, first, held, tokens =>
      match tokens with
      | .flowSequenceEnd :: rest => some (held.reverse, rest)
      | _ =>
          match first, tokens with
          | false, .flowEntry :: rest => readFlowItem handles steps held rest
          | false, _ => none
          | true, _ => readFlowItem handles steps held tokens

/-- One item of a flow sequence and those after it, behind a comma or the opening bracket. -/
def readFlowItem (handles : List (String × Tag)) :
    Nat → List Draft → List Token → Option (List Draft × List Token)
  | 0, _, _ => none
  | steps + 1, held, tokens =>
      match tokens with
      | .flowSequenceEnd :: rest => some (held.reverse, rest)
      | .key :: rest =>
          match readFlowPair handles steps rest with
          | none => none
          | some (pair, rest) =>
              readFlowItems handles steps false (.mapping .none [pair] :: held) rest
      | _ =>
          match readNode handles steps false false tokens with
          | none => none
          | some (item, rest) => readFlowItems handles steps false (item :: held) rest

/-- The one entry of a mapping that is an item of a flow sequence, after the mark of its key. The
token that shows the key to be missing is passed over with it. -/
def readFlowPair (handles : List (String × Tag)) :
    Nat → List Token → Option ((Draft × Draft) × List Token)
  | 0, _ => none
  | steps + 1, tokens =>
      match tokens with
      | .value :: rest => readPairValue handles steps missing rest
      | .flowEntry :: rest => readPairValue handles steps missing rest
      | .flowSequenceEnd :: rest => readPairValue handles steps missing rest
      | _ =>
          match readNode handles steps false false tokens with
          | none => none
          | some (key, rest) => readPairValue handles steps key rest

def readPairValue (handles : List (String × Tag)) :
    Nat → Draft → List Token → Option ((Draft × Draft) × List Token)
  | 0, _, _ => none
  | steps + 1, key, tokens =>
      match tokens with
      | .value :: rest =>
          if endsFlowItem rest then some ((key, missing), rest)
          else
            (readNode handles steps false false rest).map fun (value, rest) =>
              ((key, value), rest)
      | _ => some ((key, missing), tokens)

def readFlowEntries (handles : List (String × Tag)) :
    Nat → (first : Bool) → List (Draft × Draft) → List Token →
      Option (List (Draft × Draft) × List Token)
  | 0, _, _, _ => none
  | steps + 1, first, held, tokens =>
      match tokens with
      | .flowMappingEnd :: rest => some (held.reverse, rest)
      | _ =>
          match first, tokens with
          | false, .flowEntry :: rest => readFlowMember handles steps held rest
          | false, _ => none
          | true, _ => readFlowMember handles steps held tokens

/-- One entry of a flow mapping and those after it, behind a comma or the opening brace. A node
without a mark is a key without a value. -/
def readFlowMember (handles : List (String × Tag)) :
    Nat → List (Draft × Draft) → List Token → Option (List (Draft × Draft) × List Token)
  | 0, _, _ => none
  | steps + 1, held, tokens =>
      match tokens with
      | .flowMappingEnd :: rest => some (held.reverse, rest)
      | .key :: .value :: rest => readFlowValue handles steps missing held (.value :: rest)
      | .key :: rest =>
          if endsFlowPart rest then readFlowValue handles steps missing held rest
          else
            match readNode handles steps false false rest with
            | none => none
            | some (key, rest) => readFlowValue handles steps key held rest
      | _ =>
          match readNode handles steps false false tokens with
          | none => none
          | some (key, rest) =>
              readFlowEntries handles steps false ((key, missing) :: held) rest

/-- The value of an entry of a flow mapping, and the entries after it. -/
def readFlowValue (handles : List (String × Tag)) :
    Nat → Draft → List (Draft × Draft) → List Token →
      Option (List (Draft × Draft) × List Token)
  | 0, _, _, _ => none
  | steps + 1, key, held, tokens =>
      match tokens with
      | .value :: rest =>
          if endsFlowPart rest then
            readFlowEntries handles steps false ((key, missing) :: held) rest
          else
            match readNode handles steps false false rest with
            | none => none
            | some (value, rest) =>
                readFlowEntries handles steps false ((key, value) :: held) rest
      | _ => readFlowEntries handles steps false ((key, missing) :: held) tokens

end

/-! ### Documents -/

/-- The directives at the front of a document: the handles they define, whether a version was given,
and what follows. A version is 1.1 or 1.2 and given once, and so is each handle. -/
def readDirectives (handles : List (String × Tag)) (versioned : Bool) :
    List Token → Option (List (String × Tag) × List Token)
  | .version major minor :: rest =>
      if versioned || major ≠ 1 || (minor ≠ 1 && minor ≠ 2) then none
      else readDirectives handles true rest
  | .tagHandle handle lead :: rest =>
      if (handles.lookup handle).isSome then none
      else readDirectives (handles ++ [(handle, lead)]) versioned rest
  | tokens => some (handles, tokens)

/-- Only document ends and the end of the text follow. -/
def onlyEnds : List Token → Bool
  | .documentEnd :: rest => onlyEnds rest
  | [.streamEnd] => true
  | _ => false

/-- The root of a document without directives and marks. -/
def readBare (tokens : List Token) : Option Draft :=
  match readNode usualHandles (4 * tokens.length + 4) true false tokens with
  | some (root, rest) => if onlyEnds rest then some root else none
  | none => none

/-- A document that begins with a mark may be empty. -/
def isEmptyContent : List Token → Bool
  | .version _ _ :: _ => true
  | .tagHandle _ _ :: _ => true
  | .documentStart :: _ => true
  | .documentEnd :: _ => true
  | .streamEnd :: _ => true
  | _ => false

/-- The root of a document behind its mark. -/
def readMarked (handles : List (String × Tag)) (tokens : List Token) : Option Draft :=
  if isEmptyContent tokens then if onlyEnds tokens then some missing else none
  else
    match readNode handles (4 * tokens.length + 4) true false tokens with
    | some (root, rest) => if onlyEnds rest then some root else none
    | none => none

def ofTokens? (tokens : List Token) : Option Draft :=
  match tokens with
  | .version _ _ :: _ | .tagHandle _ _ :: _ | .documentStart :: _ =>
      match readDirectives [] false tokens with
      | some (handles, .documentStart :: rest) => readMarked (handles ++ usualHandles) rest
      | _ => none
  | .streamEnd :: _ => none
  | _ => readBare tokens

end Draft

end BuildBench.Yaml
