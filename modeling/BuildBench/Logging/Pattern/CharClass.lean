import BuildBench.Logging.Pattern.Atom

set_option autoImplicit false

/-! Character classes of patterns: brackets around characters, ranges, named classes of ASCII and
further classes, with operators between them. A reader tells how deep a class is and what follows
it. -/

namespace BuildBench.Logging.Pattern

def asciiClassNames : List String :=
  ["alnum", "alpha", "ascii", "blank", "cntrl", "digit", "graph", "lower", "print", "punct",
    "space", "upper", "word", "xdigit"]

/-- A named class behind its bracket: whether it is negated, and what follows it. -/
def readNamedClass? : List Char → Option (Bool × List Char)
  | ':' :: rest =>
      let (negated, rest) :=
        match rest with
        | '^' :: rest => (true, rest)
        | _ => (false, rest)
      let name := String.ofList (rest.takeWhile (· ≠ ':'))
      match rest.dropWhile (· ≠ ':') with
      | ':' :: ']' :: rest => if asciiClassNames.contains name then some (negated, rest) else none
      | _ => none
  | _ => none

/-- Parts that stand side by side: how many there are, and the depth of the deepest. -/
structure Group where
  count : Nat
  depth : Nat
  deriving DecidableEq, Repr

namespace Group

def flat (count : Nat) : Group where
  count := count
  depth := 0

def add (group : Group) (depth : Nat) : Group where
  count := group.count + 1
  depth := max group.depth depth

/-- The depth of the group as one part. A part alone is its own group. -/
def whole (group : Group) : Nat :=
  if group.count ≤ 1 then group.depth else group.depth + 1

/-- The depth of the group behind an operator and what stands before that. -/
def behind (group : Group) : Option Nat → Nat
  | some left => max left group.whole + 1
  | none => group.whole

end Group

/-- The next character that counts, when it is asked whether a hyphen stands for itself. The number
sign of a comment is passed, but not the comment. -/
def nextBehindHyphen (mode : Mode) (text : List Char) : Option Char :=
  if mode.spaced then
    match text.dropWhile Text.isBlank with
    | '#' :: rest => (rest.dropWhile Text.isBlank).head?
    | rest => rest.head?
  else text.head?

/-- The atom at the front of a text in a class. -/
def readClassAtom? (mode : Mode) : List Char → Option (Atom × List Char)
  | [] => none
  | '\\' :: rest => Atom.readEscape? mode rest
  | c :: rest => some (.literal c false, rest)

/-- The end of a range that begins with an atom, behind the hyphen. Both ends are characters. -/
def readRangeEnd? (mode : Mode) (first : Atom) (text : List Char) : Option (List Char) := do
  let (last, rest) ← readClassAtom? mode (mode.passSpace text)
  match first, last with
  | .literal low _, .literal high _ =>
      if first.isAllowedInClass mode && last.isAllowedInClass mode && decide (low ≤ high) then
        some rest
      else none
  | _, _ => none

/-- Passes an atom or a range. A hyphen before a bracket or another hyphen makes no range. -/
def passRange? (mode : Mode) (text : List Char) : Option (List Char) := do
  let (atom, rest) ← readClassAtom? mode text
  let rest := mode.passSpace rest
  match rest with
  | '-' :: after =>
      let next := nextBehindHyphen mode after
      if next = some ']' ∨ next = some '-' then
        if atom.isAllowedInClass mode then some rest else none
      else readRangeEnd? mode atom after
  | _ => if atom.isAllowedInClass mode then some rest else none

/-- A class may be negated. The rest of one that ends with ASCII would hold parts of characters. -/
def mayNegate (mode : Mode) (negated : Bool) : Bool :=
  mode.unicode || !negated

def passHyphens (mode : Mode) (count : Nat) : Nat → List Char → Nat × List Char
  | 0, text => (count, text)
  | steps + 1, text =>
      match text with
      | '-' :: rest => passHyphens mode (count + 1) steps (mode.passSpace rest)
      | _ => (count, text)

/-- The literal characters at the front of a class: hyphens, or a closing bracket. -/
def passLiterals (mode : Mode) (text : List Char) : Nat × List Char :=
  match passHyphens mode 0 text.length text with
  | (0, ']' :: rest) => (1, mode.passSpace rest)
  | (count, rest) => (count, rest)

/-- A class behind its bracket: whether it is negated, the number of literal characters at its
front, and what follows them. -/
def readClassStart? (mode : Mode) (text : List Char) : Option (Nat × List Char) :=
  let (negated, text) :=
    match mode.passSpace text with
    | '^' :: rest => (true, mode.passSpace rest)
    | rest => (false, rest)
  let (count, rest) := passLiterals mode text
  if mayNegate mode negated && (count == 0 || !mode.needsCases) then some (count, rest) else none

mutual

/-- A class behind its bracket: its depth, and what follows it. Each call takes a character, so
their number bounds the steps. -/
def readClass? (mode : Mode) : Nat → List Char → Option (Nat × List Char)
  | 0, _ => none
  | steps + 1, text =>
      match readClassStart? mode text with
      | some (count, rest) => readClassRest? mode steps none (.flat count) rest
      | none => none

/-- The rest of a class. `left` is the depth of what stands before the last operator, and `group`
has the parts behind it. -/
def readClassRest? (mode : Mode) :
    Nat → (left : Option Nat) → (group : Group) → List Char → Option (Nat × List Char)
  | 0, _, _, _ => none
  | steps + 1, left, group, text =>
      match mode.passSpace text with
      | ']' :: rest => some (group.behind left + 1, rest)
      | '[' :: rest =>
          match readNamedClass? rest with
          | some (negated, rest) =>
              if mayNegate mode negated && !mode.needsCases then
                readClassRest? mode steps left (group.add 0) rest
              else none
          | none =>
              match readClass? mode steps rest with
              | some (depth, rest) => readClassRest? mode steps left (group.add depth) rest
              | none => none
      | '&' :: '&' :: rest
      | '-' :: '-' :: rest
      | '~' :: '~' :: rest =>
          readClassRest? mode steps (some (group.behind left)) (.flat 0) rest
      | text =>
          match passRange? mode text with
          | some rest => readClassRest? mode steps left (group.add 0) rest
          | none => none

end

end BuildBench.Logging.Pattern
