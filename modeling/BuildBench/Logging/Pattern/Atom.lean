import BuildBench.Number.Digit
import BuildBench.Text.Blank

set_option autoImplicit false

/-! The smallest parts of the patterns that values of fields are compared with: literal characters
and escapes, and the options that decide which of them a pattern may hold. No table of Unicode
properties is at hand, so that all that would need one is refused: letter case, and classes and
edges of words, outside ASCII. Patterns match whole characters, so that all that could match a part
of one is refused too. -/

namespace BuildBench.Logging.Pattern

structure Mode where
  /-- A letter stands for both of its cases. -/
  foldsCase : Bool
  /-- Classes reach beyond ASCII. -/
  unicode : Bool
  /-- White space and comments do not count. -/
  spaced : Bool
  deriving DecidableEq, Repr

namespace Mode

def usual : Mode where
  foldsCase := false
  unicode := true
  spaced := false

/-- Passes white space and comments. A comment begins with a number sign and ends with its line. -/
def passComments (inComment : Bool) : List Char → List Char
  | [] => []
  | c :: rest =>
      if inComment then passComments (c != '\n') rest
      else if Text.isBlank c then passComments false rest
      else if c = '#' then passComments true rest
      else c :: rest

def passSpace (mode : Mode) (text : List Char) : List Char :=
  if mode.spaced then passComments false text else text

/-- Both cases of a character would have to be looked up. -/
def needsCases (mode : Mode) : Bool :=
  mode.foldsCase && mode.unicode

end Mode

/-- What a character or an escape stands for. -/
inductive Atom
  /-- A character. It may be given as a byte. -/
  | literal (c : Char) (byte : Bool)
  /-- The beginning or the end of a text. -/
  | edge
  /-- The beginning or the end of a word, or the inside of one. -/
  | wordEdge
  /-- The digits, the blanks, or the characters of words, or all others. -/
  | kind (negated : Bool)
  deriving DecidableEq, Repr

namespace Atom

def codeWidth? (c : Char) : Option Nat :=
  match c with
  | 'x' => some 2
  | 'u' => some 4
  | 'U' => some 8
  | _ => none

/-- Control characters have escapes of one letter. -/
def control? (c : Char) : Option Char :=
  match c with
  | 'a' => some (Char.ofNat 0x07)
  | 'f' => some (Char.ofNat 0x0C)
  | 't' => some '\t'
  | 'n' => some '\n'
  | 'r' => some '\r'
  | 'v' => some (Char.ofNat 0x0B)
  | _ => none

def readCode? (mode : Mode) : Nat → List Char → Option (List Char × List Char)
  | 0, text => some ([], text)
  | width + 1, text =>
      match mode.passSpace text with
      | [] => none
      | c :: rest => (readCode? mode width rest).map fun (digits, rest) => (c :: digits, rest)

/-- The character that a number in hexadecimal digits stands for. -/
def readNumbered? (mode : Mode) (width : Nat) (text : List Char) :
    Option (Atom × List Char) := do
  let (digits, rest) ← readCode? mode width text
  let code ← Number.readNatural? 16 digits
  if code.isValidChar then some (.literal (Char.ofNat code) (width == 2), rest) else none

/-- What an escape stands for, behind its backslash. Letters and digits that have no meaning cannot
be escaped, all other characters of ASCII can. -/
def readEscape? (mode : Mode) : List Char → Option (Atom × List Char)
  | [] => none
  | c :: rest =>
      match codeWidth? c, control? c with
      | some width, _ => readNumbered? mode width rest
      | none, some control => some (.literal control false, rest)
      | none, none =>
          if ['d', 's', 'w'].contains c then some (.kind false, rest)
          else if ['D', 'S', 'W'].contains c then some (.kind true, rest)
          else if ['A', 'z'].contains c then some (.edge, rest)
          else if ['b', 'B', '<', '>'].contains c then some (.wordEdge, rest)
          else if c.toNat < 0x80 && !c.isAlphanum then some (.literal c false, rest)
          else none

def isAllowed (mode : Mode) : Atom → Bool
  | .literal c byte => !mode.needsCases && (mode.unicode || !byte || decide (c.toNat < 0x80))
  | .edge => true
  | .wordEdge => !mode.unicode
  | .kind negated => !mode.unicode && !negated

def isAllowedInClass (mode : Mode) : Atom → Bool
  | .literal c _ => !mode.needsCases && (mode.unicode || decide (c.toNat < 0x80))
  | .edge => false
  | .wordEdge => false
  | .kind negated => !mode.unicode && !negated

end Atom

end BuildBench.Logging.Pattern
