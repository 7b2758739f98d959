import BuildBench.Text.Utf8

set_option autoImplicit false

/-! Text with the control sequences of terminals in it, and what is left when they are taken out. A
sequence begins with the escape character. Many end with a letter; those that carry strings run up
to a terminator of their own. -/

namespace BuildBench.Text.Terminal

/-- Where a reader stands: outside of sequences, or in one of them. -/
inductive Place
  | outside
  /-- Behind the escape character. -/
  | escape
  /-- Behind signs that follow the escape character. -/
  | escapeSigns
  /-- In a sequence that a bracket begins. -/
  | bracket
  /-- At the beginning of a string for the device. -/
  | device
  /-- In the numbers at the beginning of a string for the device. -/
  | deviceNumbers
  /-- In the signs at the beginning of a string for the device. -/
  | deviceSigns
  /-- In a string that runs up to the string terminator. -/
  | hidden
  /-- In a command that runs up to a bell. -/
  | command
  deriving DecidableEq, Repr

/-- The escape character. -/
def escapeChar : Char := Char.ofNat 0x1B

/-- Two control characters cancel any sequence. -/
def cancels (code : Nat) : Bool :=
  code == 0x18 || code == 0x1A

/-- The last byte of the string terminator's long form. -/
def terminatorByte : UInt8 := 0x9C

/-- The place behind the letter or mark that follows the escape character. Most end a sequence, and
some begin one that goes on. -/
def placeBehindEscape (c : Char) : Place :=
  if c = '[' then .bracket
  else if c = ']' then .command
  else if c = 'P' then .device
  else if c = 'X' ∨ c = '^' ∨ c = '_' then .hidden
  else .outside

/-- The place behind an ASCII character that neither begins nor cancels a sequence. In most places
control characters and the delete character change nothing, signs go on, and a letter ends what
began. -/
def Place.after (place : Place) (c : Char) : Place :=
  let code := c.toNat
  let stays := code < 0x20 ∨ code = 0x7F
  let isSign := code < 0x30
  let isNumber := code < 0x3C ∧ code ≠ 0x3A
  match place with
  | .outside => .outside
  | .escape => if stays then .escape else if isSign then .escapeSigns else placeBehindEscape c
  | .escapeSigns => if stays ∨ isSign then .escapeSigns else .outside
  | .bracket => if stays ∨ code < 0x40 then .bracket else .outside
  | .device =>
      if stays then .device
      else if isSign then .deviceSigns
      else if code < 0x40 ∧ code ≠ 0x3A then .deviceNumbers
      else .hidden
  | .deviceNumbers =>
      if stays then .deviceNumbers
      else if isSign then .deviceSigns
      else if isNumber then .deviceNumbers
      else .hidden
  | .deviceSigns => if stays ∨ isSign then .deviceSigns else .hidden
  | .hidden => .hidden
  | .command => if code = 0x07 then .outside else .command

/-- The place behind a character. Beyond ASCII only the string terminator's byte is looked for. -/
def Place.next (place : Place) (c : Char) : Place :=
  if c = escapeChar then .escape
  else if cancels c.toNat then .outside
  else if c.toNat < 0x80 then place.after c
  else if place = .hidden ∧ (Utf8.encode [c]).contains terminatorByte then .outside
  else place

/-- Control characters that leave a blank. -/
def isBlankControl (c : Char) : Bool :=
  c == '\t' || c == '\n' || c == '\r' || c.toNat == 0x0C

/-- A character shows at a place. Blank controls show in sequences too, but not in strings. -/
def Place.shows (place : Place) (c : Char) : Bool :=
  match place with
  | .outside => isBlankControl c || (decide (0x20 ≤ c.toNat) && c.toNat != 0x7F)
  | .escape | .escapeSigns | .bracket => isBlankControl c
  | .device | .deviceNumbers | .deviceSigns | .hidden | .command => false

/-- The characters that show, from a place on. Once one shows, those behind it show as they do
outside of sequences, up to the first that does not. -/
def shownFrom (place : Place) (running : Bool) : List Char → List Char
  | [] => []
  | c :: rest =>
      if (running && Place.outside.shows c) || place.shows c then
        c :: shownFrom (if c.toNat < 0x80 then place else .outside) true rest
      else shownFrom (place.next c) false rest

def shown (text : String) : String :=
  String.ofList (shownFrom .outside false text.toList)

/-! ### Styles -/

/-- A text in a style that a number stands for. It ends all styles. -/
def styled (number : Nat) (text : String) : String :=
  let sequence := fun (number : Nat) => String.ofList [escapeChar, '['] ++ s!"{number}m"
  sequence number ++ text ++ sequence 0

/-- The numbers of styles. -/
def boldStyle : Nat := 1

/-- The style of what is wrong. -/
def yellowStyle : Nat := 33

end BuildBench.Text.Terminal
