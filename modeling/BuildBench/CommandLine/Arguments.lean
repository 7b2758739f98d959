import BuildBench.CommandLine.Opt
import BuildBench.Text.Pieces
import BuildBench.Text.Terminal

set_option autoImplicit false

/-! Arguments as options with values. The value of an option is looked at when the next option
begins, or at the end: an argument that no one knows is found out before a bad value in front of
it. -/

namespace BuildBench.CommandLine

open BuildBench.Text

inductive Error
  | unexpectedArgument (argument : String)
  | unexpectedValue (option : Opt) (value : String)
  | missingValue (option : Opt)
  | invalidValue (option : Opt) (value reason : String)
  | repeated (option : Opt)
  deriving DecidableEq, Repr

inductive Piece
  | plain (text : String)
  | wrong (text : String)
  /-- What is known to be right. -/
  | right (text : String)
  deriving DecidableEq, Repr

def Piece.styled : Piece → String
  | .plain text => text
  | .wrong text => Terminal.styled Terminal.yellowStyle text
  | .right text => Terminal.styled Terminal.boldStyle text

def Error.pieces : Error → List Piece
  | .unexpectedArgument argument =>
      [.plain "unexpected argument '", .wrong argument, .plain "' found"]
  | .unexpectedValue option value =>
      [.plain "unexpected value '", .wrong value, .plain "' for '", .right option.shown,
        .plain "' found; no more were expected"]
  | .missingValue option =>
      [.plain "a value is required for '", .wrong option.shown,
        .plain "' but none was supplied"]
  | .invalidValue option value reason =>
      [.plain "invalid value '", .wrong value, .plain "' for '", .right option.shown,
        .plain s!"': {reason}"]
  | .repeated option =>
      [.plain "the argument '", .wrong option.shown, .plain "' cannot be used multiple times"]

/-- What is said of an error: its wording, and where help is to be had. Control sequences in the
arguments are taken out together with the styles. -/
def Error.complaint (error : Error) : String :=
  let hint : List Piece :=
    [.plain "\n\nFor more information, try '", .right "--help", .plain "'.\n"]
  let pieces := .right "error:" :: .plain " " :: error.pieces ++ hint
  Terminal.shown (join "" (pieces.map Piece.styled))

inductive Inquiry
  | help
  | version
  deriving DecidableEq, Repr

/-- Options with their values, in the order in which they were given. -/
abbrev Given := List (Opt × String)

inductive Stop
  | error (error : Error)
  | inquiry (inquiry : Inquiry)
  deriving DecidableEq, Repr

namespace Given

def has (given : Given) (option : Opt) : Bool :=
  given.any (·.1 == option)

def value? (given : Given) (option : Opt) : Option String :=
  given.lookup option

def refusal (option : Opt) (value : String) : Refusal → Error
  | .missing => .missingValue option
  | .because reason => .invalidValue option value reason

/-- Adds an option that was given with or without a value. None may come twice. -/
def add (given : Given) (option : Opt) (value? : Option String) : Except Error Given :=
  match option.value, value? with
  | some _, none => .error (.missingValue option)
  | _, value? =>
      if given.has option then .error (.repeated option)
      else
        let value := value?.getD ""
        match option.kind.check value with
        | .error cause => .error (refusal option value cause)
        | .ok () => .ok (given ++ [(option, value)])

end Given

structure Reader where
  given : Given
  /-- The option that was begun last, and its value if it has come. -/
  pending : Option (Opt × Option String)
  deriving DecidableEq, Repr

namespace Reader

def start : Reader where
  given := []
  pending := none

def settle (reader : Reader) : Except Error Given :=
  match reader.pending with
  | none => .ok reader.given
  | some (option, value?) => reader.given.add option value?

/-- Looks at the pending option and goes on with another one that is complete. -/
def add (reader : Reader) (option : Opt) (value? : Option String) : Except Error Reader := do
  let given ← reader.settle
  return { given := ← given.add option value?, pending := none }

/-- An argument that asks for something else than a run. -/
def inquiry? (name : String) : Option Inquiry :=
  if name = "help" then some .help
  else if name = "version" then some .version
  else none

/-- How messages show an inquiry that was given a value. -/
def inquiryOpt (name : String) : Opt where
  name := name
  value := none
  kind := .text
  variableName := none

def inquire (reader : Reader) (inquiry : Inquiry) : Stop :=
  match reader.settle with
  | .error error => .error error
  | .ok _ => .inquiry inquiry

/-- An error ends the reading. -/
def orStop {α : Type} : Except Error α → Except Stop α
  | .ok value => .ok value
  | .error error => .error (.error error)

/-- Reads an argument that begins with two hyphens. The value of an option may follow its name
behind an equals sign. -/
def readLong (reader : Reader) (name : String) (value? : Option String) : Except Stop Reader :=
  match inquiry? name, value? with
  | some inquiry, none => .error (reader.inquire inquiry)
  | some _, some value => .error (.error (.unexpectedValue (inquiryOpt name) value))
  | none, value? =>
      match Opt.all.find? (·.name == name) with
      | none => .error (.error (.unexpectedArgument ("--" ++ name)))
      | some option =>
          match option.value, value? with
          | some _, some value => orStop (reader.add option (some value))
          | some _, none => orStop do
              return { given := ← reader.settle, pending := some (option, none) }
          | none, some value => .error (.error (.unexpectedValue option value))
          | none, none => orStop (reader.add option none)

def readShort (reader : Reader) (first : Char) : Stop :=
  if first = 'h' then reader.inquire .help
  else if first = 'V' then reader.inquire .version
  else .error (.unexpectedArgument (String.ofList ['-', first]))

/-- Reads any other argument: the value of the pending option. -/
def readValue (reader : Reader) (argument : String) : Except Stop Reader :=
  match reader.pending with
  | some (option, none) => .ok { reader with pending := some (option, some argument) }
  | _ => .error (.error (.unexpectedArgument argument))

/-- Reads arguments one after the other. Behind two hyphens alone nothing is an option, and there
may be nothing. -/
def read (reader : Reader) : List String → Except Stop Given
  | [] => orStop reader.settle
  | argument :: rest =>
      match argument.toList with
      | ['-', '-'] =>
          match rest with
          | [] => orStop reader.settle
          | next :: _ => .error (.error (.unexpectedArgument next))
      | '-' :: '-' :: long =>
          let (name, value?) := Text.cut '=' long
          match reader.readLong (String.ofList name) (value?.map String.ofList) with
          | .error stop => .error stop
          | .ok reader => read reader rest
      | '-' :: first :: _ => .error (reader.readShort first)
      | _ =>
          match reader.readValue argument with
          | .error stop => .error stop
          | .ok reader => read reader rest

end Reader

def readArguments (arguments : List String) : Except Stop Given :=
  Reader.start.read arguments

end BuildBench.CommandLine
