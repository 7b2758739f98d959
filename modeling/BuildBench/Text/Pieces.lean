set_option autoImplicit false

/-! Cutting a text at a character, and joining pieces with a separator. -/

namespace BuildBench.Text

/-- The pieces between the separators. There is always one more piece than there are
separators. -/
def pieces (separator : Char) : List Char → List (List Char)
  | [] => [[]]
  | c :: rest =>
      if c = separator then [] :: pieces separator rest
      else
        match pieces separator rest with
        | [] => [[c]]
        | head :: tail => (c :: head) :: tail

/-- The part before the first separator and, if there is a separator, the part after it. -/
def cut (separator : Char) (text : List Char) : List Char × Option (List Char) :=
  match text.dropWhile (· ≠ separator) with
  | [] => (text, none)
  | _ :: after => (text.takeWhile (· ≠ separator), some after)

def piecesOf (separator : Char) (text : String) : List String :=
  (pieces separator text.toList).map String.ofList

/-- The first line of a text. A line ends with a line feed, and a carriage return right before that
does not belong to it. -/
def firstLine (text : String) : String :=
  match cut '\n' text.toList with
  | (line, some _) =>
      if line.getLast? = some '\r' then String.ofList line.dropLast else String.ofList line
  | (line, none) => String.ofList line

/-- The pieces in order, with the separator between each two. -/
def join (separator : String) (parts : List String) : String :=
  String.intercalate separator parts

def occursIn (part : List Char) : List Char → Bool
  | [] => part.isEmpty
  | c :: rest => part.isPrefixOf (c :: rest) || occursIn part rest

end BuildBench.Text
