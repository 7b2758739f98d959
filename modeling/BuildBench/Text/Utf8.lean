set_option autoImplicit false

/-! Reading bytes as UTF-8. A strict reader reports where the text stops being UTF-8, a lenient
one puts the replacement character in place of each maximal part that is not UTF-8. -/

namespace BuildBench

abbrev Bytes := List UInt8

namespace Text.Utf8

/-- Where and how a byte sequence stops being UTF-8. -/
inductive Defect
  /-- The bytes from `index` on begin a character that the end of the text cuts off. -/
  | incomplete (index : Nat)
  /-- The `length` bytes from `index` on begin no character. -/
  | invalid (index length : Nat)
  deriving DecidableEq, Repr

def Defect.message : Defect → String
  | .incomplete index => s!"incomplete utf-8 byte sequence from index {index}"
  | .invalid index length => s!"invalid utf-8 sequence of {length} bytes from index {index}"

/-- What the front of a byte sequence holds. -/
inductive Front
  | char (c : Char) (size : Nat)
  | invalid (size : Nat)
  | incomplete

/-- Bytes of the form `10xxxxxx` continue a character. -/
def isContinuation (byte : UInt8) : Bool :=
  0x80 ≤ byte && byte ≤ 0xBF

/-- The six payload bits of a continuation byte. -/
def payload (byte : UInt8) : Nat :=
  byte.toNat % 64

/-- A three-byte character starts with `0xE0` to `0xEF`; the second byte must rule out overlong
forms and surrogates. -/
def secondOfThree (first second : UInt8) : Bool :=
  if first = 0xE0 then 0xA0 ≤ second && second ≤ 0xBF
  else if first = 0xED then 0x80 ≤ second && second ≤ 0x9F
  else isContinuation second

/-- A four-byte character starts with `0xF0` to `0xF4`; the second byte must rule out overlong
forms and code points above `0x10FFFF`. -/
def secondOfFour (first second : UInt8) : Bool :=
  if first = 0xF0 then 0x90 ≤ second && second ≤ 0xBF
  else if first = 0xF4 then 0x80 ≤ second && second ≤ 0x8F
  else isContinuation second

/-- The character at the front of `first :: rest`, or the length of the part that is none. -/
def front (first : UInt8) (rest : List UInt8) : Front :=
  if first < 0x80 then .char (Char.ofNat first.toNat) 1
  else if 0xC2 ≤ first && first ≤ 0xDF then
    match rest with
    | [] => .incomplete
    | second :: _ =>
        if isContinuation second then
          .char (Char.ofNat (first.toNat % 32 * 64 + payload second)) 2
        else .invalid 1
  else if 0xE0 ≤ first && first ≤ 0xEF then
    match rest with
    | [] => .incomplete
    | second :: more =>
        if secondOfThree first second then
          match more with
          | [] => .incomplete
          | third :: _ =>
              if isContinuation third then
                .char (Char.ofNat
                  (first.toNat % 16 * 4096 + payload second * 64 + payload third)) 3
              else .invalid 2
        else .invalid 1
  else if 0xF0 ≤ first && first ≤ 0xF4 then
    match rest with
    | [] => .incomplete
    | second :: more =>
        if secondOfFour first second then
          match more with
          | [] => .incomplete
          | third :: more =>
              if isContinuation third then
                match more with
                | [] => .incomplete
                | fourth :: _ =>
                    if isContinuation fourth then
                      .char (Char.ofNat (first.toNat % 8 * 262144 + payload second * 4096 +
                        payload third * 64 + payload fourth)) 4
                    else .invalid 3
              else .invalid 2
        else .invalid 1
  else .invalid 1

/-- Reads the bytes that stand at `index` of the whole text. -/
def decodeFrom (index : Nat) : List UInt8 → Except Defect (List Char)
  | [] => .ok []
  | first :: rest =>
      match front first rest with
      | .char c size =>
          match decodeFrom (index + size) (rest.drop (size - 1)) with
          | .ok chars => .ok (c :: chars)
          | .error defect => .error defect
      | .invalid size => .error (.invalid index size)
      | .incomplete => .error (.incomplete index)
  termination_by bytes => bytes.length
  decreasing_by simp only [List.length_cons, List.length_drop]; omega

/-- Reads a text that must be UTF-8 throughout. -/
def decode (bytes : List UInt8) : Except Defect (List Char) :=
  decodeFrom 0 bytes

def decodeString (bytes : List UInt8) : Except Defect String :=
  (decode bytes).map String.ofList

/-- Stands for a part that is not UTF-8. -/
def replacement : Char := Char.ofNat 0xFFFD

/-- Reads any bytes, with one replacement character for each maximal part that is not UTF-8. -/
def decodeLossy : List UInt8 → List Char
  | [] => []
  | first :: rest =>
      match front first rest with
      | .char c size => c :: decodeLossy (rest.drop (size - 1))
      | .invalid size => replacement :: decodeLossy (rest.drop (size - 1))
      | .incomplete => [replacement]
  termination_by bytes => bytes.length
  decreasing_by all_goals simp only [List.length_cons, List.length_drop]; omega

def encode (text : List Char) : List UInt8 :=
  text.flatMap String.utf8EncodeChar

def encodeString (text : String) : List UInt8 :=
  encode text.toList

end Text.Utf8

end BuildBench
