import BuildBench.Json.Reader
import BuildBench.Json.Writer

set_option autoImplicit false

/-! Strings of JSON text. Main statement: any text, whatever controls, quotes and backslashes are in
it, is read back as it was written, up to its closing quote. -/

namespace BuildBench.Json

open BuildBench.Number

/-- The escape of a control has its code in four digits. -/
theorem fourHex?_twoHexDigits {code : Nat} (control : code < 0x20) (rest : List Char) :
    fourHex? ('0' :: '0' :: twoHexDigits code ++ rest) = some code := by
  have digits : ∀ code < 0x20,
      readNatural? 16 ['0', '0', Nat.digitChar (code / 16), Nat.digitChar (code % 16)] =
        some code := by
    decide
  exact digits code control

theorem readEscape_control {c : Char} (control : c.toNat < 0x20) (rest : List Char) :
    readEscape ('u' :: '0' :: '0' :: twoHexDigits c.toNat ++ rest) = some (c, 5) := by
  have unit := fourHex?_twoHexDigits control rest
  have code : readCodeEscape ('0' :: '0' :: twoHexDigits c.toNat ++ rest) = some (c, 4) := by
    simp only [readCodeEscape, unit, bind, Option.bind]
    rw [if_neg (by omega), if_neg (by omega), Char.ofNat_toNat]
  rw [List.cons_append, List.cons_append] at code
  simp [readEscape, code]

theorem readStringChars_escape {value : Char} {escape rest : List Char}
    (read : readEscape (escape ++ rest) = some (value, escape.length)) :
    readStringChars ('\\' :: escape ++ rest) =
      (readStringChars rest).map fun (chars, after) => (value :: chars, after) := by
  rw [List.cons_append, readStringChars, if_neg (by decide), if_pos rfl, read]
  simp

/-- A character is read back, with or without an escape. -/
theorem readStringChars_escapedChar (c : Char) (rest : List Char) :
    readStringChars (escapedChar c ++ rest) =
      (readStringChars rest).map fun (chars, after) => (c :: chars, after) := by
  have named {mark value : Char} (read : readEscape (mark :: rest) = some (value, 1)) :
      readStringChars (['\\', mark] ++ rest) =
        (readStringChars rest).map fun (chars, after) => (value :: chars, after) :=
    readStringChars_escape read
  unfold escapedChar
  by_cases quote : c = '\x22'
  · rw [if_pos quote, quote]
    exact named rfl
  rw [if_neg quote]
  by_cases backslash : c = '\\'
  · rw [if_pos backslash, backslash]
    exact named rfl
  rw [if_neg backslash]
  by_cases backspace : c.toNat = 0x08
  · rw [if_pos backspace, ← Char.ofNat_toNat c, backspace]
    exact named rfl
  rw [if_neg backspace]
  by_cases formFeed : c.toNat = 0x0C
  · rw [if_pos formFeed, ← Char.ofNat_toNat c, formFeed]
    exact named rfl
  rw [if_neg formFeed]
  by_cases lineFeed : c = '\n'
  · rw [if_pos lineFeed, lineFeed]
    exact named rfl
  rw [if_neg lineFeed]
  by_cases carriageReturn : c = '\r'
  · rw [if_pos carriageReturn, carriageReturn]
    exact named rfl
  rw [if_neg carriageReturn]
  by_cases tab : c = '\t'
  · rw [if_pos tab, tab]
    exact named rfl
  rw [if_neg tab]
  by_cases control : c.toNat < 0x20
  · rw [if_pos control]
    exact readStringChars_escape (readEscape_control control rest)
  · rw [if_neg control, List.singleton_append, readStringChars, if_neg quote, if_neg backslash,
      if_neg control]

/-- What was written is read back up to the closing quote. -/
theorem readStringChars_written (text : List Char) (rest : List Char) :
    readStringChars (text.flatMap escapedChar ++ '\x22' :: rest) = some (text, rest) := by
  induction text with
  | nil => rw [List.flatMap_nil, List.nil_append, readStringChars, if_pos rfl]
  | cons c others ih =>
      rw [List.flatMap_cons, List.append_assoc, readStringChars_escapedChar, ih]
      rfl

theorem writeString_append (text : String) (rest : List Char) :
    writeString text ++ rest = '\x22' :: (text.toList.flatMap escapedChar ++ '\x22' :: rest) := by
  simp [writeString]

theorem readString_written (text : String) (rest : List Char) :
    readString (text.toList.flatMap escapedChar ++ '\x22' :: rest) = some (text, rest) := by
  simp [readString, readStringChars_written]

end BuildBench.Json
