import BuildBench.Json.Reader
import BuildBench.Json.Writer

set_option autoImplicit false

/-! Numbers in the middle of JSON text. Main statement: what is read as a double by itself is read as
that double also in front of more text, if the text does not go on as a number. -/

namespace BuildBench.Json

open BuildBench.Number

/-- The text does not begin with a character that a number could go on with. -/
def Stops (text : List Char) : Prop :=
  ∀ c ∈ text.head?, c.isDigit = false ∧ c ≠ '.' ∧ c ≠ 'e' ∧ c ≠ 'E'

namespace Stops

variable {rest : List Char}

theorem nil : Stops [] := by
  intro c member
  cases member

theorem of_head {c : Char} (rest : List Char)
    (other : c.isDigit = false ∧ c ≠ '.' ∧ c ≠ 'e' ∧ c ≠ 'E') : Stops (c :: rest) := by
  rintro _ ⟨⟩
  exact other

theorem takeWhile_append (stops : Stops rest) (text : List Char) :
    (text ++ rest).takeWhile Char.isDigit = text.takeWhile Char.isDigit := by
  induction text with
  | nil =>
      cases rest with
      | nil => rfl
      | cons c others => simp [(stops c rfl).1]
  | cons c others ih =>
      rw [List.cons_append, List.takeWhile_cons, List.takeWhile_cons, ih]

theorem dropWhile_append (stops : Stops rest) (text : List Char) :
    (text ++ rest).dropWhile Char.isDigit = text.dropWhile Char.isDigit ++ rest := by
  induction text with
  | nil =>
      cases rest with
      | nil => rfl
      | cons c others => simp [(stops c rfl).1]
  | cons c others ih =>
      rw [List.cons_append, List.dropWhile_cons, List.dropWhile_cons, ih]
      split <;> rfl

theorem takeWord_append (stops : Stops rest) (value size : Nat) (text : List Char) :
    takeWord value size (text ++ rest) =
      { takeWord value size text with rest := (takeWord value size text).rest ++ rest } := by
  induction text generalizing value size with
  | nil =>
      cases rest with
      | nil => rfl
      | cons c others => simp [takeWord, (stops c rfl).1]
  | cons c others ih =>
      rw [List.cons_append, takeWord, takeWord]
      by_cases digit : c.isDigit = true
      · rw [if_pos digit, if_pos digit]
        dsimp only
        split
        · exact ih _ _
        · rfl
      · rw [if_neg digit, if_neg digit]
        rfl

/-! ### The parts of a number -/

section Parts

variable {negative : Bool} {word : Nat} {exponent : Int} {text after : List Char} {value : Value}

theorem sign_append (filled : text ≠ []) (rest : List Char) :
    Decimal.sign (text ++ rest) = ((Decimal.sign text).1, (Decimal.sign text).2 ++ rest) := by
  obtain ⟨c, others, rfl⟩ := List.exists_cons_of_ne_nil filled
  by_cases minus : c = '-'
  · subst minus
    rfl
  by_cases plus : c = '+'
  · subst plus
    rfl
  have unsigned (more : List Char) : Decimal.sign (c :: more) = (false, c :: more) := by
    unfold Decimal.sign
    split
    · rename_i same
      exact absurd (List.cons.inj same).1 minus
    · rename_i same
      exact absurd (List.cons.inj same).1 plus
    · rfl
  rw [List.cons_append, unsigned, unsigned]
  rfl

theorem readPower_append (stops : Stops rest)
    (read : readPower negative word exponent text = some (value, after)) :
    readPower negative word exponent (text ++ rest) = some (value, after ++ rest) := by
  have filled : text ≠ [] := by
    rintro rfl
    cases read
  unfold readPower at read ⊢
  rw [sign_append filled]
  dsimp only at read ⊢
  rw [stops.takeWhile_append, stops.dropWhile_append]
  split at read
  · cases read
  · rename_i digits
    rw [if_neg digits]
    split at read
    · rename_i small
      rw [if_pos small]
      rw [Option.map_eq_some_iff] at read ⊢
      obtain ⟨found, made, same⟩ := read
      cases same
      exact ⟨_, made, rfl⟩
    · rename_i large
      rw [if_neg large]
      split at read
      · cases read
      · rename_i lost
        cases read
        rw [if_neg lost]

theorem finishDouble_append (stops : Stops rest)
    (read : finishDouble negative word exponent text = some (value, after)) :
    finishDouble negative word exponent (text ++ rest) = some (value, after ++ rest) := by
  cases text with
  | nil =>
      obtain ⟨found, made, same⟩ := Option.map_eq_some_iff.mp read
      cases same
      cases rest with
      | nil => exact read
      | cons c others =>
          have unmarked : ¬(c = 'e' ∨ c = 'E') := not_or.mpr (stops c rfl).2.2
          rw [List.nil_append, finishDouble, if_neg unmarked, made]
          rfl
  | cons c others =>
      rw [List.cons_append, finishDouble]
      rw [finishDouble] at read
      by_cases marked : c = 'e' ∨ c = 'E'
      · rw [if_pos marked] at read ⊢
        exact readPower_append stops read
      · rw [if_neg marked] at read ⊢
        obtain ⟨found, made, same⟩ := Option.map_eq_some_iff.mp read
        cases same
        rw [made]
        rfl

theorem readFraction_append (stops : Stops rest)
    (read : readFraction negative word exponent text = some (value, after)) :
    readFraction negative word exponent (text ++ rest) = some (value, after ++ rest) := by
  unfold readFraction at read ⊢
  rw [stops.takeWhile_append, stops.takeWord_append]
  dsimp only at read ⊢
  rw [stops.dropWhile_append]
  split at read
  · cases read
  · rename_i digits
    rw [if_neg digits]
    exact finishDouble_append stops read

/-- What follows the digits of a number without a point. -/
def finishWhole (negative : Bool) (word : Nat) (dropped text : List Char) :
    Option (Value × List Char) :=
  if dropped.isEmpty && !(text.head? == some 'e' || text.head? == some 'E') then
    some (wholeOrDouble negative word, text)
  else finishDouble negative word dropped.length text

theorem finishWhole_append {dropped : List Char} (stops : Stops rest)
    (read : finishWhole negative word dropped text = some (value, after)) :
    finishWhole negative word dropped (text ++ rest) = some (value, after ++ rest) := by
  have marks : ((text ++ rest).head? == some 'e' || (text ++ rest).head? == some 'E') =
      (text.head? == some 'e' || text.head? == some 'E') := by
    cases text with
    | cons c others => rfl
    | nil =>
        cases rest with
        | nil => rfl
        | cons c others => simp [stops c rfl]
  unfold finishWhole at read ⊢
  rw [marks]
  split at read
  · rename_i whole
    rw [if_pos whole]
    cases read
    rfl
  · rename_i double
    rw [if_neg double]
    exact finishDouble_append stops read

theorem readNumber_append (stops : Stops rest)
    (read : readNumber negative text = some (value, after)) :
    readNumber negative (text ++ rest) = some (value, after ++ rest) := by
  unfold readNumber at read ⊢
  rw [stops.takeWhile_append, stops.takeWord_append]
  dsimp only at read ⊢
  rw [stops.takeWhile_append, stops.dropWhile_append]
  generalize (takeWord 0 0 text).rest.dropWhile Char.isDigit = left at read ⊢
  split at read
  · cases read
  · rename_i digits
    rw [if_neg digits]
    split at read
    · exact readFraction_append stops read
    · rename_i noPoint
      split
      · rename_i fraction same
        -- The point would have to be at the front of what follows the number.
        cases left with
        | nil => exact absurd rfl (stops '.' (by simp at same; simp [same])).2.1
        | cons c others =>
            rw [List.cons_append, List.cons.injEq] at same
            exact absurd (by rw [same.1]) (noPoint others)
      · exact finishWhole_append stops read

end Parts

end Stops

end BuildBench.Json
