import BuildBench.Number.Decimal
import Mathlib.Data.List.TakeWhile

set_option autoImplicit false

/-! The characters of a decimal number. Main statement: a text with a comma in it is no number. Each
part of a number that is read leaves the comma for the next one, and the last part takes none. -/

namespace BuildBench.Number.Decimal

variable {text : List Char}

theorem comma_mem_sign (comma : ',' ∈ text) : ',' ∈ (sign text).2 := by
  unfold sign
  split
  · exact List.mem_of_ne_of_mem (by decide) comma
  · exact List.mem_of_ne_of_mem (by decide) comma
  · exact comma

theorem comma_mem_digitRun (comma : ',' ∈ text) : ',' ∈ (digitRun text).2 := by
  have parts : text.takeWhile Char.isDigit ++ text.dropWhile Char.isDigit = text :=
    List.takeWhile_append_dropWhile
  rw [← parts, List.mem_append] at comma
  rcases comma with digit | later
  · have isDigit : Char.isDigit ',' = true := List.mem_takeWhile_imp digit
    exact absurd isDigit (by decide)
  · exact later

theorem comma_mem_fraction (comma : ',' ∈ text) : ',' ∈ (fraction text).2 := by
  unfold fraction
  split
  · exact comma_mem_digitRun (List.mem_of_ne_of_mem (by decide) comma)
  · exact comma

theorem exponentPart_of_comma (comma : ',' ∈ text) : exponentPart text = none := by
  cases text with
  | nil => cases comma
  | cons mark rest =>
      rw [exponentPart]
      by_cases marked : mark = 'e' ∨ mark = 'E'
      · have apart : ',' ≠ mark := by
          rintro rfl
          exact absurd marked (by decide)
        have later := comma_mem_sign (List.mem_of_ne_of_mem apart comma)
        have digits : (sign rest).2.all Char.isDigit = false := by
          rw [List.all_eq_false]
          exact ⟨',', later, by decide⟩
        rw [if_pos marked]
        dsimp only
        rw [digits, Bool.and_false]
        rfl
      · rw [if_neg marked]

theorem read_of_comma (comma : ',' ∈ text) : read text = none := by
  have magnitude := comma_mem_sign comma
  have named : ',' ∈ (sign text).2.map Char.toLower := List.mem_map.mpr ⟨',', magnitude, by decide⟩
  have other (name : List Char) (plain : ',' ∉ name) : (sign text).2.map Char.toLower ≠ name :=
    fun same => plain (same ▸ named)
  have left := exponentPart_of_comma (comma_mem_fraction (comma_mem_digitRun magnitude))
  unfold read
  dsimp only
  rw [if_neg (not_or.mpr ⟨other _ (by decide), other _ (by decide)⟩), if_neg (other _ (by decide)),
    readDigits]
  dsimp only
  rw [left]
  exact ite_self _

end BuildBench.Number.Decimal
