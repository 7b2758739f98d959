import BuildBench.Proofs.Text.Parts
import BuildBench.Proofs.Tool.Words

set_option autoImplicit false

/-! Argument lists written as one line. Main statement: splitting the line gives the arguments back,
whatever they are, so that different argument lists are never written as the same line. -/

namespace BuildBench.Tool

open BuildBench.Text

/-! ### Plain arguments -/

theorem not_isBlank_of_isPlainChar {c : Char} (plain : isPlainChar c = true) :
    isBlank c = false := by
  rw [isPlainChar, Bool.or_eq_true] at plain
  rcases plain with alphanumeric | mark
  · exact not_isBlank_of_isAlphanum alphanumeric
  · simp only [List.contains_iff_mem, List.mem_cons, List.not_mem_nil, or_false] at mark
    rcases mark with rfl | rfl | rfl | rfl | rfl | rfl | rfl | rfl | rfl | rfl <;> decide

theorem ne_mark_of_isPlainChar {c : Char} (plain : isPlainChar c = true) :
    c ≠ '\x27' ∧ c ≠ '\x22' ∧ c ≠ '\\' := by
  refine ⟨?_, ?_, ?_⟩ <;> rintro rfl <;> exact absurd plain (by decide)

theorem wordsFrom_isPlainChar {c : Char} (plain : isPlainChar c = true)
    (word : Option (List Char)) (rest : List Char) :
    wordsFrom .bare word (c :: rest) = wordsFrom .bare (extend word c) rest := by
  have blank := not_isBlank_of_isPlainChar plain
  obtain ⟨single, double, escape⟩ := ne_mark_of_isPlainChar plain
  rw [wordsFrom_cons]
  simp [Mode.separates, Mode.next, Mode.extendWord, blank, single, double, escape]

/-- Plain characters go on with the word that is being read. -/
theorem wordsFrom_plain {plain : List Char} (all : ∀ c ∈ plain, isPlainChar c = true)
    (word rest : List Char) :
    wordsFrom .bare (some word) (plain ++ rest) = wordsFrom .bare (some (word ++ plain)) rest := by
  induction plain generalizing word with
  | nil => rw [List.nil_append, List.append_nil]
  | cons c others ih =>
      have othersPlain : ∀ c ∈ others, isPlainChar c = true := by
        intro c member
        exact all c (List.mem_cons_of_mem _ member)
      rw [List.cons_append, wordsFrom_isPlainChar (all c List.mem_cons_self)]
      change wordsFrom .bare (some (word ++ [c])) _ = _
      rw [ih othersPlain, List.append_assoc]
      rfl

/-! ### Quoted arguments -/

theorem wordsFrom_single_mark (word : Option (List Char)) (rest : List Char) :
    wordsFrom .single word ('\x27' :: rest) = wordsFrom .bare (touch word) rest :=
  rfl

theorem wordsFrom_single {c : Char} (inside : c ≠ '\x27') (word : Option (List Char))
    (rest : List Char) :
    wordsFrom .single word (c :: rest) = wordsFrom .single (extend word c) rest := by
  rw [wordsFrom_cons]
  simp [Mode.separates, Mode.next, Mode.extendWord, inside]

/-- A quote among the characters leaves the quotes, is escaped, and enters them again. -/
theorem wordsFrom_insideQuotes (word quoted rest : List Char) :
    wordsFrom .single (some word) (quoted.flatMap insideQuotes ++ '\x27' :: rest) =
      wordsFrom .bare (some (word ++ quoted)) rest := by
  induction quoted generalizing word with
  | nil =>
      rw [List.flatMap_nil, List.nil_append, wordsFrom_single_mark, List.append_nil]
      rfl
  | cons c others ih =>
      have later := ih (word ++ [c])
      rw [List.append_assoc, List.singleton_append] at later
      rw [List.flatMap_cons, List.append_assoc]
      by_cases mark : c = '\x27'
      · subst mark
        exact later
      · rw [insideQuotes, if_neg mark, List.singleton_append, wordsFrom_single mark]
        exact later

/-! ### Lines -/

/-- What is written for an argument is read as that argument, and as no more. -/
theorem wordsFrom_quoteArgument (argument rest : List Char) :
    wordsFrom .bare none (quoteArgument argument ++ rest) =
      wordsFrom .bare (some argument) rest := by
  unfold quoteArgument
  split
  · rename_i plain
    rw [Bool.and_eq_true, List.all_eq_true] at plain
    obtain ⟨filled, all⟩ := plain
    cases argument with
    | nil => cases filled
    | cons c others =>
        rw [List.cons_append, wordsFrom_isPlainChar (all c List.mem_cons_self)]
        refine wordsFrom_plain ?_ [c] rest
        intro c member
        exact all c (List.mem_cons_of_mem _ member)
  · rw [List.append_assoc, List.cons_append, List.singleton_append]
    exact wordsFrom_insideQuotes [] argument rest

/-- What stands in a line for arguments, with a space between each two. -/
theorem words_intercalate (arguments : List (List Char)) :
    words ([' '].intercalate (arguments.map quoteArgument)) = .ok arguments := by
  induction arguments with
  | nil => rfl
  | cons argument others ih =>
      cases others with
      | nil =>
          have alone := wordsFrom_quoteArgument argument []
          rw [List.append_nil] at alone
          rw [List.map_cons, List.map_nil, List.intercalate_singleton, words, alone]
          rfl
      | cons next last =>
          have space : Mode.bare.separates ' ' = true := rfl
          rw [List.map_cons] at ih
          rw [List.map_cons, List.map_cons, List.intercalate_cons_cons, List.append_assoc, words,
            wordsFrom_quoteArgument, List.singleton_append, wordsFrom_cons, if_pos space, ih]
          rfl

theorem line_toList (invocation : Invocation) :
    invocation.line.toList =
      [' '].intercalate ((invocation.arguments.map String.toList).map quoteArgument) := by
  simp [Invocation.line, join, String.toList_intercalate, Function.comp_def]

/-- Splitting a line gives back the arguments that it was written for, and no other arguments are
written as that line. -/
theorem splitArguments_line (invocation : Invocation) :
    splitArguments invocation.line = .ok invocation.arguments ∧
      ∀ other : Invocation, other.line = invocation.line ↔ other = invocation := by
  have splits (invocation : Invocation) :
      splitArguments invocation.line = .ok invocation.arguments := by
    rw [splitArguments_eq_ok, line_toList]
    refine ⟨_, words_intercalate _, ?_⟩
    simp [Function.comp_def]
  refine ⟨splits invocation, ?_⟩
  intro other
  constructor
  · intro same
    have read := splits other
    rw [same, splits invocation] at read
    cases other
    cases invocation
    exact congrArg Invocation.mk (Except.ok.inj read).symm
  · rintro rfl
    rfl

end BuildBench.Tool
