import BuildBench.Text.Blank
import BuildBench.Text.Pieces
import Mathlib.Data.List.TakeWhile

set_option autoImplicit false

/-! Parts of a text: what lies before and behind a separator, and what lies between the characters
that are removed around it. -/

namespace BuildBench.Text

/-! ### Cutting -/

theorem all_ne_of_notMem {separator : Char} {text : List Char} (absent : separator ∉ text) :
    ∀ c ∈ text, decide (c ≠ separator) = true := by
  intro c member
  rw [decide_eq_true_iff]
  rintro rfl
  exact absent member

theorem cut_of_notMem {separator : Char} {text : List Char} (absent : separator ∉ text) :
    cut separator text = (text, none) := by
  rw [cut, List.dropWhile_eq_nil_iff.mpr (all_ne_of_notMem absent)]

theorem cut_append_cons {separator : Char} {first : List Char} (absent : separator ∉ first)
    (rest : List Char) : cut separator (first ++ separator :: rest) = (first, some rest) := by
  have all := all_ne_of_notMem absent
  rw [cut, List.dropWhile_append_of_pos all, List.takeWhile_append_of_pos all]
  simp

/-! ### Pieces -/

theorem pieces_of_notMem {separator : Char} {text : List Char} (absent : separator ∉ text) :
    pieces separator text = [text] := by
  induction text with
  | nil => rfl
  | cons c rest ih =>
      rw [List.mem_cons, not_or] at absent
      rw [pieces, if_neg (Ne.symm absent.1), ih absent.2]

theorem pieces_eq_cons (separator : Char) (text : List Char) :
    ∃ rest, pieces separator text = text.takeWhile (· ≠ separator) :: rest := by
  induction text with
  | nil => exact ⟨[], rfl⟩
  | cons c tail ih =>
      obtain ⟨rest, cut⟩ := ih
      by_cases same : c = separator
      · refine ⟨pieces separator tail, ?_⟩
        rw [pieces, if_pos same, List.takeWhile_cons_of_neg (by simp [same])]
      · refine ⟨rest, ?_⟩
        rw [pieces, if_neg same, cut, List.takeWhile_cons_of_pos (by simp [same])]

theorem pieces_append_cons {separator : Char} (before after : List Char) :
    pieces separator (before ++ separator :: after) =
      pieces separator before ++ pieces separator after := by
  induction before with
  | nil =>
      change (if separator = separator then _ else _) = _
      rw [if_pos rfl]
      rfl
  | cons c rest ih =>
      rw [List.cons_append, pieces, pieces]
      by_cases same : c = separator
      · rw [if_pos same, if_pos same, ih, List.cons_append]
      · obtain ⟨tail, cut⟩ := pieces_eq_cons separator rest
        rw [if_neg same, if_neg same, ih, cut]
        rfl

theorem notMem_of_mem_pieces {separator : Char} {text part : List Char}
    (member : part ∈ pieces separator text) : separator ∉ part := by
  induction text generalizing part with
  | nil =>
      rw [List.mem_singleton.mp member]
      exact List.not_mem_nil
  | cons c rest ih =>
      rw [pieces] at member
      by_cases same : c = separator
      · rw [if_pos same] at member
        rcases List.mem_cons.mp member with empty | later
        · rw [empty]
          exact List.not_mem_nil
        · exact ih later
      · obtain ⟨others, cut⟩ := pieces_eq_cons separator rest
        rw [if_neg same, cut] at member
        rw [cut] at ih
        rcases List.mem_cons.mp member with first | later
        · rw [first, List.mem_cons, not_or]
          exact ⟨Ne.symm same, ih List.mem_cons_self⟩
        · exact ih (List.mem_cons_of_mem _ later)

/-- Every character but the separators stands in a piece. -/
theorem exists_mem_pieces {separator c : Char} {text : List Char} (other : c ≠ separator)
    (member : c ∈ text) : ∃ part ∈ pieces separator text, c ∈ part := by
  induction text with
  | nil => cases member
  | cons first rest ih =>
      rw [pieces]
      by_cases same : first = separator
      · rw [if_pos same]
        have later : c ∈ rest := List.mem_of_ne_of_mem (same ▸ other) member
        obtain ⟨part, cut, inside⟩ := ih later
        exact ⟨part, List.mem_cons_of_mem _ cut, inside⟩
      · rw [if_neg same]
        obtain ⟨others, cut⟩ := pieces_eq_cons separator rest
        rw [cut] at ih ⊢
        dsimp only
        rcases List.mem_cons.mp member with own | later
        · exact ⟨_, List.mem_cons_self, own ▸ List.mem_cons_self⟩
        · obtain ⟨part, listed, inside⟩ := ih later
          rcases List.mem_cons.mp listed with front | behind
          · exact ⟨_, List.mem_cons_self, List.mem_cons_of_mem _ (front ▸ inside)⟩
          · exact ⟨part, List.mem_cons_of_mem _ behind, inside⟩

/-- Pieces that were joined are the pieces again. -/
theorem pieces_intercalate {separator : Char} {parts : List (List Char)} (inhabited : parts ≠ [])
    (free : ∀ part ∈ parts, separator ∉ part) :
    pieces separator ([separator].intercalate parts) = parts := by
  induction parts with
  | nil => exact absurd rfl inhabited
  | cons part rest ih =>
      have first := pieces_of_notMem (free part List.mem_cons_self)
      cases rest with
      | nil => rw [List.intercalate_singleton, first]
      | cons next others =>
          rw [List.intercalate_cons_cons, List.append_assoc, List.singleton_append,
            pieces_append_cons, first, ih (List.cons_ne_nil _ _) fun part member =>
              free part (List.mem_cons_of_mem _ member)]
          rfl

/-- Behind the last separator there is one more piece. -/
theorem pieces_flatMap {separator : Char} {parts : List (List Char)}
    (free : ∀ part ∈ parts, separator ∉ part) :
    pieces separator (parts.flatMap (· ++ [separator])) = parts ++ [[]] := by
  induction parts with
  | nil => rfl
  | cons part rest ih =>
      rw [List.flatMap_cons, List.append_assoc, List.singleton_append, pieces_append_cons,
        pieces_of_notMem (free part List.mem_cons_self),
        ih fun part member => free part (List.mem_cons_of_mem _ member)]
      rfl

/-- What stands in front of a text, without a separator, goes to its first piece. -/
theorem pieces_append_left {separator : Char} {front : List Char} (absent : separator ∉ front)
    (text : List Char) :
    ∃ first rest, pieces separator text = first :: rest ∧
      pieces separator (front ++ text) = (front ++ first) :: rest := by
  induction front with
  | nil =>
      obtain ⟨rest, cut⟩ := pieces_eq_cons separator text
      exact ⟨_, rest, cut, cut⟩
  | cons c others ih =>
      rw [List.mem_cons, not_or] at absent
      obtain ⟨first, rest, cut, more⟩ := ih absent.2
      refine ⟨first, rest, cut, ?_⟩
      rw [List.cons_append, pieces, if_neg (Ne.symm absent.1), more]
      rfl

/-- What stands behind a text, without a separator, goes to its last piece. -/
theorem pieces_append_right {separator : Char} {back : List Char} (absent : separator ∉ back)
    (text : List Char) :
    ∃ earlier last, pieces separator text = earlier ++ [last] ∧
      pieces separator (text ++ back) = earlier ++ [last ++ back] := by
  induction text with
  | nil => exact ⟨[], [], rfl, pieces_of_notMem absent⟩
  | cons c others ih =>
      obtain ⟨earlier, last, cut, more⟩ := ih
      rw [List.cons_append, pieces, pieces, cut, more]
      by_cases same : c = separator
      · rw [if_pos same, if_pos same]
        exact ⟨[] :: earlier, last, rfl, rfl⟩
      · rw [if_neg same, if_neg same]
        cases earlier with
        | nil => exact ⟨[], c :: last, rfl, rfl⟩
        | cons first between => exact ⟨(c :: first) :: between, last, rfl, rfl⟩

/-! ### Removing around -/

theorem not_isBlank_of_isAlphanum {c : Char} (plain : c.isAlphanum = true) : isBlank c = false := by
  have code : c.val.toNat = c.toNat := rfl
  have digits : '0'.val.toNat = 48 ∧ '9'.val.toNat = 57 := ⟨rfl, rfl⟩
  have capitals : 'A'.val.toNat = 65 ∧ 'Z'.val.toNat = 90 := ⟨rfl, rfl⟩
  have small : 'a'.val.toNat = 97 ∧ 'z'.val.toNat = 122 := ⟨rfl, rfl⟩
  delta Char.isAlphanum Char.isAlpha Char.isUpper Char.isLower Char.isDigit at plain
  simp only [Bool.or_eq_true, Bool.and_eq_true, decide_eq_true_eq, UInt32.le_iff_toNat_le,
    ge_iff_le] at plain
  simp only [isBlank, Bool.or_eq_false_iff, Bool.and_eq_false_iff, decide_eq_false_iff_not,
    beq_eq_false_iff_ne]
  omega

theorem not_isBlank_of_isDigit {c : Char} (digit : c.isDigit = true) : isBlank c = false := by
  apply not_isBlank_of_isAlphanum
  rw [Char.isAlphanum, digit, Bool.or_true]

/-- A text is a core with characters of a class around it, and no others. -/
def Surrounds (drop : Char → Bool) (core text : List Char) : Prop :=
  ∃ before after, text = before ++ core ++ after ∧
    (∀ c ∈ before, drop c = true) ∧ ∀ c ∈ after, drop c = true

variable {drop : Char → Bool} {core text : List Char}

theorem dropWhile_append_of_head {front rest : List Char} (all : ∀ c ∈ front, drop c = true)
    (stops : ∀ c ∈ rest.head?, drop c = false) : (front ++ rest).dropWhile drop = rest := by
  rw [List.dropWhile_append_of_pos all]
  cases rest with
  | nil => rfl
  | cons c others => simp [stops c rfl]

theorem dropEndWhile_append_of_last {after : List Char} (all : ∀ c ∈ after, drop c = true)
    (stops : ∀ c ∈ core.getLast?, drop c = false) : dropEndWhile drop (core ++ after) = core := by
  have reversed : ∀ c ∈ after.reverse, drop c = true := by
    intro c member
    exact all c (List.mem_reverse.mp member)
  rw [dropEndWhile, List.reverse_append, dropWhile_append_of_head reversed, List.reverse_reverse]
  rw [List.head?_reverse]
  exact stops

theorem dropAround_surrounds (drop : Char → Bool) (text : List Char) :
    Surrounds drop (dropAround drop text) text := by
  refine ⟨text.takeWhile drop, ((text.dropWhile drop).reverse.takeWhile drop).reverse, ?_, ?_, ?_⟩
  · rw [dropAround, dropEndWhile, List.append_assoc, ← List.reverse_append,
      List.takeWhile_append_dropWhile, List.reverse_reverse, List.takeWhile_append_dropWhile]
  · intro c member
    exact List.mem_takeWhile_imp member
  · intro c member
    exact List.mem_takeWhile_imp (List.mem_reverse.mp member)

theorem mem_of_mem_dropAround {c : Char} (kept : c ∈ dropAround drop text) : c ∈ text := by
  obtain ⟨before, after, whole, -⟩ := dropAround_surrounds drop text
  rw [whole]
  exact List.mem_append_left _ (List.mem_append_right _ kept)

/-- Only characters that are removed at all get lost. -/
theorem mem_dropAround_iff {c : Char} (kept : drop c = false) :
    c ∈ dropAround drop text ↔ c ∈ text := by
  obtain ⟨before, after, whole, front, back⟩ := dropAround_surrounds drop text
  have apart (side : List Char) (all : ∀ c ∈ side, drop c = true) : c ∉ side := by
    intro member
    rw [all c member] at kept
    cases kept
  constructor
  · exact mem_of_mem_dropAround
  · intro member
    rw [whole] at member
    simpa [apart before front, apart after back] using member

theorem surrounds_refl (drop : Char → Bool) (text : List Char) : Surrounds drop text text :=
  ⟨[], [], by simp, by simp, by simp⟩

theorem Surrounds.trans {middle : List Char} (inner : Surrounds drop core middle)
    (outer : Surrounds drop middle text) : Surrounds drop core text := by
  obtain ⟨before, after, rfl, allBefore, allAfter⟩ := inner
  obtain ⟨front, back, rfl, allFront, allBack⟩ := outer
  refine ⟨front ++ before, after ++ back, by simp, ?_, ?_⟩
  · intro c member
    exact (List.mem_append.mp member).elim (allFront c) (allBefore c)
  · intro c member
    exact (List.mem_append.mp member).elim (allAfter c) (allBack c)

/-- A core with others at both ends is what is left of the texts that it is the core of. -/
theorem dropAround_of_surrounds (starts : ∀ c ∈ core.head?, drop c = false)
    (ends : ∀ c ∈ core.getLast?, drop c = false) (surrounds : Surrounds drop core text) :
    dropAround drop text = core := by
  obtain ⟨before, after, rfl, allBefore, allAfter⟩ := surrounds
  cases core with
  | nil =>
      have all : ∀ c ∈ before ++ [] ++ after, drop c = true := by
        intro c member
        rw [List.append_nil, List.mem_append] at member
        exact member.elim (allBefore c) (allAfter c)
      rw [dropAround, List.dropWhile_eq_nil_iff.mpr all]
      rfl
  | cons c others =>
      rw [dropAround, List.append_assoc, dropWhile_append_of_head allBefore,
        dropEndWhile_append_of_last allAfter ends]
      intro head member
      exact starts head member

/-- A core without characters of the class is what is left of the texts that it is the core of. -/
theorem dropAround_eq_iff (kept : ∀ c ∈ core, drop c = false) :
    dropAround drop text = core ↔ Surrounds drop core text := by
  constructor
  · rintro rfl
    exact dropAround_surrounds drop text
  · refine dropAround_of_surrounds ?_ ?_
    · intro c member
      exact kept c (List.mem_of_mem_head? member)
    · intro c member
      exact kept c (List.mem_of_mem_getLast? member)

/-- From a text with others at both ends nothing is removed. -/
theorem dropAround_of_ends (starts : ∀ c ∈ text.head?, drop c = false)
    (ends : ∀ c ∈ text.getLast?, drop c = false) : dropAround drop text = text :=
  dropAround_of_surrounds starts ends (surrounds_refl drop text)

theorem head?_dropWhile (drop : Char → Bool) (text : List Char) :
    ∀ c ∈ (text.dropWhile drop).head?, drop c = false := by
  intro c first
  have stops := List.head?_dropWhile_not drop text
  rw [first] at stops
  exact stops

theorem head?_dropAround (drop : Char → Bool) (text : List Char) :
    ∀ c ∈ (dropAround drop text).head?, drop c = false := by
  intro c first
  have parts : text.dropWhile drop = dropAround drop text ++
      ((text.dropWhile drop).reverse.takeWhile drop).reverse := by
    rw [dropAround, dropEndWhile, ← List.reverse_append, List.takeWhile_append_dropWhile,
      List.reverse_reverse]
  refine head?_dropWhile drop text c ?_
  rw [parts, List.head?_append, Option.mem_def.mp first]
  rfl

theorem getLast?_dropAround (drop : Char → Bool) (text : List Char) :
    ∀ c ∈ (dropAround drop text).getLast?, drop c = false := by
  rw [dropAround, dropEndWhile, List.getLast?_reverse]
  exact head?_dropWhile drop _

end BuildBench.Text
