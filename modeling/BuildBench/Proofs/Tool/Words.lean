import BuildBench.Tool.Error
import Mathlib.Logic.ExistsUnique

set_option autoImplicit false

/-! Where a reader of an argument line stands, and what the line comes to. Main statement: a line can
be split exactly if the reader is outside quotes and escapes at its end, the place at the end names
the defect otherwise, and a blank between two lines sets their arguments apart. -/

namespace BuildBench.Tool

open BuildBench.Text

/-! ### Places -/

/-- What one character does to the place of a reader: single quotes are left by a single quote only,
double quotes by one that is not escaped, and an escape by any character. -/
inductive Mode.Step : Mode → Char → Mode → Prop
  | plain {c : Char} : c ≠ '\x27' → c ≠ '\x22' → c ≠ '\\' → Step .bare c .bare
  | openSingle : Step .bare '\x27' .single
  | openDouble : Step .bare '\x22' .double
  | escape : Step .bare '\\' .escaped
  | insideSingle {c : Char} : c ≠ '\x27' → Step .single c .single
  | closeSingle : Step .single '\x27' .bare
  | insideDouble {c : Char} : c ≠ '\x22' → c ≠ '\\' → Step .double c .double
  | closeDouble : Step .double '\x22' .bare
  | escapeDouble : Step .double '\\' .doubleEscaped
  | escaped {c : Char} : Step .escaped c .bare
  | doubleEscaped {c : Char} : Step .doubleEscaped c .double

/-- A text leads a reader from one place to another. -/
inductive Mode.Reads : Mode → List Char → Mode → Prop
  | nothing {mode : Mode} : Reads mode [] mode
  | char {mode next last : Mode} {c : Char} {rest : List Char} :
      Step mode c next → Reads next rest last → Reads mode (c :: rest) last

theorem Mode.step_iff_next (mode : Mode) (c : Char) (after : Mode) :
    Step mode c after ↔ mode.next c = after := by
  constructor
  · intro step
    cases step <;> simp_all [next]
  · rintro rfl
    cases mode with
    | bare =>
        by_cases single : c = '\x27'
        · subst single
          exact .openSingle
        · by_cases double : c = '\x22'
          · subst double
            exact .openDouble
          · by_cases escape : c = '\\'
            · subst escape
              exact .escape
            · simp only [next, if_neg single, if_neg double, if_neg escape]
              exact .plain single double escape
    | single =>
        by_cases single : c = '\x27'
        · subst single
          exact .closeSingle
        · simp only [next, if_neg single]
          exact .insideSingle single
    | double =>
        by_cases double : c = '\x22'
        · subst double
          exact .closeDouble
        · by_cases escape : c = '\\'
          · subst escape
            exact .escapeDouble
          · simp only [next, if_neg double, if_neg escape]
            exact .insideDouble double escape
    | escaped => exact .escaped
    | doubleEscaped => exact .doubleEscaped

theorem Mode.reads_iff_foldl (mode : Mode) (line : List Char) (last : Mode) :
    Reads mode line last ↔ line.foldl next mode = last := by
  induction line generalizing mode with
  | nil =>
      constructor
      · intro reads
        cases reads
        rfl
      · rintro rfl
        exact .nothing
  | cons c rest ih =>
      rw [List.foldl_cons, ← ih]
      constructor
      · intro reads
        cases reads with
        | char step reads =>
            rw [(step_iff_next mode c _).mp step]
            exact reads
      · intro reads
        exact .char ((step_iff_next mode c _).mpr rfl) reads

theorem Mode.reads_unique (mode : Mode) (line : List Char) : ∃! last, Reads mode line last := by
  simp only [reads_iff_foldl]
  exact existsUnique_eq'

/-! ### What the end of a line says about it -/

/-- The defect of a line at whose end a reader stands here. -/
def Mode.defect? : Mode → Option LineDefect
  | .bare => none
  | .single | .double => some .unterminatedQuote
  | .escaped | .doubleEscaped => some .danglingEscape

theorem Mode.defect?_eq_unterminatedQuote (mode : Mode) :
    mode.defect? = some .unterminatedQuote ↔ mode = .single ∨ mode = .double := by
  cases mode <;> simp [defect?]

theorem Mode.defect?_eq_danglingEscape (mode : Mode) :
    mode.defect? = some .danglingEscape ↔ mode = .escaped ∨ mode = .doubleEscaped := by
  cases mode <;> simp [defect?]

theorem ne_mark_of_isBlank {c : Char} (blank : isBlank c = true) :
    c ≠ '\x27' ∧ c ≠ '\x22' ∧ c ≠ '\\' := by
  refine ⟨?_, ?_, ?_⟩ <;> rintro rfl <;> exact absurd blank (by decide)

theorem Mode.separates_iff (mode : Mode) (c : Char) :
    mode.separates c = true ↔ mode = .bare ∧ isBlank c = true := by
  simp [separates]

theorem Mode.next_of_separates {mode : Mode} {c : Char} (separates : mode.separates c = true) :
    mode.next c = .bare := by
  obtain ⟨rfl, blank⟩ := (mode.separates_iff c).mp separates
  obtain ⟨single, double, escape⟩ := ne_mark_of_isBlank blank
  simp [next, single, double, escape]

/-- A character between words ends the one that is being read; any other belongs to a word. -/
theorem wordsFrom_cons (mode : Mode) (word : Option (List Char)) (c : Char) (rest : List Char) :
    wordsFrom mode word (c :: rest) =
      if mode.separates c then (words rest).map (word.toList ++ ·)
      else wordsFrom (mode.next c) (mode.extendWord word c) rest := by
  rw [wordsFrom, words]
  split
  · cases wordsFrom .bare none rest <;> rfl
  · rfl

theorem wordsFrom_ends (mode : Mode) (word : Option (List Char)) (line : List Char) :
    match (line.foldl Mode.next mode).defect? with
    | none => ∃ found, wordsFrom mode word line = .ok found
    | some defect => wordsFrom mode word line = .error defect := by
  induction line generalizing mode word with
  | nil => cases mode <;> simp [wordsFrom, Mode.defect?]
  | cons c rest ih =>
      rw [wordsFrom_cons, List.foldl_cons]
      by_cases separates : mode.separates c = true
      · have after := ih .bare none
        rw [if_pos separates, Mode.next_of_separates separates, words]
        cases defect : (rest.foldl Mode.next .bare).defect? with
        | none =>
            rw [defect] at after
            obtain ⟨found, ended⟩ := after
            exact ⟨word.toList ++ found, by rw [ended]; rfl⟩
        | some cause =>
            rw [defect] at after
            dsimp only at after ⊢
            rw [after]
            rfl
      · rw [if_neg separates]
        exact ih _ _

theorem words_eq_ok_iff (line : List Char) :
    (∃ found, words line = .ok found) ↔ Mode.bare.Reads line .bare := by
  have ends := wordsFrom_ends .bare none line
  rw [Mode.reads_iff_foldl, words]
  cases place : line.foldl Mode.next .bare with
  | bare => simpa [place, Mode.defect?] using ends
  | _ =>
      rw [place] at ends
      simp only [Mode.defect?] at ends
      simp [ends]

theorem words_eq_error_iff (line : List Char) (defect : LineDefect) :
    words line = .error defect ↔ ∃ mode, Mode.bare.Reads line mode ∧ mode.defect? = some defect := by
  have ends := wordsFrom_ends .bare none line
  simp only [Mode.reads_iff_foldl, exists_eq_left', words]
  cases place : (line.foldl Mode.next .bare).defect? with
  | none =>
      rw [place] at ends
      obtain ⟨found, ended⟩ := ends
      simp [ended]
  | some cause =>
      rw [place] at ends
      dsimp only at ends
      simp [ends]

/-! ### Lines one after the other -/

/-- A blank where a reader is outside quotes is a place to cut a line. -/
theorem wordsFrom_append_blank {mode : Mode} {word : Option (List Char)} {front : List Char}
    {found : List (List Char)} (read : wordsFrom mode word front = .ok found) {blank : Char}
    (isBlank : isBlank blank = true) (back : List Char) :
    wordsFrom mode word (front ++ blank :: back) = (words back).map (found ++ ·) := by
  induction front generalizing mode word found with
  | nil =>
      cases mode with
      | bare =>
          rw [wordsFrom, Except.ok.injEq] at read
          rw [List.nil_append, wordsFrom_cons, if_pos ((Mode.separates_iff _ _).mpr ⟨rfl, isBlank⟩),
            read]
      | _ => cases read
  | cons c rest ih =>
      rw [wordsFrom_cons] at read
      rw [List.cons_append, wordsFrom_cons]
      by_cases separates : mode.separates c = true
      · rw [if_pos separates] at read ⊢
        cases later : words rest with
        | error defect =>
            rw [later] at read
            cases read
        | ok others =>
            rw [later] at read
            obtain rfl : word.toList ++ others = found := Except.ok.inj read
            have cut : words (rest ++ blank :: back) = (words back).map (others ++ ·) := ih later
            rw [cut]
            cases words back with
            | error defect => rfl
            | ok last => exact congrArg Except.ok (List.append_assoc _ _ _).symm
      · rw [if_neg separates] at read ⊢
        exact ih read

theorem words_append_blank {front : List Char} {found : List (List Char)}
    (read : words front = .ok found) {blank : Char} (isBlank : isBlank blank = true)
    (back : List Char) : words (front ++ blank :: back) = (words back).map (found ++ ·) :=
  wordsFrom_append_blank read isBlank back

/-! ### Argument lines -/

def LineDefect.initial : LineDefect → Char
  | .unterminatedQuote => 'u'
  | .danglingEscape => 'd'

theorem LineDefect.reason_head (defect : LineDefect) (line : String) :
    (defect.reason line).toList.head? = some defect.initial := by
  cases defect with
  | unterminatedQuote =>
      change ("unterminated quote in " ++ quoted line).toList.head? = _
      rw [String.toList_append]
      rfl
  | danglingEscape =>
      change ("dangling escape in " ++ quoted line).toList.head? = _
      rw [String.toList_append]
      rfl

theorem LineDefect.reason_injective (line : String) {left right : LineDefect}
    (same : left.reason line = right.reason line) : left = right := by
  have heads := left.reason_head line
  rw [same, right.reason_head line] at heads
  cases left <;> cases right <;> simp [initial] at heads ⊢

theorem splitArguments_eq_ok {line : String} {arguments : List String} :
    splitArguments line = .ok arguments ↔
      ∃ found, words line.toList = .ok found ∧ found.map String.ofList = arguments := by
  unfold splitArguments
  cases words line.toList <;> simp

theorem splitArguments_eq_error {line : String} {error : Error} :
    splitArguments line = .error error ↔
      ∃ defect, words line.toList = .error defect ∧
        .invalidArguments (defect.reason line) = error := by
  unfold splitArguments
  cases words line.toList <;> simp

theorem splitArguments_eq_defect {line : String} {defect : LineDefect} :
    splitArguments line = .error (.invalidArguments (defect.reason line)) ↔
      ∃ mode, Mode.bare.Reads line.toList mode ∧ mode.defect? = some defect := by
  rw [splitArguments_eq_error, ← words_eq_error_iff]
  constructor
  · rintro ⟨other, read, same⟩
    rw [← other.reason_injective line (Error.invalidArguments.inj same)]
    exact read
  · intro read
    exact ⟨defect, read, rfl⟩

/-- A line is split or refused by the place at its end. -/
structure SplitsAsRead (line : String) : Prop where
  place : ∃! mode, Mode.bare.Reads line.toList mode
  split : (∃ arguments, splitArguments line = .ok arguments) ↔ Mode.bare.Reads line.toList .bare
  dangling : splitArguments line =
      .error (.invalidArguments (LineDefect.danglingEscape.reason line)) ↔
    Mode.bare.Reads line.toList .escaped ∨ Mode.bare.Reads line.toList .doubleEscaped
  unterminated : splitArguments line =
      .error (.invalidArguments (LineDefect.unterminatedQuote.reason line)) ↔
    Mode.bare.Reads line.toList .single ∨ Mode.bare.Reads line.toList .double

/-- What follows a blank behind a line that can be split is read as if it stood alone. -/
structure SplitsApart (front back : String) (blank : Char) (arguments : List String) : Prop where
  together : ∀ others, splitArguments back = .ok others →
    splitArguments (front ++ String.singleton blank ++ back) = .ok (arguments ++ others)
  refused : ∀ error, splitArguments back = .error error →
    ∃ defect : LineDefect, error = .invalidArguments (defect.reason back) ∧
      splitArguments (front ++ String.singleton blank ++ back) =
        .error (.invalidArguments (defect.reason (front ++ String.singleton blank ++ back)))

theorem splitsAsRead (line : String) : SplitsAsRead line where
  place := Mode.reads_unique _ _
  split := by
    simp only [← words_eq_ok_iff, splitArguments_eq_ok]
    constructor
    · rintro ⟨_, found, read, _⟩
      exact ⟨found, read⟩
    · rintro ⟨found, read⟩
      exact ⟨_, found, read, rfl⟩
  dangling := by
    simp only [splitArguments_eq_defect, Mode.defect?_eq_danglingEscape, and_or_left, exists_or,
      exists_eq_right]
  unterminated := by
    simp only [splitArguments_eq_defect, Mode.defect?_eq_unterminatedQuote, and_or_left, exists_or,
      exists_eq_right]

/-- A line can be split exactly if it ends outside quotes and escapes, its end names the defect
otherwise, and a blank behind it sets its arguments apart from those of what follows. -/
theorem splitArguments_as_read (line : String) :
    SplitsAsRead line ∧ ∀ back blank arguments, isBlank blank = true →
      splitArguments line = .ok arguments → SplitsApart line back blank arguments := by
  refine ⟨splitsAsRead line, ?_⟩
  intro back blank arguments isBlank split
  obtain ⟨found, read, rfl⟩ := splitArguments_eq_ok.mp split
  have cut : words (line ++ String.singleton blank ++ back).toList =
      (words back.toList).map (found ++ ·) := by
    simpa using words_append_blank read isBlank back.toList
  constructor
  · intro others rest
    obtain ⟨later, readLater, rfl⟩ := splitArguments_eq_ok.mp rest
    rw [readLater] at cut
    exact splitArguments_eq_ok.mpr ⟨_, cut, List.map_append⟩
  · intro error refused
    obtain ⟨defect, readLater, rfl⟩ := splitArguments_eq_error.mp refused
    rw [readLater] at cut
    exact ⟨defect, rfl, splitArguments_eq_error.mpr ⟨defect, cut, rfl⟩⟩

theorem splitArguments_as_read_tabbed :
    isBlank '\t' = true ∧ splitArguments "-t 's'\"\\\"\"" = .ok ["-t", "s\""] ∧
      SplitsAsRead "-t 's'\"\\\"\"" ∧
      SplitsApart "-t 's'\"\\\"\"" "'' a\\" '\t' ["-t", "s\""] := by
  have blank : isBlank '\t' = true := by decide
  have split : splitArguments "-t 's'\"\\\"\"" = .ok ["-t", "s\""] := by rfl
  have read := splitArguments_as_read "-t 's'\"\\\"\""
  exact ⟨blank, split, read.1, read.2 _ _ _ blank split⟩

end BuildBench.Tool
