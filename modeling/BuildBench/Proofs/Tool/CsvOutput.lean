import BuildBench.Proofs.Tool.CsvReport

set_option autoImplicit false

/-! Output with rows among other lines. Main statement: of all lines, only those that start with a
quote count; the row of a test is its last line, read below the last header line before it; and there
is a document exactly if there is a row. -/

namespace BuildBench.Tool

open BuildBench.Text

/-! ### Lines -/

def linesOf (stdout : String) : List (List Char) :=
  pieces '\n' stdout.toList

/-- The line starts with a quote, blanks aside. -/
def isCsvLine (line : List Char) : Bool :=
  (trimChars line).head? == some '\x22'

/-- The cells of the line are a title and then values. -/
structure IsRow (line : List Char) (title : String) (values : List String) : Prop where
  opened : isCsvLine line = true
  cells : (pieces ',' (trimChars line)).map (fun cell => String.ofList (cellText cell)) =
    title :: values

def IsTitled (title : String) (line : List Char) : Prop :=
  ∃ values, IsRow line title values

/-- An element has the property, and none behind it has. -/
def IsLast {α : Type} (property : α → Prop) (list before : List α) (last : α) : Prop :=
  property last ∧ ∃ after, list = before ++ last :: after ∧ ∀ other ∈ after, ¬property other

/-- The columns below some lines: those of the last header line, or else the rate. -/
def InForce (before : List (List Char)) (columns : List String) : Prop :=
  (∃ earlier line, IsLast (IsTitled "test") before earlier line ∧
    IsRow line "test" columns) ∨
  ((∀ line ∈ before, ¬IsTitled "test" line) ∧ columns = ["rps"])

/-- Each column has the value beside it, if there is one. Of columns with one name, the last one with
a value counts. -/
def IsRowValue (columns values : List String) (value : Json.Value) : Prop :=
  ∃ members, value = .object members ∧ Json.Ascending members ∧
    ∀ column held, (column, held) ∈ members ↔
      ∃ (i : Nat) (cell : String), columns[i]? = some column ∧ values[i]? = some cell ∧
        IsCellValue cell held ∧
        ∀ j, i < j → columns[j]? = some column → values.length ≤ j

/-- The last line of a test and the columns in force there determine the test. -/
def IsTestOf (lines : List (List Char)) (title : String) (value : Json.Value) : Prop :=
  title ≠ "test" ∧ ∃ before line columns values, IsLast (IsTitled title) lines before line ∧
    IsRow line title values ∧ InForce before columns ∧ IsRowValue columns values value

/-! ### Last elements -/

section Last

variable {α : Type} {property : α → Prop} {list before : List α} {last next : α}

theorem isLast_append_singleton : IsLast property (list ++ [next]) before last ↔
    (property next ∧ before = list ∧ last = next) ∨
      (¬property next ∧ IsLast property list before last) := by
  constructor
  · rintro ⟨holds, after, split, absent⟩
    rcases List.eq_nil_or_concat after with rfl | ⟨others, final, rfl⟩
    · obtain ⟨same, own⟩ := List.append_inj' split rfl
      obtain rfl := List.singleton_inj.mp own
      exact Or.inl ⟨holds, same.symm, rfl⟩
    · rw [List.concat_eq_append] at split absent
      rw [← List.cons_append, ← List.append_assoc] at split
      obtain ⟨front, same⟩ := List.append_inj' split rfl
      obtain rfl := List.singleton_inj.mp same
      refine Or.inr ⟨absent next (by simp), holds, others, front, ?_⟩
      intro other member
      exact absent other (List.mem_append_left _ member)
  · rintro (⟨holds, rfl, rfl⟩ | ⟨fails, holds, after, rfl, absent⟩)
    · exact ⟨holds, [], rfl, by simp⟩
    · refine ⟨holds, after ++ [next], by simp, ?_⟩
      intro other member
      rcases List.mem_append.mp member with earlier | own
      · exact absent other earlier
      · rw [List.mem_singleton.mp own]
        exact fails

theorem isLast_append (holds : property next) (list : List α) :
    IsLast property (list ++ [next]) list next :=
  isLast_append_singleton.mpr (Or.inl ⟨holds, rfl, rfl⟩)

theorem not_isLast_nil : ¬IsLast property [] before last := by
  rintro ⟨-, after, split, -⟩
  simp at split

theorem exists_isLast_iff :
    (∃ before last, IsLast property list before last) ↔ ∃ x ∈ list, property x := by
  constructor
  · rintro ⟨before, last, holds, after, rfl, -⟩
    exact ⟨last, by simp, holds⟩
  · induction list using List.reverseRecOn with
    | nil => simp
    | append_singleton earlier next ih =>
        rintro ⟨x, member, holds⟩
        by_cases own : property next
        · exact ⟨earlier, next, isLast_append own earlier⟩
        · rcases List.mem_append.mp member with before | same
          · obtain ⟨front, last, isLast⟩ := ih ⟨x, before, holds⟩
            exact ⟨front, last, isLast_append_singleton.mpr (Or.inr ⟨own, isLast⟩)⟩
          · rw [List.mem_singleton.mp same] at holds
            exact absurd holds own

end Last

/-! ### Reading lines -/

section Lines

variable {line : List Char} {title other : String} {values columns : List String}

theorem IsRow.unique {otherValues : List String} (row : IsRow line title values)
    (same : IsRow line other otherValues) : title = other ∧ values = otherValues :=
  List.cons.inj (row.cells.symm.trans same.cells)

theorem IsTitled.unique (titled : IsTitled title line) (same : IsTitled other line) :
    title = other := by
  obtain ⟨_, row⟩ := titled
  obtain ⟨_, again⟩ := same
  exact (row.unique again).1

theorem rowCells?_of_isRow (row : IsRow line title values) :
    rowCells? line = some (title :: values) := by
  obtain ⟨opened, cells⟩ := row
  rw [isCsvLine, beq_iff_eq] at opened
  obtain ⟨rest, text⟩ := List.head?_eq_some_iff.mp opened
  rw [text] at cells
  rw [rowCells?, text]
  dsimp only
  rw [if_pos rfl, cells]

theorem isRow_or_none (line : List Char) :
    (∃ title values, IsRow line title values) ∨ (isCsvLine line = false ∧ rowCells? line = none) := by
  cases opened : isCsvLine line with
  | true =>
      left
      obtain ⟨others, cut⟩ := pieces_eq_cons ',' (trimChars line)
      have cells := congrArg (List.map fun cell => String.ofList (cellText cell)) cut
      rw [List.map_cons] at cells
      exact ⟨_, _, opened, cells⟩
  | false =>
      right
      rw [isCsvLine, beq_eq_false_iff_ne] at opened
      refine ⟨rfl, ?_⟩
      unfold rowCells?
      cases text : trimChars line with
      | nil => rfl
      | cons c rest =>
          rw [text] at opened
          dsimp only
          rw [if_neg fun same => opened (congrArg some same)]

theorem isCsvLine_iff : isCsvLine line = true ↔ ∃ title, IsTitled title line := by
  constructor
  · intro opened
    rcases isRow_or_none line with row | ⟨closed, -⟩
    · exact row
    · rw [opened] at closed
      cases closed
  · rintro ⟨title, values, row⟩
    exact row.opened

end Lines

/-! ### Values of rows -/

theorem isCellValue_iff {cell : String} {value : Json.Value} :
    IsCellValue cell value ↔ value = readCell cell := by
  constructor
  · intro own
    unfold readCell
    cases own with
    | number read finite =>
        rw [read]
        dsimp only
        rw [if_pos finite]
    | text other =>
        cases read : Number.Decimal.read cell.toList with
        | none => rfl
        | some value => simp [other value read]
  · rintro rfl
    exact readCell_isCellValue cell

theorem getElem?_pairs {columns values : List String} {i : Nat} {column : String}
    {held : Json.Value} :
    ((columns.zip values).map fun (column, cell) => (column, readCell cell))[i]? =
        some (column, held) ↔
      ∃ cell, columns[i]? = some column ∧ values[i]? = some cell ∧ IsCellValue cell held := by
  simp only [List.getElem?_map, Option.map_eq_some_iff, List.getElem?_zip_eq_some, Prod.exists,
    Prod.mk.injEq, isCellValue_iff]
  constructor
  · rintro ⟨_, cell, ⟨named, valued⟩, rfl, rfl⟩
    exact ⟨cell, named, valued, rfl⟩
  · rintro ⟨cell, named, valued, rfl⟩
    exact ⟨column, cell, ⟨named, valued⟩, rfl, rfl⟩

theorem rowValue_isRowValue (columns values : List String) :
    IsRowValue columns values (rowValue ("test" :: columns) values) := by
  refine ⟨_, rfl, Json.ascending_memberList _, ?_⟩
  intro column held
  change _ ∈ Json.memberList _ ↔ _
  rw [Json.mem_memberList_iff_getElem?]
  simp only [List.drop_succ_cons, List.drop_zero, getElem?_pairs, ne_eq, not_exists]
  constructor
  · rintro ⟨i, ⟨cell, named, valued, own⟩, last⟩
    refine ⟨i, cell, named, valued, own, ?_⟩
    intro j behind again
    by_contra within
    have present := List.getElem?_eq_getElem (Nat.lt_of_not_le within)
    exact last j behind _ _ ⟨again, present, readCell_isCellValue _⟩
  · rintro ⟨i, cell, named, valued, own, last⟩
    refine ⟨i, ⟨cell, named, valued, own⟩, ?_⟩
    rintro j behind other later ⟨again, present, -⟩
    obtain ⟨within, -⟩ := List.getElem?_eq_some_iff.mp present
    exact absurd (last j behind again) (Nat.not_le_of_lt within)

/-- The value of a row is determined by its columns and values. -/
theorem isRowValue_iff {columns values : List String} {value : Json.Value} :
    IsRowValue columns values value ↔ value = rowValue ("test" :: columns) values := by
  constructor
  · rintro ⟨members, rfl, ascending, members_iff⟩
    obtain ⟨others, same, again, others_iff⟩ := rowValue_isRowValue columns values
    rw [same, ascending.eq_of_mem_iff again fun column held =>
      (members_iff column held).trans (others_iff column held).symm]
  · rintro rfl
    exact rowValue_isRowValue columns values

/-! ### Reports of lines -/

/-- The report of the rows among some lines. -/
def CsvReport.ofLines (lines : List (List Char)) : CsvReport :=
  (lines.filterMap rowCells?).foldl addRow start

namespace CsvReport

variable {lines : List (List Char)} {line : List Char} {title : String} {values columns : List String}

theorem ofLines_row (row : IsRow line title values) (lines : List (List Char)) :
    ofLines (lines ++ [line]) = (ofLines lines).addRow (title :: values) := by
  rw [ofLines, List.filterMap_append, List.foldl_append, List.filterMap_cons,
    rowCells?_of_isRow row]
  rfl

theorem ofLines_other (noRow : rowCells? line = none) : ofLines (lines ++ [line]) = ofLines lines := by
  rw [ofLines, List.filterMap_append, List.filterMap_cons, noRow, List.filterMap_nil,
    List.append_nil, ofLines]

/-- A line is no row, or a header line, or a line of a test. -/
theorem ofLines_cases (lines : List (List Char)) (line : List Char) :
    ((∀ title, ¬IsTitled title line) ∧ ofLines (lines ++ [line]) = ofLines lines) ∨
    (∃ columns, IsRow line "test" columns ∧
      ofLines (lines ++ [line]) = { ofLines lines with header := "test" :: columns }) ∨
    ∃ title values, title ≠ "test" ∧ IsRow line title values ∧
      ofLines (lines ++ [line]) =
        { ofLines lines with
          tests := Json.insertMember title (rowValue (ofLines lines).header values)
            (ofLines lines).tests } := by
  rcases isRow_or_none line with ⟨title, values, row⟩ | ⟨closed, noRow⟩
  · right
    have added := ofLines_row row lines
    by_cases header : title = "test"
    · subst header
      rw [addRow, if_pos rfl] at added
      exact Or.inl ⟨values, row, added⟩
    · rw [addRow, if_neg header] at added
      exact Or.inr ⟨title, values, header, row, added⟩
  · left
    refine ⟨?_, ofLines_other noRow⟩
    intro title titled
    rw [isCsvLine_iff.mpr ⟨title, titled⟩] at closed
    cases closed

theorem inForce_append_other (other : ¬IsTitled "test" line) :
    InForce (lines ++ [line]) columns ↔ InForce lines columns := by
  unfold InForce
  simp only [isLast_append_singleton, other, false_and, false_or, not_false_eq_true, true_and,
    List.forall_mem_append, List.forall_mem_singleton, and_true]

theorem inForce_append_header (row : IsRow line "test" values) :
    InForce (lines ++ [line]) columns ↔ columns = values := by
  have titled : IsTitled "test" line := ⟨values, row⟩
  constructor
  · rintro (⟨earlier, last, isLast, header⟩ | ⟨none, -⟩)
    · rcases isLast_append_singleton.mp isLast with ⟨-, -, rfl⟩ | ⟨other, -⟩
      · exact (header.unique row).2
      · exact absurd titled other
    · exact absurd titled (none line (by simp))
  · rintro rfl
    exact Or.inl ⟨lines, line, isLast_append titled lines, row⟩

/-- The header of the report is the one in force. -/
theorem header_ofLines :
    (ofLines lines).header = "test" :: columns ↔ InForce lines columns := by
  induction lines using List.reverseRecOn with
  | nil =>
      change ["test", "rps"] = "test" :: columns ↔ _
      simp [InForce, not_isLast_nil, eq_comm]
  | append_singleton lines line ih =>
      rcases ofLines_cases lines line with
        ⟨noRow, same⟩ | ⟨values, row, header⟩ | ⟨title, values, other, row, added⟩
      · rw [same, ih, inForce_append_other (noRow _)]
      · rw [header, inForce_append_header row]
        simp [eq_comm]
      · have noHeader : ¬IsTitled "test" line := fun titled =>
          other ((IsTitled.unique ⟨values, row⟩ titled))
        rw [added, inForce_append_other noHeader]
        exact ih

theorem exists_inForce (lines : List (List Char)) : ∃ columns, InForce lines columns := by
  induction lines using List.reverseRecOn with
  | nil => exact ⟨["rps"], Or.inr ⟨by simp, rfl⟩⟩
  | append_singleton lines line ih =>
      by_cases titled : IsTitled "test" line
      · obtain ⟨values, row⟩ := titled
        exact ⟨values, (inForce_append_header row).mpr rfl⟩
      · obtain ⟨columns, inForce⟩ := ih
        exact ⟨columns, (inForce_append_other titled).mpr inForce⟩

theorem ascending_ofLines (lines : List (List Char)) : Json.Ascending (ofLines lines).tests := by
  induction lines using List.reverseRecOn with
  | nil => exact List.Pairwise.nil
  | append_singleton lines line ih =>
      rcases ofLines_cases lines line with ⟨-, same⟩ | ⟨values, -, header⟩ | ⟨title, values, -, -, added⟩
      · rw [same]
        exact ih
      · rw [header]
        exact ih
      · rw [added]
        exact ih.insertMember _ _

theorem isTestOf_append_other {value : Json.Value} (other : ¬IsTitled title line) :
    IsTestOf (lines ++ [line]) title value ↔ IsTestOf lines title value := by
  unfold IsTestOf
  simp only [isLast_append_singleton, other, false_and, false_or, not_false_eq_true, true_and]

theorem isTestOf_append_row {value : Json.Value} (other : title ≠ "test")
    (row : IsRow line title values) :
    IsTestOf (lines ++ [line]) title value ↔ value = rowValue (ofLines lines).header values := by
  have titled : IsTitled title line := ⟨values, row⟩
  constructor
  · rintro ⟨-, before, last, columns, cells, isLast, read, inForce, isValue⟩
    rcases isLast_append_singleton.mp isLast with ⟨-, rfl, rfl⟩ | ⟨untitled, -⟩
    · rw [header_ofLines.mpr inForce, ← (read.unique row).2]
      exact isRowValue_iff.mp isValue
    · exact absurd titled untitled
  · rintro rfl
    obtain ⟨columns, inForce⟩ := exists_inForce lines
    refine ⟨other, lines, line, columns, values, isLast_append titled lines, row, inForce, ?_⟩
    rw [header_ofLines.mpr inForce]
    exact isRowValue_iff.mpr rfl

/-- The tests of the report are the last rows of their titles, each read below its header. -/
theorem mem_tests_ofLines {value : Json.Value} :
    (title, value) ∈ (ofLines lines).tests ↔ IsTestOf lines title value := by
  induction lines using List.reverseRecOn with
  | nil =>
      simp only [IsTestOf, not_isLast_nil, false_and, exists_false, and_false, iff_false]
      exact List.not_mem_nil
  | append_singleton lines line ih =>
      rcases ofLines_cases lines line with
        ⟨noRow, same⟩ | ⟨columns, row, header⟩ | ⟨own, values, other, row, added⟩
      · rw [same, ih, isTestOf_append_other (noRow title)]
      · rw [header]
        by_cases test : title = "test"
        · simp only [IsTestOf, test, ne_eq, not_true_eq_false, false_and, iff_false] at ih ⊢
          exact ih
        · have untitled : ¬IsTitled title line := fun titled =>
            test (titled.unique ⟨columns, row⟩)
          rw [isTestOf_append_other untitled]
          exact ih
      · rw [added]
        dsimp only
        rw [Json.mem_insertMember (ascending_ofLines lines), ih]
        by_cases same : title = own
        · subst same
          simp [isTestOf_append_row other row]
        · have untitled : ¬IsTitled title line := fun titled => same (titled.unique ⟨values, row⟩)
          simp [same, isTestOf_append_other untitled]

theorem mem_names_ofLines : title ∈ (ofLines lines).tests.map Prod.fst ↔
    title ≠ "test" ∧ ∃ line ∈ lines, IsTitled title line := by
  rw [← exists_isLast_iff]
  constructor
  · intro member
    obtain ⟨⟨_, value⟩, held, rfl⟩ := List.mem_map.mp member
    obtain ⟨other, before, line, -, -, isLast, -⟩ := mem_tests_ofLines.mp held
    exact ⟨other, before, line, isLast⟩
  · rintro ⟨other, before, line, isLast⟩
    obtain ⟨values, row⟩ := isLast.1
    obtain ⟨columns, inForce⟩ := exists_inForce before
    have held := mem_tests_ofLines.mpr
      ⟨other, before, line, columns, values, isLast, row, inForce, isRowValue_iff.mpr rfl⟩
    exact List.mem_map.mpr ⟨_, held, rfl⟩

/-- Lines that are no rows make no difference. -/
theorem ofLines_filter (lines : List (List Char)) : ofLines (lines.filter isCsvLine) = ofLines lines := by
  induction lines using List.reverseRecOn with
  | nil => rfl
  | append_singleton lines line ih =>
      rw [List.filter_append]
      rcases isRow_or_none line with ⟨title, values, row⟩ | ⟨closed, noRow⟩
      · rw [List.filter_cons_of_pos row.opened, List.filter_nil, ofLines_row row,
          ofLines_row row, ih]
      · rw [List.filter_cons_of_neg (by simp [closed]), List.filter_nil, List.append_nil, ih,
          ofLines_other noRow]

end CsvReport

/-! ### Documents -/

/-- The line is that of a test, and no header. -/
def IsDataLine (line : List Char) : Prop :=
  ∃ title, title ≠ "test" ∧ IsTitled title line

theorem ofOutput_eq_ofLines (stdout : String) :
    CsvReport.ofOutput stdout = .ofLines (linesOf stdout) :=
  rfl

theorem tests_eq_nil_iff (stdout : String) :
    (CsvReport.ofOutput stdout).tests = [] ↔ ∀ line ∈ linesOf stdout, ¬IsDataLine line := by
  rw [ofOutput_eq_ofLines, ← List.map_eq_nil_iff, List.eq_nil_iff_forall_not_mem]
  constructor
  · rintro none line member ⟨title, other, titled⟩
    exact none title (CsvReport.mem_names_ofLines.mpr ⟨other, line, member, titled⟩)
  · intro none title named
    obtain ⟨other, line, member, titled⟩ := CsvReport.mem_names_ofLines.mp named
    exact none line member ⟨title, other, titled⟩

theorem csvDocument_eq_error {stdout : String} {error : Error} :
    csvDocument stdout = .error error ↔
      (CsvReport.ofOutput stdout).tests = [] ∧ error = .emptyOutput := by
  unfold csvDocument
  cases (CsvReport.ofOutput stdout).tests with
  | nil => simp [eq_comm]
  | cons test rest => simp

/-- Every document has its tests in ascending order, each an object of cells in ascending order. -/
theorem csvDocument_shape {stdout : String} {document : Json.Value}
    (made : csvDocument stdout = .ok document) :
    ∃ tests, document = .object [("Tests", .object tests)] ∧ Json.Ascending tests ∧
      ∀ test ∈ tests, ∃ members, test.2 = .object members ∧ Json.Ascending members ∧
        ∀ member ∈ members, ∃ cell, IsCellValue cell member.2 := by
  refine ⟨_, (csvDocument_eq_ok.mp made).2, CsvReport.ascending_ofLines _, ?_⟩
  intro test member
  obtain ⟨-, _, _, _, _, -, -, -, members, same, ascending, paired⟩ :=
    CsvReport.mem_tests_ofLines.mp member
  refine ⟨members, same, ascending, ?_⟩
  intro held present
  obtain ⟨_, cell, -, -, own, -⟩ := (paired held.1 held.2).mp present
  exact ⟨cell, own⟩

/-- What any output comes to. Without a line of a test it is refused. Otherwise the tests are exactly
those that a line is titled with, each once, and the value of each is that of its last line. Two
outputs with the same rows among whatever other lines come to the same. -/
theorem csvDocument_by_lines (stdout : String) :
    (csvDocument stdout = .error .emptyOutput ↔ ∀ line ∈ linesOf stdout, ¬IsDataLine line) ∧
    ((∃ line ∈ linesOf stdout, IsDataLine line) →
      ∃ tests, csvDocument stdout = .ok (.object [("Tests", .object tests)]) ∧
        Json.Ascending tests ∧
        (∀ title, title ∈ tests.map Prod.fst ↔
          title ≠ "test" ∧ ∃ line ∈ linesOf stdout, IsTitled title line) ∧
        ∀ title value, (title, value) ∈ tests ↔ IsTestOf (linesOf stdout) title value) ∧
    ∀ other : String, (linesOf other).filter isCsvLine = (linesOf stdout).filter isCsvLine →
      csvDocument other = csvDocument stdout := by
  refine ⟨?_, ?_, ?_⟩
  · rw [csvDocument_eq_error, tests_eq_nil_iff]
    simp
  · rintro ⟨line, member, data⟩
    refine ⟨(CsvReport.ofOutput stdout).tests, csvDocument_eq_ok.mpr ⟨?_, rfl⟩, ?_⟩
    · rw [Ne, tests_eq_nil_iff]
      exact fun none => none line member data
    · rw [ofOutput_eq_ofLines]
      refine ⟨CsvReport.ascending_ofLines _, ?_, ?_⟩
      · intro title
        exact CsvReport.mem_names_ofLines
      · intro title value
        exact CsvReport.mem_tests_ofLines
  · intro other same
    have reports : CsvReport.ofOutput other = CsvReport.ofOutput stdout := by
      rw [ofOutput_eq_ofLines, ofOutput_eq_ofLines, ← CsvReport.ofLines_filter, same,
        CsvReport.ofLines_filter]
    rw [csvDocument, csvDocument, reports]

end BuildBench.Tool
