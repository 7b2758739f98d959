import BuildBench.Proofs.Tool.CsvReport
import Mathlib.Data.List.Basic

set_option autoImplicit false

/-! Tables of results, printed in rows of quoted cells. Main statement: the document that is made of
the output has the titles as its tests, and for each test the value of every column, exactly if no
text has a comma in it. A comma inside the quotes cuts its cell in two. -/

namespace BuildBench.Tool

open BuildBench.Text

/-! ### Printed rows -/

def quotedCell (cell : String) : List Char :=
  '\x22' :: cell.toList ++ ['\x22']

/-- Quoted cells with a comma between each two. -/
def printedCells (cells : List String) : List Char :=
  [','].intercalate (cells.map quotedCell)

def printedRows (rows : List (List String)) : List Char :=
  (rows.map printedCells).flatMap (· ++ ['\n'])

section Rows

variable {cell : String} {cells : List String}

theorem head?_quotedCell (cell : String) : (quotedCell cell).head? = some '\x22' :=
  rfl

theorem getLast?_quotedCell (cell : String) : (quotedCell cell).getLast? = some '\x22' := by
  rw [quotedCell, List.cons_append, ← List.cons_append]
  exact List.getLast?_concat

theorem mem_quotedCell {c : Char} (other : c ≠ '\x22') :
    c ∈ quotedCell cell ↔ c ∈ cell.toList := by
  simp [quotedCell, other]

theorem printedCells_cons_cons (first second : String) (rest : List String) :
    printedCells (first :: second :: rest) =
      quotedCell first ++ ',' :: printedCells (second :: rest) := by
  rw [printedCells, List.map_cons, List.map_cons, List.intercalate_cons_cons, List.append_assoc]
  rfl

theorem head?_printedCells (cell : String) (rest : List String) :
    (printedCells (cell :: rest)).head? = some '\x22' := by
  cases rest with
  | nil => rfl
  | cons next others =>
      rw [printedCells_cons_cons]
      rfl

theorem getLast?_printedCells (cell : String) (rest : List String) :
    (printedCells (cell :: rest)).getLast? = some '\x22' := by
  induction rest generalizing cell with
  | nil =>
      rw [printedCells, List.map_singleton, List.intercalate_singleton]
      exact getLast?_quotedCell cell
  | cons next others ih =>
      rw [printedCells_cons_cons, List.getLast?_append, List.getLast?_cons, ih]
      rfl

/-- Nothing but the cells, the quotes and the commas stands in a row. -/
theorem notMem_printedCells {c : Char} (notQuote : c ≠ '\x22') (notComma : c ≠ ',')
    (absent : ∀ cell ∈ cells, c ∉ cell.toList) : c ∉ printedCells cells := by
  induction cells with
  | nil => exact List.not_mem_nil
  | cons cell rest ih =>
      have first : c ∉ quotedCell cell := mt (mem_quotedCell notQuote).mp (absent cell
        List.mem_cons_self)
      have others := ih fun later member => absent later (List.mem_cons_of_mem _ member)
      cases rest with
      | nil =>
          rw [printedCells, List.map_singleton, List.intercalate_singleton]
          exact first
      | cons next more =>
          rw [printedCells_cons_cons, List.mem_append, List.mem_cons]
          rintro (own | same | later)
          · exact first own
          · exact notComma same
          · exact others later

/-- Quotes at both ends keep the blanks between them. -/
theorem trimChars_of_quotes {text : List Char} (starts : text.head? = some '\x22')
    (ends : text.getLast? = some '\x22') : trimChars text = text := by
  have stays : ∀ c ∈ some '\x22', isBlank c = false := by
    rintro c ⟨⟩
    decide
  refine dropAround_of_ends ?_ ?_
  · rw [starts]
    exact stays
  · rw [ends]
    exact stays

theorem cellText_quotedCell (noQuote : '\x22' ∉ cell.toList) :
    cellText (quotedCell cell) = cell.toList := by
  rw [cellText, trimChars_of_quotes (head?_quotedCell cell) (getLast?_quotedCell cell),
    dropAround_eq_iff]
  · exact ⟨['\x22'], ['\x22'], rfl, by simp, by simp⟩
  · intro c member
    rw [decide_eq_false_iff_not]
    rintro rfl
    exact noQuote member

/-- A printed row is read back, if no cell holds a quote or a comma. -/
theorem rowCells?_printedCells (inhabited : cells ≠ [])
    (noQuote : ∀ cell ∈ cells, '\x22' ∉ cell.toList) (noComma : ∀ cell ∈ cells, ',' ∉ cell.toList) :
    rowCells? (printedCells cells) = some cells := by
  obtain ⟨cell, rest, rfl⟩ := List.exists_cons_of_ne_nil inhabited
  have head := head?_printedCells cell rest
  have free : ∀ part ∈ (cell :: rest).map quotedCell, ',' ∉ part := by
    intro part member
    obtain ⟨own, present, rfl⟩ := List.mem_map.mp member
    exact mt (mem_quotedCell (by decide)).mp (noComma own present)
  have read : ((cell :: rest).map quotedCell).map (fun part => String.ofList (cellText part)) =
      cell :: rest := by
    rw [List.map_map]
    refine Eq.trans (List.map_congr_left fun own present => ?_) (List.map_id _)
    rw [Function.comp_apply, cellText_quotedCell (noQuote own present), String.ofList_toList, id]
  unfold rowCells?
  rw [trimChars_of_quotes head (getLast?_printedCells cell rest)]
  cases text : printedCells (cell :: rest) with
  | nil =>
      rw [text] at head
      cases head
  | cons c others =>
      rw [text] at head
      cases head
      dsimp only
      rw [if_pos rfl, ← text, printedCells, pieces_intercalate (by simp) free, read]

theorem rows_printedRows {table : List (List String)} (inhabited : ∀ cells ∈ table, cells ≠ [])
    (noQuote : ∀ cells ∈ table, ∀ cell ∈ cells, '\x22' ∉ cell.toList)
    (noLineFeed : ∀ cells ∈ table, ∀ cell ∈ cells, '\n' ∉ cell.toList)
    (noComma : ∀ cells ∈ table, ∀ cell ∈ cells, ',' ∉ cell.toList) :
    rows (String.ofList (printedRows table)) = table := by
  have free : ∀ part ∈ table.map printedCells, '\n' ∉ part := by
    intro part member
    obtain ⟨cells, present, rfl⟩ := List.mem_map.mp member
    exact notMem_printedCells (by decide) (by decide) (noLineFeed cells present)
  have last : rowCells? [] = none := rfl
  rw [rows, String.toList_ofList, printedRows, pieces_flatMap free, List.filterMap_append,
    List.filterMap_cons_none last, List.filterMap_nil, List.append_nil, List.filterMap_map]
  refine Eq.trans (List.filterMap_congr fun cells present => ?_) List.filterMap_some
  exact rowCells?_printedCells (inhabited cells present) (noQuote cells present)
    (noComma cells present)

end Rows

/-! ### Tables -/

/-- The rows of a table: the columns under their own title, and then the tests. -/
def tableRows (columns : List String) (tests : List (String × List String)) : List (List String) :=
  ("test" :: columns) :: tests.map fun test => test.1 :: test.2

/-- The results of some tests, with a value for each column. No text has a quote or a line feed in
it. -/
structure Table where
  columns : List String
  tests : List (String × List String)
  distinctColumns : columns.Nodup
  distinctTitles : (tests.map Prod.fst).Nodup
  untitled : ∀ test ∈ tests, test.1 ≠ "test"
  inhabited : tests ≠ []
  complete : ∀ test ∈ tests, test.2.length = columns.length
  noQuote : ∀ cells ∈ tableRows columns tests, ∀ cell ∈ cells, '\x22' ∉ cell.toList
  noLineFeed : ∀ cells ∈ tableRows columns tests, ∀ cell ∈ cells, '\n' ∉ cell.toList

namespace Table

/-- The output of a client that reports the table. -/
def print (table : Table) : String :=
  String.ofList (printedRows (tableRows table.columns table.tests))

def CommaFree (table : Table) : Prop :=
  ∀ cells ∈ tableRows table.columns table.tests, ∀ cell ∈ cells, ',' ∉ cell.toList

/-- The tests of a document are those of a table, each with the value of every column. -/
structure IsIn (table : Table) (tests : List (String × Json.Value)) : Prop where
  titles : (tests.map Prod.fst).Perm (table.tests.map Prod.fst)
  values : ∀ test ∈ table.tests, ∃ members, (test.1, .object members) ∈ tests ∧
    (members.map Prod.fst).Perm table.columns ∧
    ∀ cell ∈ table.columns.zip test.2, ∃ value, (cell.1, value) ∈ members ∧
      IsCellValue cell.2 value

/-- The document that is made of the printed table holds what the table does. -/
def Survives (table : Table) : Prop :=
  ∃ tests, csvDocument table.print = .ok (.object [("Tests", .object tests)]) ∧ table.IsIn tests

theorem tableRows_ne_nil {columns : List String} {tests : List (String × List String)} :
    ∀ cells ∈ tableRows columns tests, cells ≠ [] := by
  intro cells member
  rcases List.mem_cons.mp member with rfl | later
  · exact List.cons_ne_nil _ _
  · obtain ⟨test, -, rfl⟩ := List.mem_map.mp later
    exact List.cons_ne_nil _ _

def document (table : Table) : List (String × Json.Value) :=
  Json.memberList
    (table.tests.map fun test => (test.1, rowValue ("test" :: table.columns) test.2))

theorem map_fst_document (table : Table) :
    ((table.tests.map fun test => (test.1, rowValue ("test" :: table.columns) test.2)).map
      Prod.fst) = table.tests.map Prod.fst := by
  rw [List.map_map]
  rfl

theorem ofOutput_print (table : Table) (free : table.CommaFree) :
    CsvReport.ofOutput table.print =
      { header := "test" :: table.columns, tests := table.document } := by
  have read := rows_printedRows tableRows_ne_nil table.noQuote table.noLineFeed free
  have titled : CsvReport.addRow .start ("test" :: table.columns) =
      { header := "test" :: table.columns, tests := [] } := by
    rw [CsvReport.addRow, if_pos rfl]
    rfl
  rw [CsvReport.ofOutput, print, read, tableRows, List.foldl_cons, titled,
    CsvReport.foldl_addRow _ table.untitled, document, Json.memberList, List.foldl_map]

theorem isIn_document (table : Table) : table.IsIn table.document := by
  have distinct := table.distinctTitles
  rw [← table.map_fst_document] at distinct
  constructor
  · have titles := Json.names_memberList_perm distinct
    rw [table.map_fst_document] at titles
    exact titles
  · intro test present
    let cells := table.columns.zip test.2
    let members := cells.map fun cell => (cell.1, readCell cell.2)
    -- There is a value for each column, so that none is left out of the pairs.
    have columns : members.map Prod.fst = table.columns := by
      rw [List.map_map]
      exact List.map_fst_zip (Nat.le_of_eq (table.complete test present).symm)
    have apart : (members.map Prod.fst).Nodup := by
      rw [columns]
      exact table.distinctColumns
    refine ⟨Json.memberList members, ?_, ?_, ?_⟩
    · exact (Json.mem_memberList_of_nodup distinct).mpr (List.mem_map.mpr ⟨test, present, rfl⟩)
    · have named := Json.names_memberList_perm apart
      rw [columns] at named
      exact named
    · intro cell member
      refine ⟨readCell cell.2, ?_, readCell_isCellValue cell.2⟩
      exact (Json.mem_memberList_of_nodup apart).mpr (List.mem_map.mpr ⟨cell, member, rfl⟩)

/-- What is read from the output of a client has no commas, so that a table with one is not in it. -/
theorem commaFree_of_isIn (table : Table) {tests : List (String × Json.Value)}
    (free : ∀ test ∈ tests, IsCommaFreeTest test) (holds : table.IsIn tests) : table.CommaFree := by
  intro cells member cell present
  rcases List.mem_cons.mp member with rfl | later
  · rcases List.mem_cons.mp present with rfl | column
    · decide
    · -- Every test has all columns, and there is a test.
      obtain ⟨test, some⟩ := List.exists_mem_of_ne_nil _ table.inhabited
      obtain ⟨members, held, columns, -⟩ := holds.values test some
      obtain ⟨named, listed, rfl⟩ := List.mem_map.mp (columns.mem_iff.mpr column)
      exact ((free _ held).values members rfl named listed).1
  · obtain ⟨test, own, rfl⟩ := List.mem_map.mp later
    obtain ⟨members, held, -, values⟩ := holds.values test own
    rcases List.mem_cons.mp present with rfl | value
    · exact (free _ held).title
    · have whole : (table.columns.zip test.2).map Prod.snd = test.2 :=
        List.map_snd_zip (Nat.le_of_eq (table.complete test own))
      rw [← whole] at value
      obtain ⟨pair, paired, rfl⟩ := List.mem_map.mp value
      obtain ⟨stored, listed, reads⟩ := values pair paired
      exact reads.commaFree ((free _ held).values members rfl _ listed).2

/-- A table is read back as it was printed exactly if none of its texts has a comma. -/
theorem survives_iff_commaFree (table : Table) : table.Survives ↔ table.CommaFree := by
  constructor
  · rintro ⟨tests, made, holds⟩
    rw [tests_of_csvDocument made] at holds
    exact table.commaFree_of_isIn (CsvReport.ofOutput_isCommaFree table.print).tests holds
  · intro free
    -- Without commas every line is cut into the cells that it was printed from.
    have holds := table.isIn_document
    have read := table.ofOutput_print free
    refine ⟨table.document, csvDocument_eq_ok.mpr ⟨?_, by rw [read]⟩, holds⟩
    rw [read]
    intro empty
    have titles := holds.titles
    rw [show table.document = [] from empty] at titles
    exact table.inhabited (List.map_eq_nil_iff.mp titles.symm.eq_nil)

/-- A custom command is the title of its test, here one with a comma in it. -/
def commaTable : Table where
  columns := ["rps"]
  tests := [("SET a,b", ["1000.00"])]
  distinctColumns := by decide
  distinctTitles := by decide
  untitled := by decide
  inhabited := by decide
  complete := by decide
  noQuote := by decide
  noLineFeed := by decide

theorem rows_commaTable : rows commaTable.print = [["test", "rps"], ["SET a", "b", "1000.00"]] := by
  rw [rows, print, String.toList_ofList]
  decide

/-- The title is cut at the comma, and its other part stands where the first value should. -/
theorem commaTable_lost : ¬commaTable.Survives := by
  rintro ⟨tests, made, holds⟩
  have read : (CsvReport.ofOutput commaTable.print).tests =
      [("SET a", rowValue ["test", "rps"] ["b", "1000.00"])] := by
    rw [CsvReport.ofOutput, rows_commaTable]
    rfl
  have titles := holds.titles
  rw [tests_of_csvDocument made, read] at titles
  exact absurd (titles.mem_iff.mp List.mem_cons_self) (by decide)

end Table

end BuildBench.Tool
