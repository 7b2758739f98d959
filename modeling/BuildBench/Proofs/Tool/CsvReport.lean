import BuildBench.Proofs.Json.Members
import BuildBench.Proofs.Number.Decimal
import BuildBench.Proofs.Text.Parts
import BuildBench.Tool.CsvReport

set_option autoImplicit false

/-! Reports that are read from rows of cells. Main statement: whatever the output is, no name and no
text in its document has a comma in it, since lines are cut at commas. -/

namespace BuildBench.Tool

open BuildBench.Text

/-! ### Values -/

/-- The value of a cell: a number if its text is a finite one, and the text otherwise. -/
inductive IsCellValue (cell : String) : Json.Value → Prop
  | number {value : Number.Binary64} (read : Number.Decimal.read cell.toList = some value)
      (finite : value.isFinite = true) : IsCellValue cell (.double value)
  | text (other : ∀ value, Number.Decimal.read cell.toList = some value →
      value.isFinite = false) : IsCellValue cell (.text cell)

theorem readCell_isCellValue (cell : String) : IsCellValue cell (readCell cell) := by
  unfold readCell
  cases read : Number.Decimal.read cell.toList with
  | none =>
      refine .text ?_
      intro value other
      rw [read] at other
      cases other
  | some value =>
      dsimp only
      split
      · rename_i finite
        exact .number read finite
      · rename_i other
        refine .text ?_
        intro found same
        rw [read] at same
        rw [← Option.some.inj same]
        exact Bool.eq_false_iff.mpr other

theorem IsCellValue.ne_array {cell : String} {value : Json.Value} (own : IsCellValue cell value)
    (items : List Json.Value) : value ≠ .array items := by
  cases own <;> simp

theorem IsCellValue.ne_object {cell : String} {value : Json.Value} (own : IsCellValue cell value)
    (members : List (String × Json.Value)) : value ≠ .object members := by
  cases own <;> simp

def IsCommaFreeValue (value : Json.Value) : Prop :=
  ∀ text, value = .text text → ',' ∉ text.toList

theorem IsCellValue.commaFree {cell : String} {value : Json.Value} (own : IsCellValue cell value)
    (free : IsCommaFreeValue value) : ',' ∉ cell.toList := by
  cases own with
  | number read finite =>
      intro comma
      rw [Number.Decimal.read_of_comma comma] at read
      cases read
  | text other => exact free cell rfl

theorem readCell_commaFree {cell : String} (free : ',' ∉ cell.toList) :
    IsCommaFreeValue (readCell cell) := by
  intro text same
  have own := readCell_isCellValue cell
  rw [same] at own
  cases own
  exact free

/-! ### Rows -/

theorem rows_commaFree (stdout : String) :
    ∀ cells ∈ rows stdout, ∀ cell ∈ cells, ',' ∉ cell.toList := by
  intro cells member cell present
  obtain ⟨line, -, read⟩ := List.mem_filterMap.mp member
  unfold rowCells? at read
  split at read
  · cases read
  · split at read
    · obtain rfl := Option.some.inj read
      obtain ⟨part, cut, rfl⟩ := List.mem_map.mp present
      rw [String.toList_ofList]
      intro comma
      exact notMem_of_mem_pieces cut (mem_of_mem_dropAround (mem_of_mem_dropAround comma))
    · cases read

theorem CsvReport.foldl_addRow (report : CsvReport) {tests : List (String × List String)}
    (untitled : ∀ test ∈ tests, test.1 ≠ "test") :
    (tests.map fun test => test.1 :: test.2).foldl addRow report =
      { report with
        tests := tests.foldl
          (fun held test => Json.insertMember test.1 (rowValue report.header test.2) held)
          report.tests } := by
  induction tests generalizing report with
  | nil => rfl
  | cons test rest ih =>
      rw [List.map_cons, List.foldl_cons, List.foldl_cons, addRow,
        if_neg (untitled test List.mem_cons_self),
        ih _ fun later member => untitled later (List.mem_cons_of_mem _ member)]

/-! ### Commas -/

/-- Neither the title of a test nor its columns nor the texts in them have a comma. -/
structure IsCommaFreeTest (test : String × Json.Value) : Prop where
  title : ',' ∉ test.1.toList
  values : ∀ members, test.2 = .object members → ∀ member ∈ members,
    ',' ∉ member.1.toList ∧ IsCommaFreeValue member.2

structure CsvReport.IsCommaFree (report : CsvReport) : Prop where
  header : ∀ column ∈ report.header, ',' ∉ column.toList
  tests : ∀ test ∈ report.tests, IsCommaFreeTest test

namespace CsvReport

variable {report : CsvReport} {cells : List String}

theorem IsCommaFree.addRow (free : report.IsCommaFree)
    (noComma : ∀ cell ∈ cells, ',' ∉ cell.toList) : (report.addRow cells).IsCommaFree := by
  cases cells with
  | nil => exact free
  | cons title values =>
      rw [CsvReport.addRow]
      by_cases header : title = "test"
      · rw [if_pos header]
        exact ⟨noComma, free.tests⟩
      · rw [if_neg header]
        refine ⟨free.header, ?_⟩
        intro test member
        rcases Json.mem_of_mem_insertMember member with rfl | earlier
        · refine ⟨noComma title List.mem_cons_self, ?_⟩
          intro members same member held
          obtain rfl := (Json.Value.object.inj same).symm
          obtain ⟨⟨column, cell⟩, paired, rfl⟩ := List.mem_map.mp (Json.mem_of_mem_memberList held)
          obtain ⟨named, valued⟩ := List.of_mem_zip paired
          exact ⟨free.header column (List.mem_of_mem_drop named),
            readCell_commaFree (noComma cell (List.mem_cons_of_mem _ valued))⟩
        · exact free.tests test earlier

theorem ofOutput_isCommaFree (stdout : String) : (ofOutput stdout).IsCommaFree := by
  have start : CsvReport.start.IsCommaFree := by
    refine ⟨by decide, ?_⟩
    intro test member
    cases member
  have run (table : List (List String)) (report : CsvReport) (free : report.IsCommaFree)
      (noComma : ∀ cells ∈ table, ∀ cell ∈ cells, ',' ∉ cell.toList) :
      (table.foldl CsvReport.addRow report).IsCommaFree := by
    induction table generalizing report with
    | nil => exact free
    | cons cells rest ih =>
        exact ih _ (free.addRow (noComma cells List.mem_cons_self)) fun later member =>
          noComma later (List.mem_cons_of_mem _ member)
  exact run _ _ start (rows_commaFree stdout)

end CsvReport

/-! ### Documents -/

theorem csvDocument_eq_ok {stdout : String} {document : Json.Value} :
    csvDocument stdout = .ok document ↔ (CsvReport.ofOutput stdout).tests ≠ [] ∧
      document = .object [("Tests", .object (CsvReport.ofOutput stdout).tests)] := by
  unfold csvDocument
  cases (CsvReport.ofOutput stdout).tests with
  | nil => simp
  | cons test rest => simp [eq_comm]

theorem tests_of_csvDocument {stdout : String} {tests : List (String × Json.Value)}
    (made : csvDocument stdout = .ok (.object [("Tests", .object tests)])) :
    tests = (CsvReport.ofOutput stdout).tests := by
  have members := Json.Value.object.inj (csvDocument_eq_ok.mp made).2
  exact Json.Value.object.inj (Prod.mk.inj (List.cons.inj members).1).2

end BuildBench.Tool
