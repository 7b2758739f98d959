import BuildBench.Proofs.Json.RoundTrip
import BuildBench.Proofs.Run.Files
import BuildBench.Proofs.Tool.CsvOutput
import BuildBench.Rehearsal.Script

set_option autoImplicit false

/-! Results that are stored and read back. Main statement: once the results in some output are stored,
the document that is read back is the one that was made of the output, whatever characters its names
and cells have, if its doubles are read back; and output without a test leaves everything as it is. -/

namespace BuildBench.Run

open BuildBench.Files BuildBench.Text

variable {σ τ : Type}

/-! ### Documents of output -/

section Documents

variable {stdout : String} {document : Json.Value}

/-- Apart from its objects, a document has only texts and finite numbers. -/
theorem csvDocument_parts (made : Tool.csvDocument stdout = .ok document) (part : Json.Value)
    (inside : Json.IsPart part document) :
    (∃ members, part = .object members) ∨ (∃ text, part = .text text) ∨
      ∃ value, part = .double value ∧ value.isFinite = true := by
  obtain ⟨tests, rfl, -, shape⟩ := Tool.csvDocument_shape made
  cases inside with
  | whole => exact Or.inl ⟨_, rfl⟩
  | member own inside =>
      obtain rfl := List.mem_singleton.mp own
      cases inside with
      | whole => exact Or.inl ⟨_, rfl⟩
      | @member _ test listed inside =>
          obtain ⟨members, same, -, cells⟩ := shape test listed
          rw [same] at inside
          cases inside with
          | whole => exact Or.inl ⟨_, rfl⟩
          | member held inside =>
              obtain ⟨cell, isCell⟩ := cells _ held
              rw [inside.of_leaf isCell.ne_array isCell.ne_object]
              right
              generalize Prod.snd _ = value at isCell
              cases isCell with
              | number read finite => exact Or.inr ⟨_, rfl, finite⟩
              | text other => exact Or.inl ⟨_, rfl⟩

theorem rereads_cell {cell : String} {value : Json.Value} (own : Tool.IsCellValue cell value)
    (depth : Nat) (doubles : ∀ double, value = .double double → Json.IsReread double) :
    Json.Rereads depth value := by
  cases own with
  | number read finite => exact Json.rereads_double depth (doubles _ rfl)
  | text other => exact Json.rereads_text depth cell

theorem csvDocument_rereads (made : Tool.csvDocument stdout = .ok document)
    (doubles : ∀ value, Json.IsPart (.double value) document → Json.IsReread value) (depth : Nat) :
    Json.Rereads (depth + 3) document := by
  obtain ⟨tests, rfl, ascending, shape⟩ := Tool.csvDocument_shape made
  have rows : ∀ test ∈ tests, Json.Rereads (depth + 1) test.2 := by
    intro test listed
    obtain ⟨members, same, ascends, cells⟩ := shape test listed
    rw [same]
    refine Json.rereads_object ascends ?_
    intro member held
    obtain ⟨cell, isCell⟩ := cells member held
    refine rereads_cell isCell depth ?_
    intro double own
    apply doubles
    have inRow : Json.IsPart (.double double) test.2 := by
      rw [same]
      exact .member held (own ▸ .whole)
    exact .member List.mem_cons_self (.member listed inRow)
  refine Json.rereads_object (List.pairwise_singleton _ _) ?_
  intro member only
  rw [List.mem_singleton.mp only]
  exact Json.rereads_object ascending rows

end Documents

/-! ### Storing -/

section Storing

variable {ω : Type} {write : String → Bytes → StateM ω (Except IoError Unit)} {path stdout : String}
  {state : ω}

theorem storeResults_of_error {error : Tool.Error} (refused : Tool.csvDocument stdout = .error error) :
    storeResults write .redisBenchmark path stdout state = (.error error, state) := by
  rw [storeResults, Tool.resultFile, refused]
  rfl

/-- What is made of the output is written, and how that ends decides how storing ends. -/
theorem storeResults_of_ok {document : Json.Value} {answer : Except IoError Unit} {after : ω}
    (made : Tool.csvDocument stdout = .ok document)
    (answered : write path (Utf8.encodeString document.spread) state = (answer, after)) :
    storeResults write .redisBenchmark path stdout state =
      (answer.mapError fun cause => .writeResults path cause.message, after) := by
  rw [storeResults, Tool.resultFile, made]
  simp only [bind, Except.bind, StateT.bind, pure, Except.pure, answered]
  cases answer <;> rfl

end Storing

/-- A file that was written holds what was written to it. -/
theorem content_of_writeFile {host : Host σ} {path : String} {data : Bytes} {bench after : Bench σ τ}
    (written : Action.writeFile host path data bench = (.ok (), after)) :
    after.files.content path = .ok data := by
  rw [Action.writeFile] at written
  rcases Action.change_files host (.write path) (·.writeFile path Tree.plainMode data) bench with
    ⟨cause, failed, -⟩ | ⟨-, stepped⟩
  · rw [written] at failed
    cases failed
  · rw [written] at stepped
    exact Tree.content_writeFile stepped

theorem content_of_admitted {host : Host σ} {path : String} {bench : Bench σ τ}
    (admitted : (host.refuse (.read path) bench.host).1 = none) :
    (Action.content host path bench).1 = bench.files.content path := by
  have asked : (Action.onHost (host.refuse (.read path)) bench : _ × Bench σ τ).1 = none := admitted
  rw [Action.content, Action.inspect, Action.bind_apply, asked]
  rfl

/-! ### Reading back -/

section ReadingBack

variable {host : Host σ} {path stdout : String} {bench : Bench σ τ}

/-- Results that are stored are the whole content of their file. -/
theorem content_of_stored
    (stored : (storeResults (Action.writeFile host) .redisBenchmark path stdout bench).1 = .ok ()) :
    ∃ document, Tool.csvDocument stdout = .ok document ∧
      (storeResults (Action.writeFile host) .redisBenchmark path stdout bench).2.files.content path =
        .ok (Utf8.encodeString document.spread) := by
  cases made : Tool.csvDocument stdout with
  | error error =>
      rw [storeResults_of_error made] at stored
      cases stored
  | ok document =>
      refine ⟨document, rfl, ?_⟩
      cases written : Action.writeFile host path (Utf8.encodeString document.spread) bench with
      | mk answer after =>
          rw [storeResults_of_ok made written] at stored ⊢
          cases answer with
          | error cause => cases stored
          | ok done => exact content_of_writeFile written

theorem storeResults_of_emptyOutput
    (empty : (storeResults (Action.writeFile host) .redisBenchmark path stdout bench).1 =
      .error .emptyOutput) :
    (storeResults (Action.writeFile host) .redisBenchmark path stdout bench).2 = bench := by
  cases made : Tool.csvDocument stdout with
  | error error => rw [storeResults_of_error made]
  | ok document =>
      cases written : Action.writeFile host path (Utf8.encodeString document.spread) bench with
      | mk answer after =>
          rw [storeResults_of_ok made written] at empty
          cases answer <;> cases empty

theorem documentOf_written {document : Json.Value} (made : Tool.csvDocument stdout = .ok document)
    (doubles : ∀ value, Json.IsPart (.double value) document → Json.IsReread value) :
    documentOf path (.ok (Utf8.encodeString document.spread)) = .ok document := by
  have rereads : Json.Rereads Json.maximumDepth document := csvDocument_rereads made doubles 124
  rw [documentOf, Json.readBytes_written rereads]

end ReadingBack

/-- Results are read back as they were made of the output, or nothing was stored. The host may refuse
to write them or to read them, and of the doubles it is only asked that each one alone is read back
from its text. -/
theorem stored_results_read_back (host : Host σ) (path stdout : String) (bench : Bench σ τ) :
    let stored := storeResults (Action.writeFile host) .redisBenchmark path stdout bench
    (stored.1 = .ok () → ∃ document, Tool.csvDocument stdout = .ok document ∧
      (∀ part, Json.IsPart part document → (∃ members, part = .object members) ∨
        (∃ text, part = .text text) ∨ ∃ value, part = .double value ∧ value.isFinite = true) ∧
      ((∀ value, Json.IsPart (.double value) document → Json.IsReread value) →
        documentOf path (stored.2.files.content path) = .ok document ∧
        ((host.refuse (.read path) stored.2.host).1 = none →
          documentOf path (Action.content host path stored.2).1 = .ok document))) ∧
    (stored.1 = .error .emptyOutput → stored.2 = bench) := by
  intro stored
  constructor
  · intro done
    obtain ⟨document, made, content⟩ := content_of_stored done
    refine ⟨document, made, csvDocument_parts made, ?_⟩
    intro doubles
    have reads : documentOf path (stored.2.files.content path) = .ok document := by
      rw [content]
      exact documentOf_written made doubles
    refine ⟨reads, ?_⟩
    intro admitted
    rw [content_of_admitted admitted]
    exact reads
  · exact storeResults_of_emptyOutput

/-! ### One test -/

/-- The output of one test, and the document that is made of it. -/
def oneTest : String := "\"SET\",\"1000.00\"\n"

def oneRate : Number.Binary64 := .finite false 8796093022208000 (-43)

def oneTestDocument : Json.Value :=
  .object [("Tests", .object [("SET", .object [("rps", .double oneRate)])])]

theorem csvDocument_oneTest : Tool.csvDocument oneTest = .ok oneTestDocument :=
  rfl

theorem oneRate_isReread : Json.IsReread oneRate := by
  have text : (Json.doubleLayout.write oneRate).toList = "1000.0".toList := by
    rw [oneRate, Number.Layout.write, String.toList_ofList]
    decide
  rw [Json.IsReread, text]
  rfl

theorem eq_oneRate {value : Number.Binary64} (inside : Json.IsPart (.double value) oneTestDocument) :
    value = oneRate := by
  have only {name : String} {held : Json.Value}
      (inside : Json.IsPart (.double value) (.object [(name, held)])) :
      Json.IsPart (.double value) held := by
    cases inside with
    | member own inside =>
        rw [List.mem_singleton.mp own] at inside
        exact inside
  cases only (only (only inside)) with
  | whole => rfl

theorem writeFile_empty (data : Bytes) :
    Tree.empty.writeFile "/out.json" Tree.plainMode data =
      .ok (Tree.empty.put ["out.json"] (.file Tree.plainMode data)) := by
  have passable : Tree.Passable "/out.json" := by
    constructor <;> decide
  have isName : IsName "out.json" := by
    constructor <;> decide
  have reached : Tree.empty.resolve "/out.json" .newFile = .ok ["out.json"] := by
    rw [Tree.resolve_eq_walk passable]
    exact Tree.walk_to_new isName (by decide) rfl
  rw [Tree.writeFile, reached]
  rfl

theorem stored_results_read_back_rehearsed :
    let stored := storeResults (Action.writeFile (Rehearsal.host ⟨0, 0⟩)) .redisBenchmark "/out.json"
      oneTest (.start .start () .empty 8)
    stored.1 = .ok () ∧
      documentOf "/out.json" (stored.2.files.content "/out.json") = .ok oneTestDocument := by
  intro stored
  have written : Action.writeFile (Rehearsal.host ⟨0, 0⟩) "/out.json"
      (Utf8.encodeString oneTestDocument.spread) (.start .start () .empty 8) = (.ok (), _) :=
    Action.change_admitted rfl (writeFile_empty _)
  have done : stored.1 = .ok () := by
    rw [show stored = _ from storeResults_of_ok csvDocument_oneTest written]
    rfl
  obtain ⟨document, made, -, reread⟩ := (stored_results_read_back _ _ _ _).1 done
  obtain rfl := Except.ok.inj (csvDocument_oneTest.symm.trans made)
  refine ⟨done, (reread ?_).1⟩
  intro value inside
  rw [eq_oneRate inside]
  exact oneRate_isReread

end BuildBench.Run
