import Mathlib.Data.List.Forall2
import BuildBench.Definition.Suite

set_option autoImplicit false

/-! The database parameters of a suite. Main statements: a document is a suite exactly if every
parameter in it has a name and a value that are texts, numbers, or truth values, and the first one
that has not is what is wrong with it; and the suite has the texts of all its parameters, in the
order in which they are declared. -/

namespace BuildBench.Yaml

/-- The text of a value. Nothing, collections, and tagged values have none. -/
inductive Value.Says : Value → String → Prop
  | text (value : String) : Says (.text value) value
  | integer (value : Int) : Says (.integer value) (toString value)
  | double (value : Number.Binary64) : Says (.double value) (doubleLayout.write value)
  | yes : Says (.bool true) "yes"
  | no : Says (.bool false) "no"

theorem Value.scalarText?_eq_some {value : Value} {text : String} :
    value.scalarText? = some text ↔ value.Says text := by
  constructor
  · intro spelled
    cases value with
    | text value =>
        cases spelled
        exact .text _
    | integer value =>
        cases spelled
        exact .integer value
    | double value =>
        cases spelled
        exact .double value
    | bool value =>
        cases value with
        | true =>
            cases spelled
            exact .yes
        | false =>
            cases spelled
            exact .no
    | null => cases spelled
    | sequence items => cases spelled
    | mapping entries => cases spelled
    | tagged tag value => cases spelled
  · intro worded
    cases worded <;> rfl

end BuildBench.Yaml

namespace BuildBench.Definition.Suite

open BuildBench.Yaml

/-- A parameter has the texts of the name and the value that a document gives it. -/
structure Declares (entry : Value × Value) (parameter : String × String) : Prop where
  name : entry.1.Says parameter.1
  value : entry.2.Says parameter.2

/-- What is wrong with an entry. Its name comes first. -/
inductive Misnamed (entry : Value × Value) : ParameterDefect → Prop
  | name (wordless : ∀ text, ¬entry.1.Says text) : Misnamed entry (.name entry.1.shown)
  | value {name : String} (named : entry.1.Says name) (wordless : ∀ text, ¬entry.2.Says text) :
      Misnamed entry (.value name)

/-- The first entry with which something is wrong, after others that are parameters. -/
def FirstMisnamed (entries : List (Value × Value)) (defect : ParameterDefect) : Prop :=
  ∃ before entry after, entries = before ++ entry :: after ∧
    (∀ earlier ∈ before, ∃ parameter, Declares earlier parameter) ∧ Misnamed entry defect

theorem says_none {value : Value} (wordless : value.scalarText? = none) :
    ∀ text, ¬value.Says text := by
  intro text worded
  rw [Value.scalarText?_eq_some.mpr worded] at wordless
  cases wordless

theorem parameterText_eq_ok {entry : Value × Value} {parameter : String × String} :
    parameterText entry = .ok parameter ↔ Declares entry parameter := by
  obtain ⟨name, value⟩ := parameter
  constructor
  · intro read
    unfold parameterText at read
    split at read
    · cases read
    · rename_i named
      split at read
      · cases read
      · rename_i valued
        cases read
        exact ⟨Value.scalarText?_eq_some.mp named, Value.scalarText?_eq_some.mp valued⟩
  · intro declares
    have named := Value.scalarText?_eq_some.mpr declares.name
    have valued := Value.scalarText?_eq_some.mpr declares.value
    simp only [parameterText, named, valued]

theorem parameterText_eq_error {entry : Value × Value} {defect : ParameterDefect}
    (failed : parameterText entry = .error defect) : Misnamed entry defect := by
  unfold parameterText at failed
  split at failed
  · rename_i nameless
    cases failed
    exact .name (says_none nameless)
  · rename_i named
    split at failed
    · rename_i valueless
      cases failed
      exact .value (Value.scalarText?_eq_some.mp named) (says_none valueless)
    · cases failed

theorem parameterTexts_eq_ok {entries : List (Value × Value)}
    {parameters : List (String × String)} :
    parameterTexts entries = .ok parameters ↔ List.Forall₂ Declares entries parameters := by
  induction entries generalizing parameters with
  | nil =>
      rw [parameterTexts, Except.ok.injEq, List.forall₂_nil_left_iff]
      exact eq_comm
  | cons entry rest ih =>
      rw [parameterTexts, List.forall₂_cons_left_iff]
      cases read : parameterText entry with
      | error defect =>
          constructor
          · intro same
            cases same
          · rintro ⟨parameter, others, declares, -, -⟩
            rw [parameterText_eq_ok.mpr declares] at read
            cases read
      | ok parameter =>
          have declares := parameterText_eq_ok.mp read
          cases readRest : parameterTexts rest with
          | error defect =>
              constructor
              · intro same
                cases same
              · rintro ⟨other, others, -, all, -⟩
                rw [ih.mpr all] at readRest
                cases readRest
          | ok others =>
              constructor
              · intro same
                cases same
                exact ⟨parameter, others, declares, ih.mp readRest, rfl⟩
              · rintro ⟨other, given, own, all, rfl⟩
                rw [parameterText_eq_ok.mpr own] at read
                rw [ih.mpr all] at readRest
                cases read
                cases readRest
                rfl

theorem parameterTexts_eq_error {entries : List (Value × Value)} {defect : ParameterDefect}
    (failed : parameterTexts entries = .error defect) : FirstMisnamed entries defect := by
  induction entries with
  | nil => cases failed
  | cons entry rest ih =>
      rw [parameterTexts] at failed
      cases read : parameterText entry with
      | error own =>
          rw [read] at failed
          cases failed
          refine ⟨[], entry, rest, rfl, ?_, parameterText_eq_error read⟩
          intro earlier member
          cases member
      | ok parameter =>
          rw [read] at failed
          cases readRest : parameterTexts rest with
          | ok others =>
              rw [readRest] at failed
              cases failed
          | error later =>
              rw [readRest] at failed
              cases failed
              obtain ⟨before, culprit, after, parts, fine, wrong⟩ := ih readRest
              refine ⟨entry :: before, culprit, after, by rw [parts]; rfl, ?_, wrong⟩
              intro earlier member
              rcases List.mem_cons.mp member with rfl | among
              · exact ⟨parameter, parameterText_eq_ok.mp read⟩
              · exact fine earlier among

theorem exists_parameters_iff {entries : List (Value × Value)} :
    (∃ parameters, List.Forall₂ Declares entries parameters) ↔
      ∀ entry ∈ entries, (∃ name, entry.1.Says name) ∧ ∃ value, entry.2.Says value := by
  constructor
  · rintro ⟨parameters, all⟩ entry member
    induction all with
    | nil => cases member
    | cons declares rest ih =>
        rcases List.mem_cons.mp member with rfl | among
        · exact ⟨⟨_, declares.name⟩, ⟨_, declares.value⟩⟩
        · exact ih among
  · intro each
    induction entries with
    | nil => exact ⟨[], .nil⟩
    | cons entry rest ih =>
        obtain ⟨⟨name, named⟩, ⟨value, valued⟩⟩ := each entry List.mem_cons_self
        obtain ⟨others, all⟩ := ih fun other member => each other (List.mem_cons_of_mem _ member)
        exact ⟨(name, value) :: others, .cons ⟨named, valued⟩ all⟩

/-! ### Suites -/

variable {source text : String} {draft : Draft}

theorem ofText_of_read (read : Reading.run (readDraft source) text = some draft) :
    ofText source text = ofDraft draft := by
  rw [ofText, read]

theorem ofDraft_parameters {suite : Suite} (drafted : ofDraft draft = .ok suite) :
    List.Forall₂ Declares draft.configuration suite.parameters := by
  unfold ofDraft at drafted
  split at drafted
  · cases drafted
  · rename_i parameters read
    cases drafted
    exact parameterTexts_eq_ok.mp read

theorem ofDraft_succeeds_iff (draft : Draft) :
    (∃ suite, ofDraft draft = .ok suite) ↔
      ∀ entry ∈ draft.configuration,
        (∃ name, entry.1.Says name) ∧ ∃ value, entry.2.Says value := by
  rw [← exists_parameters_iff]
  constructor
  · rintro ⟨suite, drafted⟩
    exact ⟨suite.parameters, ofDraft_parameters drafted⟩
  · rintro ⟨parameters, all⟩
    rw [ofDraft, parameterTexts_eq_ok.mpr all]
    exact ⟨_, rfl⟩

theorem ofDraft_eq_error {error : Error} (failed : ofDraft draft = .error error) :
    ∃ defect, error = .invalidParameters defect ∧ FirstMisnamed draft.configuration defect := by
  unfold ofDraft at failed
  split at failed
  · rename_i defect read
    cases failed
    exact ⟨defect, rfl, parameterTexts_eq_error read⟩
  · cases failed

end BuildBench.Definition.Suite
