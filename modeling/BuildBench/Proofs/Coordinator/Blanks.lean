import BuildBench.Proofs.Coordinator.Placement
import BuildBench.Proofs.Coordinator.Unrun

set_option autoImplicit false

/-! Entries with blank fields. Main statement: an entry that lacks its commit or its image is passed
over, but one in which these are blank is not: it is read and run like any other, and whatever is
launched and told for it has nothing in the place of the name. -/

namespace BuildBench.Entry

open BuildBench.Text

theorem trimChars_eq_nil_iff {text : List Char} :
    trimChars text = [] ↔ ∀ c ∈ text, isBlank c = true := by
  constructor
  · intro nothing c member
    obtain ⟨before, after, whole, blanksBefore, blanksAfter⟩ := dropAround_surrounds isBlank text
    change text = before ++ trimChars text ++ after at whole
    rw [whole, nothing, List.append_nil] at member
    rcases List.mem_append.mp member with front | back
    · exact blanksBefore c front
    · exact blanksAfter c back
  · exact trimChars_of_blanks

namespace Metadata

variable {fields : Fields} {field : Metadata} {text : String}

/-- A character that is not blank stands in the field. -/
def Filled (fields : Fields) (field : Metadata) : Prop :=
  ∃ text, fields.get? field.name = some (Utf8.encode text) ∧ ∃ c ∈ text, isBlank c = false

theorem Says.trim_eq (told : Says fields field (some text)) : trim text = text := by
  cases told
  rw [trim, String.toList_ofList, trimChars_trimChars]

theorem Says.ne_empty_iff (told : Says fields field (some text)) :
    text ≠ "" ↔ Filled fields field := by
  cases told with
  | @text spelled present =>
      have seen : String.ofList (trimChars spelled) ≠ "" ↔ ∃ c ∈ spelled, isBlank c = false := by
        rw [Ne, String.ofList_eq_empty_iff, trimChars_eq_nil_iff]
        simp
      rw [seen]
      constructor
      · intro visible
        exact ⟨spelled, present, visible⟩
      · rintro ⟨other, presentOther, visible⟩
        rw [present, Option.some.injEq] at presentOther
        rw [Utf8.encode_injective presentOther]
        exact visible

theorem Says.not_filled (told : Says fields field none) : ¬Filled fields field := by
  rintro ⟨text, present, -⟩
  cases told with
  | nothing absent =>
      rw [absent] at present
      cases present

end Metadata

namespace Build

variable {id : Id} {fields : Fields} {build : Build}

theorem runImage_cases (decoded : decode id fields = .ok build) :
    (Metadata.runImage.Says fields (some build.runImage) ∧ build.runImage ≠ "") ∨
      (¬Metadata.runImage.Filled fields ∧ build.runImage = build.buildImage) := by
  have describes := describes_of_decode decoded
  have texts := ((decode_succeeds_iff id fields).mp ⟨build, decoded⟩).2
  obtain ⟨said, told⟩ := Metadata.exists_says_iff.mpr (texts .runImage)
  cases said with
  | none => exact Or.inr ⟨told.not_filled, describes.sameImage (Or.inl told)⟩
  | some image =>
      by_cases blank : image = ""
      · subst blank
        exact Or.inr ⟨mt told.ne_empty_iff.mpr (by simp), describes.sameImage (Or.inr told)⟩
      · rw [describes.runImage image told blank]
        exact Or.inl ⟨told, blank⟩

theorem trim_runImage (decoded : decode id fields = .ok build) :
    trim build.runImage = build.runImage := by
  rcases runImage_cases decoded with ⟨told, -⟩ | ⟨-, same⟩
  · exact told.trim_eq
  · rw [same]
    exact (describes_of_decode decoded).buildImage.trim_eq

theorem runImage_ne_empty_iff (decoded : decode id fields = .ok build) :
    build.runImage ≠ "" ↔
      Metadata.runImage.Filled fields ∨ Metadata.buildImage.Filled fields := by
  rcases runImage_cases decoded with ⟨told, named⟩ | ⟨blank, same⟩
  · exact iff_of_true named (Or.inl (told.ne_empty_iff.mp named))
  · rw [same, or_iff_right blank]
    exact (describes_of_decode decoded).buildImage.ne_empty_iff

/-- The commit and the images of the build have names. -/
structure Identified (build : Build) : Prop where
  gitHash : trim build.gitHash ≠ ""
  buildImage : trim build.buildImage ≠ ""
  runImage : trim build.runImage ≠ ""

theorem identified_iff (decoded : decode id fields = .ok build) :
    build.Identified ↔
      Metadata.gitHash.Filled fields ∧ Metadata.buildImage.Filled fields := by
  have describes := describes_of_decode decoded
  rw [← describes.gitHash.ne_empty_iff, ← describes.buildImage.ne_empty_iff]
  constructor
  · rintro ⟨hash, image, -⟩
    rw [describes.gitHash.trim_eq] at hash
    rw [describes.buildImage.trim_eq] at image
    exact ⟨hash, image⟩
  · rintro ⟨hash, image⟩
    constructor
    · rw [describes.gitHash.trim_eq]
      exact hash
    · rw [describes.buildImage.trim_eq]
      exact image
    · rw [trim_runImage decoded, runImage_ne_empty_iff decoded]
      exact Or.inr (describes.buildImage.ne_empty_iff.mp image)

theorem decode_of_faulty {field : Metadata} {error : DecodeError}
    (faulty : field.Faulty fields error) (id : Id) : ∃ other, decode id fields = .error other := by
  cases decoded : decode id fields with
  | error other => exact ⟨other, rfl⟩
  | ok build =>
      obtain ⟨there, texts⟩ := (decode_succeeds_iff id fields).mp ⟨build, decoded⟩
      exact absurd faulty (Metadata.not_faulty there texts)

end Build

end BuildBench.Entry

namespace BuildBench.Coordinator

open BuildBench.Definition BuildBench.Entry BuildBench.Run BuildBench.Text

variable {σ τ : Type} {setup : Setup σ τ}

/-! ### What is made of a build -/

/-- What is launched and told for a build has the names that the build has. -/
def NamedFor (build : Build) : Event → Prop
  | .launchDatabase spec _ _ => spec.image = build.runImage
  | .push summary _ => summary.gitHash = build.gitHash
  | _ => True

theorem perform_namedFor (collaborators : Collaborators σ τ) (settings : Settings) (job : Job)
    (slices : Except Cpu.Error Slices) (bench : Bench σ τ) :
    bench.Adds (NamedFor job.build)
      (Pass.perform collaborators settings job slices bench).2 := by
  refine (Pass.perform_canMake collaborators settings job slices bench).weaken ?_
  intro event canMake
  cases canMake <;> first | rfl | trivial

theorem NamedFor.image_eq {build : Build} {before after : Bench σ τ} {spec : Sandbox.Spec}
    {files : Files.Tree} {answer : Except Sandbox.Error Sandbox.Handle}
    (adds : before.Adds (NamedFor build) after) (fresh : before.calls = [])
    (launched : .launchDatabase spec files answer ∈ after.calls) : spec.image = build.runImage := by
  obtain ⟨made, calls, named⟩ := adds
  rw [calls, fresh] at launched
  exact named _ launched

section Entries

variable {delivery : Delivery} {fields : Fields} {build : Build} {state : State σ τ}

theorem path_namedFor (body : delivery.body = .fields fields)
    (decoded : Build.decode delivery.id fields = .ok build) {worker : Worker σ τ}
    (path : setup.Path ⟨.received delivery, state⟩ worker) :
    state.bench.Adds (NamedFor build) worker.bench := by
  induction path with
  | refl => exact .nothing rfl
  | step path ih =>
      refine ih.trans (step_adds ?_ ?_)
      · intro event request
        cases event <;> trivial
      · intro other suite slot rest files outcomes due
        have stems := path_stems path
        rw [due] at stems
        obtain ⟨described, same, read⟩ := stems
        rw [body] at same
        cases same
        obtain rfl := Except.ok.inj (decoded.symm.trans read)
        exact slot.perform_adds (fun handle answer => trivial) fun topology slices =>
          perform_namedFor _ _ _ slices _
  | meddle path host sink files ih => exact ih

/-- An entry that is read is not passed over. Only the suites can keep it from being processed. -/
theorem treat_decoded (unknown : state.finished.contains delivery.id = false)
    (body : delivery.body = .fields fields)
    (decoded : Build.decode delivery.id fields = .ok build) :
    (∃ error, (setup.treat delivery state).1 =
      .error (.suites setup.settings.suitesDirectory error)) ∨
    ∃ outcomes, (setup.treat delivery state).1 =
      .ok (.processed { id := build.id, gitHash := build.gitHash, outcomes }) := by
  cases listed : (setup.suiteFiles state.bench).1 with
  | error error =>
      have unrun : setup.Unrun delivery state _ := .unlisted unknown body decoded listed
      exact Or.inl ⟨error, unrun.abstains.1⟩
  | ok files =>
      rw [treat_unknown unknown]
      unfold Setup.treatFresh
      simp only [body, decoded, benchmark_listed listed]
      exact Or.inr ⟨_, rfl⟩

theorem treat_faulty (unknown : state.finished.contains delivery.id = false)
    (body : delivery.body = .fields fields) {field : Metadata} {error : DecodeError}
    (faulty : field.Faulty fields error) :
    ∃ reason answer, (setup.treat delivery state).1 = .ok (.skipped delivery.id reason) ∧
      state.Abstains (setup.treat delivery state).2 [.acknowledge delivery.id answer] := by
  obtain ⟨other, failed⟩ := Build.decode_of_faulty faulty delivery.id
  have unrun : setup.Unrun delivery state _ := .undescribed unknown body failed
  obtain ⟨ended, ⟨answer, abstains⟩, -⟩ := unrun.abstains
  exact ⟨_, answer, ended, abstains⟩

end Entries

/-! ### Main result -/

/-- An entry whose commit or build image is missing, or in which a field that describes the build is
no text, is acknowledged, and nothing else is done for it. Every other entry is read, and then its
commit and its images have names exactly if the fields of the commit and of the build image are not
blank. But it is not passed over if they are: what is launched and told for it has the names that
were read, be they empty or not. -/
theorem identified_iff_filled (setup : Setup σ τ) {delivery : Delivery} {fields : Fields}
    (body : delivery.body = .fields fields) :
    (∀ field error, Metadata.Faulty fields field error →
      ∀ state : State σ τ, state.finished.contains delivery.id = false →
        ∃ reason answer, (setup.treat delivery state).1 = .ok (.skipped delivery.id reason) ∧
          state.Abstains (setup.treat delivery state).2 [.acknowledge delivery.id answer]) ∧
    ∀ build, Build.decode delivery.id fields = .ok build →
      (build.Identified ↔ Metadata.gitHash.Filled fields ∧ Metadata.buildImage.Filled fields) ∧
      (∀ state : State σ τ, state.finished.contains delivery.id = false →
        (∃ error, (setup.treat delivery state).1 =
          .error (.suites setup.settings.suitesDirectory error)) ∨
        ∃ outcomes, (setup.treat delivery state).1 =
          .ok (.processed { id := build.id, gitHash := build.gitHash, outcomes })) ∧
      ∀ (state : State σ τ) (worker : Worker σ τ),
        setup.Path ⟨.received delivery, state⟩ worker →
          state.bench.Adds (NamedFor build) worker.bench := by
  constructor
  · intro field error faulty state unknown
    exact treat_faulty unknown body faulty
  · intro build decoded
    refine ⟨Build.identified_iff decoded, ?_, ?_⟩
    · intro state unknown
      exact treat_decoded unknown body decoded
    · intro state worker path
      exact path_namedFor body decoded path

def hashlessDelivery : Delivery where
  id := ⟨1, 0⟩
  body := .fields (.ofList [("build_image", [105])])

theorem identified_iff_filled_rehearsed :
    let setup := Setup.withSuite 8
    let state := setup.start .start () suiteTree .undelivered
    (∃ reason answer, (setup.treat hashlessDelivery state).1 = .ok (.skipped ⟨1, 0⟩ reason) ∧
      state.Abstains (setup.treat hashlessDelivery state).2 [.acknowledge ⟨1, 0⟩ answer]) ∧
    servedBuild.Identified ∧
    ∃ worker spec files answer, setup.Path ⟨.received servedDelivery, state⟩ worker ∧
      .launchDatabase spec files answer ∈ worker.bench.calls ∧ spec.image = "i" := by
  intro setup state
  constructor
  · obtain ⟨passesOver, -⟩ := identified_iff_filled setup (show hashlessDelivery.body = _ from rfl)
    exact passesOver .gitHash (.missingField .gitHash) (.missing rfl rfl) state rfl
  · obtain ⟨-, reads⟩ := identified_iff_filled setup (show servedDelivery.body = _ from rfl)
    obtain ⟨identified, -, names⟩ := reads servedBuild servedFields_decode
    obtain ⟨worker, spec, answer, path, launched⟩ :=
      suiteTree_launches rfl servedFields_decode servedJob_isServed
    refine ⟨identified.mpr ⟨?_, ?_⟩, worker, spec, _, answer, path.path, launched, ?_⟩
    · exact ⟨['0'], rfl, '0', List.mem_cons_self, rfl⟩
    · exact ⟨['i'], rfl, 'i', List.mem_cons_self, rfl⟩
    · exact NamedFor.image_eq (names state worker path.path) rfl launched

/-! An entry with blanks for its commit and nothing for its image. -/

def blankFields : Fields :=
  .ofList [("git_hash", Text.Utf8.encode [' ', '\n']), ("build_image", []), ("redis-server", [])]

def blankDelivery : Delivery where
  id := ⟨1, 0⟩
  body := .fields blankFields

def blankBuild : Build where
  id := ⟨1, 0⟩
  gitHash := ""
  buildImage := ""
  runImage := ""
  artifacts := ["redis-server"]
  payloads := .ofList [("redis-server", [])]

theorem blankFields_decode : Build.decode blankDelivery.id blankFields = .ok blankBuild := by
  decide +kernel

/-- Such an entry is not passed over, and a database without an image is launched for it. -/
theorem blank_entry_runs :
    let setup := Setup.withSuite 8
    let state := setup.start .start () suiteTree .undelivered
    Build.decode blankDelivery.id blankFields = .ok blankBuild ∧
    ¬blankBuild.Identified ∧
    (∀ reason, (setup.treat blankDelivery state).1 ≠ .ok (.skipped blankDelivery.id reason)) ∧
    ∃ worker spec files answer, setup.Path ⟨.received blankDelivery, state⟩ worker ∧
      .launchDatabase spec files answer ∈ worker.bench.calls ∧ spec.image = "" := by
  intro setup state
  refine ⟨blankFields_decode, fun identified => identified.gitHash (by decide), ?_, ?_⟩
  · intro reason passedOver
    rcases treat_decoded (show state.finished.contains blankDelivery.id = false from rfl) rfl
      blankFields_decode with ⟨error, ended⟩ | ⟨outcomes, ended⟩
    · exact absurd (passedOver.symm.trans ended) (by simp)
    · exact absurd (passedOver.symm.trans ended) (by simp)
  · have served : Pass.IsServed { servedJob with build := blankBuild } := ⟨rfl, rfl, _, rfl⟩
    obtain ⟨worker, spec, answer, path, launched⟩ :=
      suiteTree_launches rfl blankFields_decode served
    have adds := path_namedFor rfl blankFields_decode path.path
    exact ⟨worker, spec, _, answer, path.path, launched, NamedFor.image_eq adds rfl launched⟩

end BuildBench.Coordinator
