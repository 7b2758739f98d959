import BuildBench.Entry.Build
import BuildBench.Proofs.Text.Parts
import BuildBench.Proofs.Text.Utf8

set_option autoImplicit false

/-! Builds that are read from entries. Main statement: an entry is read exactly if the fields that it
needs are there and all that describe a build are texts, and otherwise the first one that is not so
is named; what is read has the bytes of all other fields as they are, and lists its artifacts in the
order in which they are listed, however many commas and blanks stand between them. -/

namespace BuildBench.Entry

open BuildBench.Text

/-! ### Fields -/

theorem lookup_filter_key (keep : String → Bool) (name : String) (entries : List (String × Bytes)) :
    (entries.filter fun entry => keep entry.1).lookup name =
      if keep name then entries.lookup name else none := by
  induction entries with
  | nil => simp
  | cons entry rest ih =>
      obtain ⟨head, held⟩ := entry
      rw [List.filter_cons]
      by_cases same : name = head
      · rw [← same]
        cases kept : keep name <;> simp [kept, ih]
      · have apart : (name == head) = false := beq_eq_false_iff_ne.mpr same
        cases kept : keep head <;> simp [List.lookup_cons, apart, ih]

theorem get?_without (fields : Fields) (names : List String) (name : String) :
    (fields.without names).get? name = if name ∈ names then none else fields.get? name := by
  have kept := lookup_filter_key (fun key => !names.contains key) name fields.entries
  change (fields.entries.filter fun entry => !names.contains entry.1).lookup name = _
  rw [kept]
  by_cases dropped : name ∈ names <;> simp [dropped, Fields.get?]

namespace Metadata

/-- The fields that describe a build, in the order in which they are read. -/
def inOrder : List Metadata :=
  [gitHash, buildImage, runImage, buildArtifacts]

/-- No build is without its commit and the image that it was built in. -/
def isRequired : Metadata → Bool
  | .gitHash => true
  | .buildImage => true
  | .runImage => false
  | .buildArtifacts => false

/-- What a field says: nothing if it is missing, and else its text without the blanks around it. -/
inductive Says (fields : Fields) (field : Metadata) : Option String → Prop
  | nothing (absent : fields.get? field.name = none) : Says fields field none
  | text {text : List Char} (present : fields.get? field.name = some (Utf8.encode text)) :
      Says fields field (some (String.ofList (trimChars text)))

/-- What is wrong with a field: it is needed and missing, or it is no text. -/
inductive Faulty (fields : Fields) (field : Metadata) : DecodeError → Prop
  | missing (required : field.isRequired = true) (absent : fields.get? field.name = none) :
      Faulty fields field (.missingField field)
  | notText {bytes : Bytes} {defect : Utf8.Defect} (present : fields.get? field.name = some bytes)
      (stops : Utf8.decode bytes = .error defect) : Faulty fields field (.invalidField field defect)

/-- The error is about the first field with which something is wrong. -/
def FirstFaulty (fields : Fields) (error : DecodeError) : Prop :=
  ∃ before field after, inOrder = before ++ field :: after ∧
    (∀ earlier ∈ before, ∀ other, ¬Faulty fields earlier other) ∧ Faulty fields field error

variable {fields : Fields} {field : Metadata} {said : Option String} {error : DecodeError}

theorem Says.unique {other : Option String} (told : Says fields field said)
    (toldOther : Says fields field other) : said = other := by
  cases told with
  | nothing absent =>
      cases toldOther with
      | nothing => rfl
      | text present =>
          rw [absent] at present
          cases present
  | text present =>
      cases toldOther with
      | nothing absent =>
          rw [absent] at present
          cases present
      | text presentOther =>
          rw [present, Option.some.injEq] at presentOther
          rw [Utf8.encode_injective presentOther]

theorem readText_eq_ok : Build.readText fields field = .ok said ↔ Says fields field said := by
  unfold Build.readText
  constructor
  · intro read
    split at read
    · rename_i absent
      cases read
      exact .nothing absent
    · rename_i bytes present
      split at read
      · rename_i text decoded
        cases read
        rw [Utf8.decode_eq_ok_iff.mp decoded] at present
        exact .text present
      · cases read
  · intro told
    cases told with
    | nothing absent => rw [absent]
    | text present =>
        rw [present]
        dsimp only
        rw [Utf8.decode_eq_ok_iff.mpr rfl]

theorem readText_eq_error (failed : Build.readText fields field = .error error) :
    Faulty fields field error := by
  unfold Build.readText at failed
  split at failed
  · cases failed
  · rename_i bytes present
    split at failed
    · cases failed
    · rename_i defect stops
      cases failed
      exact .notText present stops

theorem readRequired_eq_ok {text : String} :
    Build.readRequired fields field = .ok text ↔ Says fields field (some text) := by
  rw [← readText_eq_ok, Build.readRequired]
  cases Build.readText fields field with
  | error error => simp
  | ok said => cases said <;> simp

theorem readRequired_eq_error (required : field.isRequired = true)
    (failed : Build.readRequired fields field = .error error) : Faulty fields field error := by
  unfold Build.readRequired at failed
  split at failed
  · cases failed
  · rename_i read
    cases failed
    cases readText_eq_ok.mp read with
    | nothing absent => exact .missing required absent
  · rename_i read
    cases failed
    exact readText_eq_error read

theorem Says.sound (told : Says fields field said)
    (filled : field.isRequired = true → said.isSome = true) (error : DecodeError) :
    ¬Faulty fields field error := by
  intro faulty
  cases faulty with
  | missing required absent =>
      cases told with
      | nothing => exact absurd (filled required) (by simp)
      | text present =>
          rw [absent] at present
          cases present
  | notText present stops =>
      cases told with
      | nothing absent =>
          rw [absent] at present
          cases present
      | text read =>
          rw [read, Option.some.injEq] at present
          rw [← present, Utf8.decode_eq_ok_iff.mpr rfl] at stops
          cases stops

/-- A field says something exactly if it is missing or a text. -/
theorem exists_says_iff : (∃ said, Says fields field said) ↔
    ∀ bytes, fields.get? field.name = some bytes → Utf8.IsUtf8 bytes := by
  constructor
  · rintro ⟨said, told⟩ bytes present
    cases told with
    | nothing absent =>
        rw [absent] at present
        cases present
    | @text text read =>
        rw [read, Option.some.injEq] at present
        exact ⟨text, present.symm⟩
  · intro allTexts
    cases held : fields.get? field.name with
    | none => exact ⟨none, .nothing held⟩
    | some bytes =>
        obtain ⟨text, rfl⟩ := allTexts bytes held
        exact ⟨_, .text held⟩

theorem exists_says_some_iff : (∃ text, Says fields field (some text)) ↔
    (∃ bytes, fields.get? field.name = some bytes) ∧
      ∀ bytes, fields.get? field.name = some bytes → Utf8.IsUtf8 bytes := by
  rw [← exists_says_iff]
  constructor
  · rintro ⟨text, told⟩
    refine ⟨?_, _, told⟩
    cases told with
    | text present => exact ⟨_, present⟩
  · rintro ⟨⟨bytes, present⟩, said, told⟩
    cases told with
    | nothing absent =>
        rw [absent] at present
        cases present
    | text read => exact ⟨_, .text read⟩

theorem not_faulty
    (there : ∀ field : Metadata, field.isRequired = true →
      ∃ bytes, fields.get? field.name = some bytes)
    (texts : ∀ (field : Metadata) (bytes : Bytes), fields.get? field.name = some bytes →
      Utf8.IsUtf8 bytes) : ¬Faulty fields field error := by
  intro faulty
  cases faulty with
  | missing required absent =>
      obtain ⟨bytes, present⟩ := there field required
      rw [absent] at present
      cases present
  | notText present stops =>
      obtain ⟨text, decoded⟩ := Utf8.decode_succeeds_iff.mpr (texts field _ present)
      rw [decoded] at stops
      cases stops

end Metadata

/-! ### Lists of artifacts -/

/-- A name as it stands in a list: neither empty nor with blanks around it, and without a comma. -/
structure IsListedName (name : List Char) : Prop where
  filled : name ≠ []
  trimmed : trimChars name = name
  plain : ',' ∉ name

/-- The items of a list hold its names in their order. Blanks may stand around a name, and an item may
have nothing but blanks. -/
inductive Lists : List String → List (List Char) → Prop
  | nil : Lists [] []
  | blank {names : List String} {items : List (List Char)} {item : List Char}
      (blanks : ∀ c ∈ item, isBlank c = true) (rest : Lists names items) : Lists names (item :: items)
  | name {names : List String} {items : List (List Char)} {name : String} {before after : List Char}
      (listed : IsListedName name.toList) (blanksBefore : ∀ c ∈ before, isBlank c = true)
      (blanksAfter : ∀ c ∈ after, isBlank c = true) (rest : Lists names items) :
      Lists (name :: names) ((before ++ name.toList ++ after) :: items)

section Trimming

variable {text before after : List Char}

theorem trimChars_of_blanks (blanks : ∀ c ∈ text, isBlank c = true) : trimChars text = [] :=
  dropAround_of_surrounds (by simp) (by simp) ⟨text, [], by simp, blanks, by simp⟩

/-- Blanks around a text make no difference to what is left of it. -/
theorem trimChars_append (blanksBefore : ∀ c ∈ before, isBlank c = true)
    (blanksAfter : ∀ c ∈ after, isBlank c = true) :
    trimChars (before ++ text ++ after) = trimChars text :=
  dropAround_of_surrounds (head?_dropAround _ _) (getLast?_dropAround _ _)
    ((dropAround_surrounds _ _).trans ⟨before, after, rfl, blanksBefore, blanksAfter⟩)

theorem trimChars_trimChars (text : List Char) : trimChars (trimChars text) = trimChars text :=
  dropAround_of_ends (head?_dropAround _ _) (getLast?_dropAround _ _)

theorem comma_notMem_of_blanks (blanks : ∀ c ∈ text, isBlank c = true) : ',' ∉ text := by
  intro comma
  exact absurd (blanks ',' comma) (by decide)

/-- It makes no difference whether a list is trimmed as a whole before its items are. -/
theorem map_trimChars_pieces (text : List Char) :
    (pieces ',' (trimChars text)).map trimChars = (pieces ',' text).map trimChars := by
  obtain ⟨before, after, whole, blanksBefore, blanksAfter⟩ := dropAround_surrounds isBlank text
  change text = before ++ trimChars text ++ after at whole
  generalize trimChars text = core at whole
  subst whole
  obtain ⟨first, rest, cut, front⟩ :=
    pieces_append_left (comma_notMem_of_blanks blanksBefore) core
  obtain ⟨earlier, last, same, back⟩ :=
    pieces_append_right (comma_notMem_of_blanks blanksAfter) (before ++ core)
  have firstTrimmed : trimChars (before ++ first) = trimChars first := by
    have trimmed : trimChars (before ++ first ++ []) = trimChars first :=
      trimChars_append blanksBefore (List.forall_mem_nil _)
    rwa [List.append_nil] at trimmed
  have lastTrimmed : trimChars (last ++ after) = trimChars last :=
    trimChars_append (List.forall_mem_nil _) blanksAfter
  calc (pieces ',' core).map trimChars
      = (pieces ',' (before ++ core)).map trimChars := by
        rw [cut, front, List.map_cons, List.map_cons, firstTrimmed]
    _ = (pieces ',' (before ++ core ++ after)).map trimChars := by
        rw [same, back, List.map_append, List.map_append, List.map_singleton, List.map_singleton,
          lastTrimmed]

end Trimming

theorem Lists.comma_notMem {names : List String} {items : List (List Char)}
    (lists : Lists names items) : ∀ item ∈ items, ',' ∉ item := by
  intro item member
  induction lists with
  | nil => cases member
  | blank blanks rest ih =>
      rcases List.mem_cons.mp member with rfl | later
      · exact comma_notMem_of_blanks blanks
      · exact ih later
  | name listed blanksBefore blanksAfter rest ih =>
      rcases List.mem_cons.mp member with rfl | later
      · rw [List.mem_append, List.mem_append, not_or, not_or]
        exact ⟨⟨comma_notMem_of_blanks blanksBefore, listed.plain⟩,
          comma_notMem_of_blanks blanksAfter⟩
      · exact ih later

theorem Lists.names_eq {names : List String} {items : List (List Char)}
    (lists : Lists names items) :
    ((items.map trimChars).filter (!·.isEmpty)).map String.ofList = names := by
  induction lists with
  | nil => rfl
  | blank blanks rest ih =>
      rw [List.map_cons, trimChars_of_blanks blanks, List.filter_cons_of_neg (by simp), ih]
  | name listed blanksBefore blanksAfter rest ih =>
      rw [List.map_cons, trimChars_append blanksBefore blanksAfter, listed.trimmed,
        List.filter_cons_of_pos (by simpa using listed.filled), List.map_cons, ih,
        String.ofList_toList]

namespace Build

/-- A list of names is read back, however many blanks and empty items it has. -/
theorem artifactNames_of_lists {names : List String} {items : List (List Char)}
    (lists : Lists names items) :
    artifactNames (trimChars ([','].intercalate items)) = names := by
  rw [artifactNames, map_trimChars_pieces]
  cases items with
  | nil =>
      cases lists
      rfl
  | cons item others =>
      rw [pieces_intercalate (List.cons_ne_nil _ _) lists.comma_notMem, lists.names_eq]

theorem mem_artifactNames {text : List Char} {name : String}
    (member : name ∈ artifactNames text) : IsListedName name.toList := by
  obtain ⟨kept, present, rfl⟩ := List.mem_map.mp member
  obtain ⟨trimmed, filled⟩ := List.mem_filter.mp present
  obtain ⟨item, cut, rfl⟩ := List.mem_map.mp trimmed
  rw [String.toList_ofList]
  refine ⟨by simpa using filled, trimChars_trimChars item, ?_⟩
  intro comma
  exact notMem_of_mem_pieces cut (mem_of_mem_dropAround comma)

theorem chooseArtifacts_ne_nil (said : Option String) : chooseArtifacts said ≠ [] := by
  unfold chooseArtifacts
  split
  · split
    · exact List.cons_ne_nil _ _
    · assumption
  · exact List.cons_ne_nil _ _

theorem isListedName_default : IsListedName defaultArtifact.toList := by
  constructor <;> decide

theorem mem_chooseArtifacts {said : Option String} {name : String}
    (member : name ∈ chooseArtifacts said) : IsListedName name.toList := by
  have single (own : name ∈ [defaultArtifact]) : IsListedName name.toList := by
    rw [List.mem_singleton.mp own]
    exact isListedName_default
  unfold chooseArtifacts at member
  split at member
  · split at member
    · exact single member
    · exact mem_artifactNames member
  · exact single member

/-! ### Decoding -/

variable {id : Id} {fields : Fields} {build : Build}

/-- The fields that describe a build are read one after the other, up to the first faulty one. -/
theorem decode_cases (id : Id) (fields : Fields) :
    (∃ gitHash buildImage runImage artifacts,
      Metadata.gitHash.Says fields (some gitHash) ∧
      Metadata.buildImage.Says fields (some buildImage) ∧
      Metadata.runImage.Says fields runImage ∧ Metadata.buildArtifacts.Says fields artifacts ∧
      decode id fields = .ok
        { id, gitHash, buildImage
          runImage := chooseRunImage buildImage runImage
          artifacts := chooseArtifacts artifacts
          payloads := fields.without Metadata.names }) ∨
    ∃ error, Metadata.FirstFaulty fields error ∧ decode id fields = .error error := by
  unfold decode
  simp only [bind, Except.bind, pure, Except.pure]
  cases first : readRequired fields .gitHash with
  | error error =>
      have faulty := Metadata.readRequired_eq_error rfl first
      exact Or.inr ⟨error, ⟨[], .gitHash, _, rfl, by simp, faulty⟩, rfl⟩
  | ok gitHash =>
      have hash := Metadata.readRequired_eq_ok.mp first
      have hashSound := hash.sound fun _ => rfl
      cases second : readRequired fields .buildImage with
      | error error =>
          have faulty := Metadata.readRequired_eq_error rfl second
          exact Or.inr ⟨error, ⟨[.gitHash], .buildImage, _, rfl, by simpa using hashSound, faulty⟩,
            rfl⟩
      | ok buildImage =>
          have image := Metadata.readRequired_eq_ok.mp second
          have imageSound := image.sound fun _ => rfl
          cases third : readText fields .runImage with
          | error error =>
              have faulty := Metadata.readText_eq_error third
              exact Or.inr ⟨error, ⟨[.gitHash, .buildImage], .runImage, _, rfl,
                by simpa using ⟨hashSound, imageSound⟩, faulty⟩, rfl⟩
          | ok runImage =>
              have runs := Metadata.readText_eq_ok.mp third
              have runsSound := runs.sound (by simp [Metadata.isRequired])
              cases fourth : readText fields .buildArtifacts with
              | error error =>
                  have faulty := Metadata.readText_eq_error fourth
                  exact Or.inr ⟨error, ⟨[.gitHash, .buildImage, .runImage], .buildArtifacts, _, rfl,
                    by simpa using ⟨hashSound, imageSound, runsSound⟩, faulty⟩, rfl⟩
              | ok artifacts =>
                  exact Or.inl ⟨gitHash, buildImage, runImage, artifacts, hash, image, runs,
                    Metadata.readText_eq_ok.mp fourth, rfl⟩

/-- What a build is, said by the fields of its entry. -/
structure Describes (id : Id) (fields : Fields) (build : Build) : Prop where
  id : build.id = id
  gitHash : Metadata.gitHash.Says fields (some build.gitHash)
  buildImage : Metadata.buildImage.Says fields (some build.buildImage)
  /-- Another image than that of the build is one that is named. -/
  runImage : ∀ image, Metadata.runImage.Says fields (some image) → image ≠ "" →
    build.runImage = image
  sameImage : Metadata.runImage.Says fields none ∨ Metadata.runImage.Says fields (some "") →
    build.runImage = build.buildImage
  payload : ∀ name ∉ Metadata.names, build.payload? name = fields.get? name
  /-- What describes the build is no artifact, even if it is declared as one. -/
  noPayload : ∀ name ∈ Metadata.names, build.payload? name = none
  inhabited : build.artifacts ≠ []
  artifact : ∀ name ∈ build.artifacts, IsListedName name.toList
  undeclared : Metadata.buildArtifacts.Says fields none → build.artifacts = [defaultArtifact]
  declared : ∀ names items, Lists names items →
    fields.get? Metadata.buildArtifacts.name = some (Utf8.encode ([','].intercalate items)) →
    build.artifacts = if names = [] then [defaultArtifact] else names

theorem chooseRunImage_named {image : String} (filled : image ≠ "") (buildImage : String) :
    chooseRunImage buildImage (some image) = image := by
  rw [chooseRunImage, if_neg (by simpa using filled)]

theorem chooseArtifacts_of_lists {names : List String} {items : List (List Char)}
    (lists : Lists names items) :
    chooseArtifacts (some (String.ofList (trimChars ([','].intercalate items)))) =
      if names = [] then [defaultArtifact] else names := by
  unfold chooseArtifacts
  dsimp only
  rw [String.toList_ofList, artifactNames_of_lists lists]
  cases names with
  | nil => rfl
  | cons name rest => rw [if_neg (List.cons_ne_nil _ _)]

theorem describes_of_decode (decoded : decode id fields = .ok build) :
    Describes id fields build := by
  rcases decode_cases id fields with
    ⟨gitHash, buildImage, runImage, artifacts, hash, image, runs, lists, read⟩ |
    ⟨error, -, failed⟩
  · obtain rfl := Except.ok.inj (decoded.symm.trans read)
    have payload (name : String) : (fields.without Metadata.names).get? name = _ :=
      get?_without fields Metadata.names name
    constructor
    · rfl
    · exact hash
    · exact image
    · intro named told filled
      obtain rfl := runs.unique told
      exact chooseRunImage_named filled buildImage
    · rintro (nothing | blank)
      · obtain rfl := runs.unique nothing
        rfl
      · obtain rfl := runs.unique blank
        rfl
    · intro name other
      exact (payload name).trans (if_neg other)
    · intro name describing
      exact (payload name).trans (if_pos describing)
    · exact chooseArtifacts_ne_nil artifacts
    · intro name member
      exact mem_chooseArtifacts member
    · intro nothing
      obtain rfl := lists.unique nothing
      rfl
    · intro names items listed present
      have said := lists.unique (.text present)
      change chooseArtifacts artifacts = _
      rw [said, chooseArtifacts_of_lists listed]
  · rw [decoded] at failed
    cases failed

/-- A build can be read exactly if nothing is wrong with a field. -/
theorem decode_succeeds_iff (id : Id) (fields : Fields) :
    (∃ build, decode id fields = .ok build) ↔
      (∀ field : Metadata, field.isRequired = true →
        ∃ bytes, fields.get? field.name = some bytes) ∧
      ∀ (field : Metadata) (bytes : Bytes), fields.get? field.name = some bytes →
        Utf8.IsUtf8 bytes := by
  constructor
  · rintro ⟨build, decoded⟩
    rcases decode_cases id fields with
      ⟨gitHash, buildImage, runImage, artifacts, hash, image, runs, lists, -⟩ | ⟨error, -, failed⟩
    · have hashThere := Metadata.exists_says_some_iff.mp ⟨_, hash⟩
      have imageThere := Metadata.exists_says_some_iff.mp ⟨_, image⟩
      constructor
      · intro field required
        cases field with
        | gitHash => exact hashThere.1
        | buildImage => exact imageThere.1
        | runImage => cases required
        | buildArtifacts => cases required
      · intro field
        cases field with
        | gitHash => exact hashThere.2
        | buildImage => exact imageThere.2
        | runImage => exact Metadata.exists_says_iff.mp ⟨_, runs⟩
        | buildArtifacts => exact Metadata.exists_says_iff.mp ⟨_, lists⟩
    · rw [decoded] at failed
      cases failed
  · rintro ⟨there, texts⟩
    rcases decode_cases id fields with
      ⟨_, _, _, _, -, -, -, -, read⟩ | ⟨error, ⟨before, field, after, -, -, faulty⟩, -⟩
    · exact ⟨_, read⟩
    · exact absurd faulty (Metadata.not_faulty there texts)

theorem firstFaulty_of_decode {error : DecodeError} (failed : decode id fields = .error error) :
    Metadata.FirstFaulty fields error := by
  rcases decode_cases id fields with ⟨_, _, _, _, -, -, -, -, read⟩ | ⟨other, faulty, stopped⟩
  · rw [failed] at read
    cases read
  · rw [failed] at stopped
    rw [Except.error.inj stopped]
    exact faulty

/-- Which entries are builds, what is said of those that are not, and what the others come to. -/
theorem decode_by_fields (id : Id) (fields : Fields) :
    ((∃ build, decode id fields = .ok build) ↔
      (∀ field : Metadata, field.isRequired = true →
        ∃ bytes, fields.get? field.name = some bytes) ∧
      ∀ (field : Metadata) (bytes : Bytes), fields.get? field.name = some bytes →
        Utf8.IsUtf8 bytes) ∧
    (∀ error, decode id fields = .error error → Metadata.FirstFaulty fields error) ∧
    ∀ build, decode id fields = .ok build → Describes id fields build := by
  refine ⟨decode_succeeds_iff id fields, ?_, ?_⟩
  · intro error failed
    exact firstFaulty_of_decode failed
  · intro build decoded
    exact describes_of_decode decoded

/-- An entry that lists two artifacts with blanks and empty items between them. -/
def listingFields : Fields where
  entries :=
    [("git_hash", Utf8.encode " abc123\n".toList), ("build_image", Utf8.encode "gcc:8.5".toList),
      ("build_artifacts", Utf8.encode ([','].intercalate
        [" redis-server".toList, [], "\tmodule.so ".toList, [' ']])), ("redis-server", [0x7F, 0xFF])]

theorem listingFields_lists : Lists ["redis-server", "module.so"]
    [" redis-server".toList, [], "\tmodule.so ".toList, [' ']] := by
  have server : IsListedName "redis-server".toList := by constructor <;> decide
  have more : IsListedName "module.so".toList := by constructor <;> decide
  have blank (c : Char) (own : isBlank c = true) : ∀ other ∈ [c], isBlank other = true :=
    List.forall_mem_singleton.mpr own
  have ends : Lists [] [[' ']] := .blank (blank ' ' rfl) .nil
  have rest : Lists ["module.so"] [['\t'] ++ "module.so".toList ++ [' '], [' ']] :=
    .name more (blank '\t' rfl) (blank ' ' rfl) ends
  have empty : Lists ["module.so"] [[], ['\t'] ++ "module.so".toList ++ [' '], [' ']] :=
    .blank (List.forall_mem_nil _) rest
  have whole : Lists ["redis-server", "module.so"]
      [[' '] ++ "redis-server".toList ++ [], [], ['\t'] ++ "module.so".toList ++ [' '], [' ']] :=
    .name server (blank ' ' rfl) (List.forall_mem_nil _) empty
  exact whole

theorem decode_by_fields_rehearsed :
    (∃ build, decode ⟨1, 0⟩ listingFields = .ok build ∧
      build.artifacts = ["redis-server", "module.so"] ∧ build.runImage = build.buildImage ∧
      build.payload? "redis-server" = some [0x7F, 0xFF] ∧ build.payload? "git_hash" = none) ∧
    ¬∃ build, decode ⟨1, 0⟩ ⟨[("git_hash", []), ("build_image", [0xFF])]⟩ = .ok build := by
  constructor
  · obtain ⟨succeeds, -, describes⟩ := decode_by_fields ⟨1, 0⟩ listingFields
    obtain ⟨build, decoded⟩ := succeeds.mpr (by
      constructor
      · intro field required
        cases field with
        | gitHash => exact ⟨_, rfl⟩
        | buildImage => exact ⟨_, rfl⟩
        | runImage => cases required
        | buildArtifacts => cases required
      · intro field bytes present
        cases field <;> cases present <;> exact ⟨_, rfl⟩)
    have described := describes build decoded
    exact ⟨build, decoded, described.declared _ _ listingFields_lists rfl,
      described.sameImage (Or.inl (.nothing rfl)), described.payload _ (by decide),
      described.noPayload _ (by decide)⟩
  · rw [(decode_by_fields _ _).1]
    rintro ⟨-, texts⟩
    obtain ⟨text, read⟩ := Utf8.decode_succeeds_iff.mpr (texts .buildImage [0xFF] rfl)
    rw [Utf8.decode, Utf8.decodeFrom] at read
    cases read

end Build

end BuildBench.Entry
