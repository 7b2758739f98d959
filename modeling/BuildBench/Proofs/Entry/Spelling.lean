import BuildBench.Entry.Cursor
import BuildBench.Proofs.Number.Whole
import BuildBench.Proofs.Text.Parts
import BuildBench.Server.Stream

set_option autoImplicit false

/-! How ids of entries and read positions are spelled. Main statement: a text is read as an id exactly
if, blanks around it aside, it spells the id's two numbers; every id and every position is read back
from its text; and a delivered entry is acknowledged under the text that it came with, if that is
the usual text of an id. -/

namespace BuildBench.Entry

open BuildBench.Number BuildBench.Server BuildBench.Text

/-! ### Spelled ids -/

theorem Id.readWord?_eq_some (digits : List Char) (word : UInt64) :
    readWord? digits = some word ↔ Spells digits word.toNat := by
  have bound : word.toNat < wordBound 64 := word.toNat_lt
  have positive : 0 < wordBound 64 := by decide
  have read := readWhole_eq_ok positive digits
  have whole : Spells digits word.toNat ↔ readWhole (wordBound 64) digits = .ok word.toNat := by
    rw [read]
    exact (and_iff_left bound).symm
  rw [whole, readWord?]
  cases result : readWhole (wordBound 64) digits with
  | error defect => simp
  | ok value =>
      have small : value < UInt64.size := ((read value).mp result).2
      simp only [Option.some.injEq, Except.ok.injEq]
      constructor
      · rintro rfl
        exact (UInt64.toNat_ofNat_of_lt' small).symm
      · rintro rfl
        exact UInt64.ofNat_toNat

/-- A text spells two numbers, with its first hyphen between them. Without a hyphen the second number
is zero. -/
def Id.Spelled (text : List Char) (time sequence : Nat) : Prop :=
  ('-' ∉ text ∧ Spells text time ∧ sequence = 0) ∨
    ∃ first second, text = first ++ '-' :: second ∧ '-' ∉ first ∧ Spells first time ∧
      Spells second sequence

theorem Id.Spelled.mem {text : List Char} {time sequence : Nat}
    (spelled : Spelled text time sequence) {c : Char} (member : c ∈ text) :
    c.isDigit = true ∨ c = '+' ∨ c = '-' := by
  rcases spelled with ⟨-, spells, -⟩ | ⟨first, second, rfl, -, spellsFirst, spellsSecond⟩
  · exact (spells.isDigit_or_plus member).imp_right Or.inl
  · rcases List.mem_append.mp member with inFirst | inRest
    · exact (spellsFirst.isDigit_or_plus inFirst).imp_right Or.inl
    · rcases List.mem_cons.mp inRest with hyphen | inSecond
      · exact Or.inr (Or.inr hyphen)
      · exact (spellsSecond.isDigit_or_plus inSecond).imp_right Or.inl

theorem Id.Spelled.not_isBlank {text : List Char} {time sequence : Nat}
    (spelled : Spelled text time sequence) : ∀ c ∈ text, isBlank c = false := by
  intro c member
  rcases spelled.mem member with digit | rfl | rfl
  · exact not_isBlank_of_isDigit digit
  · rfl
  · rfl

theorem Id.Spelled.ne_nil {text : List Char} {time sequence : Nat}
    (spelled : Spelled text time sequence) : text ≠ [] := by
  rintro rfl
  rcases spelled with ⟨-, spells, -⟩ | ⟨first, second, same, -⟩
  · exact not_spells_nil _ spells
  · simp at same

theorem Id.Spelled.ne_mark {text : List Char} {time sequence : Nat}
    (spelled : Spelled text time sequence) : text ≠ ['>'] := by
  rintro rfl
  have mark := spelled.mem List.mem_cons_self
  revert mark
  decide

/-! ### Reading -/

theorem Id.readTrimmed?_of_cut {text first : List Char} {rest : Option (List Char)}
    (parts : cut '-' text = (first, rest)) (id : Id) :
    readTrimmed? text = some id ↔
      readWord? first = some id.time ∧ readWord? (rest.getD ['0']) = some id.sequence := by
  rw [readTrimmed?, parts]
  dsimp only
  cases time : readWord? first with
  | none => simp
  | some word =>
      cases sequence : readWord? (rest.getD ['0']) with
      | none => simp
      | some other =>
          cases id
          simp

theorem Id.readTrimmed?_eq_some (text : List Char) (id : Id) :
    readTrimmed? text = some id ↔ Spelled text id.time.toNat id.sequence.toNat := by
  by_cases hyphen : '-' ∈ text
  · obtain ⟨first, second, rfl, absent⟩ := List.eq_append_cons_of_mem hyphen
    rw [readTrimmed?_of_cut (cut_append_cons absent second), readWord?_eq_some, Option.getD_some,
      readWord?_eq_some]
    constructor
    · rintro ⟨spellsFirst, spellsSecond⟩
      exact Or.inr ⟨first, second, rfl, absent, spellsFirst, spellsSecond⟩
    · rintro (⟨none, -⟩ | ⟨front, back, same, frontAbsent, spellsFront, spellsBack⟩)
      · exact absurd hyphen none
      · have cuts := congrArg (cut '-') same
        rw [cut_append_cons absent, cut_append_cons frontAbsent] at cuts
        cases cuts
        exact ⟨spellsFront, spellsBack⟩
  · have zero : readWord? ['0'] = some id.sequence ↔ id.sequence.toNat = 0 := by
      change some 0 = some id.sequence ↔ _
      rw [Option.some.injEq, ← UInt64.toNat_inj]
      exact eq_comm
    rw [readTrimmed?_of_cut (cut_of_notMem hyphen), readWord?_eq_some, Option.getD_none, zero]
    constructor
    · rintro ⟨spells, none⟩
      exact Or.inl ⟨hyphen, spells, none⟩
    · rintro (⟨-, spells, none⟩ | ⟨front, back, rfl, -⟩)
      · exact ⟨spells, none⟩
      · exact absurd (List.mem_append_right front List.mem_cons_self) hyphen

theorem Id.read_eq_ok_iff (text : String) (id : Id) :
    read text = .ok id ↔
      ∃ core, Surrounds isBlank core text.toList ∧ Spelled core id.time.toNat id.sequence.toNat := by
  have trimmed : read text = .ok id ↔ readTrimmed? (trimChars text.toList) = some id := by
    rw [read]
    cases readTrimmed? (trimChars text.toList) <;> simp
  rw [trimmed, readTrimmed?_eq_some]
  constructor
  · intro spelled
    exact ⟨_, dropAround_surrounds _ _, spelled⟩
  · rintro ⟨core, surrounds, spelled⟩
    rw [trimChars, (dropAround_eq_iff spelled.not_isBlank).mpr surrounds]
    exact spelled

theorem Id.read_succeeds_iff (text : String) :
    (∃ id, read text = .ok id) ↔
      ∃ core time sequence, Surrounds isBlank core text.toList ∧ Spelled core time sequence ∧
        time < wordBound 64 ∧ sequence < wordBound 64 := by
  simp only [read_eq_ok_iff]
  constructor
  · rintro ⟨id, core, surrounds, spelled⟩
    exact ⟨core, _, _, surrounds, spelled, id.time.toNat_lt, id.sequence.toNat_lt⟩
  · rintro ⟨core, time, sequence, surrounds, spelled, timeSmall, sequenceSmall⟩
    refine ⟨⟨.ofNat time, .ofNat sequence⟩, core, surrounds, ?_⟩
    rw [UInt64.toNat_ofNat_of_lt' timeSmall, UInt64.toNat_ofNat_of_lt' sequenceSmall]
    exact spelled

/-! ### Positions -/

theorem Id.read_trimmed (text : String) (id : Id) :
    read (String.ofList (trimChars text.toList)) = .ok id ↔ read text = .ok id := by
  simp only [read_eq_ok_iff, String.toList_ofList]
  constructor
  · rintro ⟨core, surrounds, spelled⟩
    exact ⟨core, surrounds.trans (dropAround_surrounds _ _), spelled⟩
  · rintro ⟨core, surrounds, spelled⟩
    refine ⟨core, ?_, spelled⟩
    rw [trimChars, (dropAround_eq_iff spelled.not_isBlank).mpr surrounds]
    exact surrounds_refl _ _

theorem Cursor.read_eq_undelivered_iff (text : String) :
    read text = .ok .undelivered ↔
      Surrounds isBlank [] text.toList ∨ Surrounds isBlank ['>'] text.toList := by
  have kept : ∀ c ∈ ['>'], isBlank c = false := by
    intro c member
    rw [List.mem_singleton.mp member]
    rfl
  rw [← dropAround_eq_iff (by simp), ← dropAround_eq_iff kept]
  change _ ↔ trimChars text.toList = [] ∨ trimChars text.toList = ['>']
  rw [read]
  by_cases special : trimChars text.toList = [] ∨ trimChars text.toList = ['>']
  · simp only [special, if_true]
  · rw [if_neg special]
    cases Id.read (String.ofList (trimChars text.toList)) <;> simp [special, Except.map]

theorem Cursor.read_eq_after_iff (text : String) (id : Id) :
    read text = .ok (.after id) ↔ Id.read text = .ok id := by
  rw [← Id.read_trimmed, read]
  by_cases special : trimChars text.toList = [] ∨ trimChars text.toList = ['>']
  · have refused : Id.read (String.ofList (trimChars text.toList)) ≠ .ok id := by
      intro read
      rw [Id.read_trimmed, Id.read_eq_ok_iff] at read
      obtain ⟨core, surrounds, spelled⟩ := read
      rw [trimChars, (dropAround_eq_iff spelled.not_isBlank).mpr surrounds] at special
      exact special.elim spelled.ne_nil spelled.ne_mark
    simp [special, refused]
  · rw [if_neg special]
    cases Id.read (String.ofList (trimChars text.toList)) <;> simp [Except.map]

/-! ### Writing -/

theorem Id.toText_toList (id : Id) :
    id.toText.toList = Nat.toDigits 10 id.time.toNat ++ '-' :: Nat.toDigits 10 id.sequence.toNat := by
  simp [toText]

theorem hyphen_notMem {digits : List Char} (all : ∀ c ∈ digits, c.isDigit = true) :
    '-' ∉ digits := by
  intro member
  exact absurd (all '-' member) (by decide)

theorem Id.spelled_toText (id : Id) :
    Spelled id.toText.toList id.time.toNat id.sequence.toNat := by
  have absent : '-' ∉ Nat.toDigits 10 id.time.toNat :=
    hyphen_notMem fun c => Nat.isDigit_of_mem_toDigits (by decide) (by decide)
  rw [toText_toList]
  exact Or.inr ⟨_, _, rfl, absent, spells_toDigits _, spells_toDigits _⟩

theorem Id.read_toText (id : Id) : read id.toText = .ok id := by
  rw [read_eq_ok_iff]
  exact ⟨_, surrounds_refl _ _, id.spelled_toText⟩

theorem Cursor.read_toText (cursor : Cursor) : read cursor.toText = .ok cursor := by
  cases cursor with
  | undelivered => rfl
  | after id => exact (read_eq_after_iff _ _).mpr id.read_toText

/-- The usual text of an id: two numbers as they are written, and a hyphen between them. -/
def Id.IsUsual (text : List Char) : Prop :=
  ∃ first second, text = first ++ '-' :: second ∧ Canonical first ∧ Canonical second

theorem Id.IsUsual.spelled {text : List Char} (usual : IsUsual text) :
    ∃ time sequence, Spelled text time sequence := by
  obtain ⟨first, second, rfl, canonicalFirst, canonicalSecond⟩ := usual
  exact ⟨_, _, Or.inr ⟨first, second, rfl, hyphen_notMem canonicalFirst.all,
    canonicalFirst.spells, canonicalSecond.spells⟩⟩

/-- An id that was read from its usual text is written as that text. -/
theorem Id.toText_of_read {text : String} {id : Id} (usual : IsUsual text.toList)
    (found : read text = .ok id) : id.toText = text := by
  obtain ⟨core, surrounds, spelled⟩ := (read_eq_ok_iff text id).mp found
  obtain ⟨_, _, usualSpelled⟩ := usual.spelled
  have whole : core = text.toList := by
    rw [← (dropAround_eq_iff spelled.not_isBlank).mpr surrounds]
    exact (dropAround_eq_iff usualSpelled.not_isBlank).mpr (surrounds_refl _ _)
  subst whole
  obtain ⟨first, second, parts, canonicalFirst, canonicalSecond⟩ := usual
  have cutText := cut_append_cons (hyphen_notMem canonicalFirst.all) second
  rw [← parts] at cutText
  apply String.toList_injective
  rw [toText_toList, parts]
  rcases spelled with ⟨none, -⟩ | ⟨front, back, same, absent, spellsFront, spellsBack⟩
  · rw [cut_of_notMem none] at cutText
    cases cutText
  · rw [same, cut_append_cons absent] at cutText
    cases cutText
    rw [canonicalFirst.toDigits_of_spells spellsFront,
      canonicalSecond.toDigits_of_spells spellsBack]

/-! ### Delivered entries -/

theorem firstDelivery_eq_some {answer : Except Fault (List (String × List (String × Reply)))}
    {delivery : Delivery} (delivered : firstDelivery answer = .ok (some delivery)) :
    ∃ text fields rest, answer = .ok ((text, fields) :: rest) ∧ Id.read text = .ok delivery.id := by
  cases answer with
  | error fault => cases delivered
  | ok entries =>
      cases entries with
      | nil => cases delivered
      | cons entry rest =>
          obtain ⟨text, fields⟩ := entry
          refine ⟨text, fields, rest, rfl, ?_⟩
          rw [firstDelivery, deliveryOf] at delivered
          cases found : Id.read text with
          | error error =>
              rw [found] at delivered
              cases delivered
          | ok id =>
              rw [found] at delivered
              dsimp only at delivered
              cases read : fieldsOf fields with
              | error error =>
                  rw [read] at delivered
                  cases delivered
                  rfl
              | ok fields =>
                  rw [read] at delivered
                  cases delivered
                  rfl

/-- What a question does to the outside is what sending its command once does. -/
theorem ask_sends {σ α : Type} (stream : Stream σ) (command : List String)
    (reading : Reply → Except StreamError α) (outside : σ) :
    (stream.ask command reading outside).2 =
      (stream.network.send stream.settings.server command outside).2 := by
  simp only [Stream.ask, bind, StateT.bind]
  cases stream.network.send stream.settings.server command outside with
  | mk reply after => cases reply <;> rfl

theorem acknowledge_sends {σ : Type} (stream : Stream σ) (id : Id) (outside : σ) :
    (stream.acknowledge id outside).2 =
      (stream.network.send stream.settings.server (stream.settings.acknowledge id) outside).2 :=
  ask_sends stream _ _ outside

/-! ### Main result -/

/-- What reading a text as an id or as a position comes to, said by what the text spells. -/
structure ReadsAsSpelled (text : String) : Prop where
  accepted : (∃ id, Id.read text = .ok id) ↔
    ∃ core time sequence, Surrounds isBlank core text.toList ∧ Id.Spelled core time sequence ∧
      time < wordBound 64 ∧ sequence < wordBound 64
  value : ∀ id, Id.read text = .ok id ↔
    ∃ core, Surrounds isBlank core text.toList ∧ Id.Spelled core id.time.toNat id.sequence.toNat
  after : ∀ id, Cursor.read text = .ok (.after id) ↔ Id.read text = .ok id
  undelivered : Cursor.read text = .ok .undelivered ↔
    Surrounds isBlank [] text.toList ∨ Surrounds isBlank ['>'] text.toList

/-- Ids and positions are read back from their texts, a text is read as what it spells, and what a
server is told about a delivered entry names it as the server did, if that was the usual way. -/
theorem ids_read_as_spelled {σ : Type} (id : Id) (cursor : Cursor) (text : String)
    (stream : Stream σ) (answer : Except Fault (List (String × List (String × Reply)))) :
    Id.read id.toText = .ok id ∧ Cursor.read cursor.toText = .ok cursor ∧ ReadsAsSpelled text ∧
      ∀ delivery, firstDelivery answer = .ok (some delivery) →
        ∃ named fields rest, answer = .ok ((named, fields) :: rest) ∧
          (Id.IsUsual named.toList → ∀ outside, (stream.acknowledge delivery.id outside).2 =
            (stream.network.send stream.settings.server
              ["XACK", stream.settings.streamKey, stream.settings.group, named] outside).2) := by
  refine ⟨id.read_toText, cursor.read_toText, ?_, ?_⟩
  · exact ⟨Id.read_succeeds_iff text, Id.read_eq_ok_iff text, Cursor.read_eq_after_iff text,
      Cursor.read_eq_undelivered_iff text⟩
  · intro delivery delivered
    obtain ⟨named, fields, rest, answered, read⟩ := firstDelivery_eq_some delivered
    refine ⟨named, fields, rest, answered, ?_⟩
    intro usual outside
    rw [acknowledge_sends, StreamSettings.acknowledge, Id.toText_of_read usual read]

/-- A network whose outside is the list of the commands that were sent. -/
def commandsNetwork : Network (List (List String)) where
  connect := fun _ => return .ok ()
  send := fun _ command sent => (.ok (.integer 1), sent ++ [command])

theorem ids_read_as_spelled_rehearsed :
    firstDelivery (.ok [("1526919030474-55", [])]) =
        .ok (some { id := ⟨1526919030474, 55⟩, body := .fields .empty }) ∧
      Id.IsUsual "1526919030474-55".toList ∧ ReadsAsSpelled " +007-0\n" ∧
      ((⟨commandsNetwork, .usual⟩ : Stream _).acknowledge ⟨1526919030474, 55⟩ []).2 =
        [["XACK", StreamSettings.usualKey, StreamSettings.usualGroup, "1526919030474-55"]] := by
  have delivered : firstDelivery (.ok [("1526919030474-55", [])]) =
      .ok (some { id := ⟨1526919030474, 55⟩, body := .fields .empty }) := by rfl
  have usual : Id.IsUsual "1526919030474-55".toList := by
    refine ⟨"1526919030474".toList, "55".toList, rfl, ?_, ?_⟩
    · exact ⟨by decide, List.all_eq_true.mp rfl, by decide⟩
    · exact ⟨by decide, List.all_eq_true.mp rfl, by decide⟩
  obtain ⟨-, -, reads, deliveries⟩ := ids_read_as_spelled ⟨0, 0⟩ .undelivered " +007-0\n"
    (⟨commandsNetwork, .usual⟩ : Stream _) (.ok [("1526919030474-55", [])])
  obtain ⟨named, fields, rest, same, acknowledged⟩ := deliveries _ delivered
  cases same
  exact ⟨delivered, usual, reads, acknowledged usual []⟩

end BuildBench.Entry
