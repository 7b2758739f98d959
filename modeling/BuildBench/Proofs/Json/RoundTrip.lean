import BuildBench.Proofs.Json.Members
import BuildBench.Proofs.Json.Numbers
import BuildBench.Proofs.Json.Strings
import BuildBench.Proofs.Text.Utf8
import Mathlib.Data.List.TakeWhile

set_option autoImplicit false

/-! Documents that are read back. Main statement: a document of texts, doubles and objects, however
it is nested up to the limit, is read from what was written of it, if its doubles are. -/

namespace BuildBench.Json

open BuildBench.Number

/-! ### Blanks -/

theorem skipSpaces_append {blanks : List Char} (all : ∀ c ∈ blanks, isSpace c = true)
    (text : List Char) : skipSpaces (blanks ++ text) = skipSpaces text := by
  rw [skipSpaces, List.dropWhile_append_of_pos all, skipSpaces]

theorem isSpace_of_mem_newLine {level : Nat} {c : Char} (member : c ∈ newLine level) :
    isSpace c = true := by
  rcases List.mem_cons.mp member with rfl | indent
  · decide
  · rw [List.eq_of_mem_replicate indent]
    decide

theorem skipSpaces_newLine (level : Nat) (text : List Char) :
    skipSpaces (newLine level ++ text) = skipSpaces text :=
  skipSpaces_append (fun _ => isSpace_of_mem_newLine) text

theorem stops_newLine (level : Nat) (text : List Char) : Stops (newLine level ++ text) :=
  .of_head _ (by decide)

theorem skipSpaces_of_head {c : Char} (plain : isSpace c = false) (rest : List Char) :
    skipSpaces (c :: rest) = c :: rest := by
  rw [skipSpaces, List.dropWhile_cons_of_neg (by simp [plain])]

theorem skipSpaces_idem (text : List Char) : skipSpaces (skipSpaces text) = skipSpaces text := by
  cases same : skipSpaces text with
  | nil => rfl
  | cons c rest =>
      apply skipSpaces_of_head
      have head := List.head?_dropWhile_not isSpace text
      rw [← skipSpaces, same] at head
      simpa using head

/-! ### Parts -/

/-- The document itself, or what stands in it at whatever depth. -/
inductive IsPart (part : Value) : Value → Prop
  | whole : IsPart part part
  | item {items : List Value} {item : Value} (member : item ∈ items) (inner : IsPart part item) :
      IsPart part (.array items)
  | member {members : List (String × Value)} {member : String × Value} (held : member ∈ members)
      (inner : IsPart part member.2) : IsPart part (.object members)

theorem IsPart.of_leaf {part value : Value} (inner : IsPart part value)
    (noArray : ∀ items, value ≠ .array items) (noObject : ∀ members, value ≠ .object members) :
    part = value := by
  cases inner with
  | whole => rfl
  | item => exact absurd rfl (noArray _)
  | member => exact absurd rfl (noObject _)

/-! ### Doubles -/

theorem readItems_isArray {steps depth : Nat} {held : List Value} {text rest : List Char}
    {value : Value} (read : readItems steps depth held text = some (value, rest)) :
    ∃ items, value = .array items := by
  induction steps generalizing held text with
  | zero => cases read
  | succ steps ih =>
      rw [readItems] at read
      split at read
      · cases read
      · split at read
        · exact ih read
        · cases read
          exact ⟨_, rfl⟩
        · cases read

theorem readMembers_isObject {steps depth : Nat} {held : List (String × Value)}
    {text rest : List Char} {value : Value}
    (read : readMembers steps depth held text = some (value, rest)) :
    ∃ members, value = .object members := by
  induction steps generalizing held text with
  | zero => cases read
  | succ steps ih =>
      rw [readMembers] at read
      split at read
      · split at read
        · cases read
        · split at read
          · split at read
            · cases read
            · dsimp only at read
              split at read
              · exact ih read
              · cases read
                exact ⟨_, rfl⟩
              · cases read
          · cases read
      · cases read

theorem digit_of_readNumber {negative : Bool} {text rest : List Char} {value : Value}
    (read : readNumber negative text = some (value, rest)) :
    ∃ c others, text = c :: others ∧ c.isDigit = true := by
  cases text with
  | nil => cases read
  | cons c others =>
      refine ⟨c, others, rfl, ?_⟩
      by_contra other
      unfold readNumber at read
      dsimp only at read
      rw [List.takeWhile_cons_of_neg other] at read
      cases read

/-- What is read as a double stands in the text as a number. -/
theorem readValue_double {steps depth : Nat} {text rest : List Char} {value : Binary64}
    (read : readValue (steps + 1) depth text = some (.double value, rest)) :
    (∃ magnitude, skipSpaces text = '-' :: magnitude ∧
      readNumber true magnitude = some (.double value, rest)) ∨
    readNumber false (skipSpaces text) = some (.double value, rest) := by
  rw [readValue] at read
  split at read
  · cases read
  · cases read
  · cases read
  · obtain ⟨_, -, same⟩ := Option.map_eq_some_iff.mp read
    cases same
  · rename_i magnitude same
    exact Or.inl ⟨magnitude, same, read⟩
  · split at read
    · cases read
    · split at read
      · cases read
      · obtain ⟨items, same⟩ := readItems_isArray read
        cases same
  · split at read
    · cases read
    · split at read
      · cases read
      · obtain ⟨members, same⟩ := readMembers_isObject read
        cases same
  · exact Or.inr read

theorem readValue_of_digit {c : Char} (digit : c.isDigit = true) (steps depth : Nat)
    (rest : List Char) : readValue (steps + 1) depth (c :: rest) = readNumber false (c :: rest) := by
  have apart (other : Char) (plain : other.isDigit = false) : c ≠ other := by
    rintro rfl
    rw [digit] at plain
    cases plain
  have filled : isSpace c = false := by
    simp [isSpace, apart]
  rw [readValue, skipSpaces_of_head filled]
  split
  case h_8 => rfl
  all_goals
    rename_i same
    exact absurd (List.cons.inj same).1 (apart _ (by decide))

theorem readValue_minus (steps depth : Nat) (rest : List Char) :
    readValue (steps + 1) depth ('-' :: rest) = readNumber true rest := by
  rw [readValue, skipSpaces_of_head (by decide)]
  rfl

theorem readValue_quote (steps depth : Nat) (rest : List Char) :
    readValue (steps + 1) depth ('\x22' :: rest) =
      (readString rest).map fun (value, after) => (.text value, after) := by
  rw [readValue, skipSpaces_of_head (by decide)]
  rfl

theorem readValue_congr {left right : List Char} (same : skipSpaces left = skipSpaces right)
    (steps depth : Nat) : readValue steps depth left = readValue steps depth right := by
  cases steps with
  | zero => rfl
  | succ steps => rw [readValue, readValue, same]

theorem readMembers_congr {left right : List Char} (same : skipSpaces left = skipSpaces right)
    (steps depth : Nat) (held : List (String × Value)) :
    readMembers steps depth held left = readMembers steps depth held right := by
  cases steps with
  | zero => rfl
  | succ steps => rw [readMembers, readMembers, same]

/-- An opening brace with something else than a closing one behind it opens a list of members. -/
theorem readValue_brace {text : List Char} (filled : (skipSpaces text).head? ≠ some '\x7d')
    (steps depth : Nat) :
    readValue (steps + 1) (depth + 1) ('\x7b' :: text) = readMembers steps depth [] text := by
  rw [readValue, skipSpaces_of_head (by decide)]
  split
  case h_7 rest same =>
    obtain rfl := (List.cons.inj same).2
    rw [if_neg (Nat.succ_ne_zero depth)]
    split
    · rename_i closes
      rw [closes] at filled
      exact absurd rfl filled
    · exact readMembers_congr (skipSpaces_idem text) steps depth []
  case h_8 other =>
    exact absurd rfl (other _)
  all_goals
    rename_i same
    exact absurd (List.cons.inj same).1 (by decide)

theorem skipSpaces_append_of_filled {text : List Char} (filled : skipSpaces text ≠ [])
    (rest : List Char) : skipSpaces (text ++ rest) = skipSpaces text ++ rest := by
  rw [skipSpaces, List.dropWhile_append, if_neg (by simpa [skipSpaces] using filled), skipSpaces]

/-- A double is read in front of more text, with room for however many levels. -/
theorem readValue_double_append {steps depth : Nat} {text tail rest : List Char} {value : Binary64}
    (read : readValue (steps + 1) depth text = some (.double value, tail)) (stops : Stops rest)
    (more other : Nat) :
    readValue (more + 1) other (text ++ rest) = some (.double value, tail ++ rest) := by
  rw [← readValue_congr (skipSpaces_idem (text ++ rest))]
  rcases readValue_double read with ⟨magnitude, same, number⟩ | number
  · rw [skipSpaces_append_of_filled (by simp [same]), same, List.cons_append, readValue_minus]
    exact stops.readNumber_append number
  · obtain ⟨c, others, same, digit⟩ := digit_of_readNumber number
    rw [skipSpaces_append_of_filled (by simp [same])]
    rw [same] at number ⊢
    rw [List.cons_append, readValue_of_digit digit]
    exact stops.readNumber_append number

/-! ### Documents in the middle of a text -/

/-- Wherever the document is written, it is read, and nothing behind it but blanks. -/
def Rereads (depth : Nat) (value : Value) : Prop :=
  ∀ level steps rest, (writeSpread level value).length ≤ steps → Stops rest →
    ∃ after, readValue (steps + 1) depth (writeSpread level value ++ rest) = some (value, after) ∧
      skipSpaces after = skipSpaces rest

/-- The text of the double alone is read as the double. -/
def IsReread (value : Binary64) : Prop :=
  read (doubleLayout.write value).toList = some (.double value)

theorem rereads_text (depth : Nat) (text : String) : Rereads depth (.text text) := by
  intro level steps rest _ _
  refine ⟨rest, ?_, rfl⟩
  change readValue _ depth (writeString text ++ rest) = _
  rw [writeString_append, readValue_quote, readString_written]
  rfl

theorem rereads_double (depth : Nat) {value : Binary64} (reread : IsReread value) :
    Rereads depth (.double value) := by
  intro level steps rest _ stops
  change ∃ after, readValue _ depth ((doubleLayout.write value).toList ++ rest) = _ ∧ _
  unfold IsReread read at reread
  generalize (doubleLayout.write value).toList = text at reread
  split at reread
  · rename_i found tail whole
    split at reread
    · rename_i blank
      obtain rfl := Option.some.inj reread
      refine ⟨tail ++ rest, readValue_double_append whole stops _ _, ?_⟩
      rw [List.isEmpty_iff, skipSpaces, List.dropWhile_eq_nil_iff] at blank
      exact skipSpaces_append blank rest
    · cases reread
  · cases reread

/-- A member is written on a line of its own, with a comma behind it unless it is the last one. -/
theorem writeSpreadMembers_cons (level : Nat) (name : String) (value : Value)
    (members : List (String × Value)) :
    writeSpreadMembers level ((name, value) :: members) =
      newLine level ++ writeString name ++ ':' :: ' ' :: writeSpread level value ++
        if members = [] then [] else ',' :: writeSpreadMembers level members := by
  cases members with
  | nil => simp [writeSpreadMembers]
  | cons next others => simp [writeSpreadMembers]

theorem insertMember_of_last {held : List (String × Value)} {name : String} (value : Value)
    (last : ∀ member ∈ held, member.1 < name) :
    insertMember name value held = held ++ [(name, value)] := by
  induction held with
  | nil => rfl
  | cons first others ih =>
      have before : first.1 < name := last first List.mem_cons_self
      have apart : name ≠ first.1 := by
        rintro rfl
        exact String.lt_irrefl _ before
      rw [insertMember, if_neg (String.lt_asymm before), if_neg apart,
        ih fun member later => last member (List.mem_cons_of_mem _ later)]
      rfl

theorem readMembers_member {depth level steps : Nat} {value : Value} {tail : List Char}
    (rereads : Rereads depth value) (enough : (writeSpread level value).length ≤ steps)
    (name : String) (held : List (String × Value)) (stops : Stops tail) :
    readMembers (steps + 2) depth held
        (newLine level ++ writeString name ++ ':' :: ' ' :: writeSpread level value ++ tail) =
      match skipSpaces tail with
      | ',' :: more => readMembers (steps + 1) depth (insertMember name value held) more
      | '\x7d' :: after => some (.object (insertMember name value held), after)
      | _ => none := by
  obtain ⟨after, read, same⟩ := rereads level steps tail enough stops
  have spaced (text : List Char) : skipSpaces (' ' :: text) = skipSpaces text := rfl
  rw [readMembers, List.append_assoc, List.append_assoc, skipSpaces_newLine, writeString_append,
    skipSpaces_of_head (by decide)]
  split
  · rename_i opened text
    rw [← (List.cons.inj text).2, readString_written]
    dsimp only
    rw [List.cons_append, skipSpaces_of_head (by decide)]
    split
    · rename_i spelled colon
      rw [← (List.cons.inj colon).2, List.cons_append, readValue_congr (spaced _), read]
      dsimp only
      generalize skipSpaces after = blank at same ⊢
      subst same
      rfl
    · rename_i other
      exact absurd rfl (other _)
  · rename_i other
    exact absurd rfl (other _)

/-- Members whose names ascend are put into the object in the order in which they are written. -/
theorem readMembers_written {depth level outer : Nat} {members : List (String × Value)}
    (ascending : Ascending members) (rereads : ∀ member ∈ members, Rereads depth member.2)
    (filled : members ≠ []) {held : List (String × Value)}
    (last : ∀ member ∈ members, ∀ earlier ∈ held, earlier.1 < member.1) (steps : Nat)
    (enough : (writeSpreadMembers level members).length ≤ steps) (rest : List Char) :
    readMembers (steps + 1) depth held
        (writeSpreadMembers level members ++ newLine outer ++ '\x7d' :: rest) =
      some (.object (held ++ members), rest) := by
  induction members generalizing held steps with
  | nil => exact absurd rfl filled
  | cons member others ih =>
      obtain ⟨name, value⟩ := member
      obtain ⟨least, ascends⟩ := List.pairwise_cons.mp ascending
      have inserted := insertMember_of_last value (last _ List.mem_cons_self)
      rw [writeSpreadMembers_cons] at enough ⊢
      simp only [List.length_append, List.length_cons] at enough
      obtain ⟨more, rfl⟩ := Nat.exists_eq_add_one_of_ne_zero (n := steps) (by omega)
      have own : Rereads depth value := rereads _ List.mem_cons_self
      have room : (writeSpread level value).length ≤ more := by omega
      have stepped (tail : List Char) (stops : Stops tail) :=
        readMembers_member own room name held stops
      rw [List.append_assoc, List.append_assoc]
      cases others with
      | nil =>
          rw [if_pos rfl, List.nil_append, stepped _ (stops_newLine _ _), skipSpaces_newLine,
            skipSpaces_of_head (by decide), inserted]
          rfl
      | cons next later =>
          rw [if_neg (List.cons_ne_nil _ _)] at enough ⊢
          rw [List.length_cons] at enough
          have stops (text : List Char) : Stops (',' :: text) := .of_head text (by decide)
          rw [List.cons_append, stepped _ (stops _), skipSpaces_of_head (by decide), inserted]
          have above : ∀ member ∈ next :: later, ∀ earlier ∈ held ++ [(name, value)],
              earlier.1 < member.1 := by
            intro member kept earlier known
            rcases List.mem_append.mp known with before | own
            · exact last member (List.mem_cons_of_mem _ kept) earlier before
            · rw [List.mem_singleton.mp own]
              exact least member.1 (List.mem_map.mpr ⟨member, kept, rfl⟩)
          have onward := ih ascends (fun member kept => rereads member (List.mem_cons_of_mem _ kept))
            (List.cons_ne_nil _ _) above more (by omega)
          rw [List.append_assoc, List.append_assoc, List.singleton_append] at onward
          exact onward

theorem rereads_object {depth : Nat} {members : List (String × Value)}
    (ascending : Ascending members) (rereads : ∀ member ∈ members, Rereads depth member.2) :
    Rereads (depth + 1) (.object members) := by
  intro level steps rest enough _
  refine ⟨rest, ?_, rfl⟩
  cases members with
  | nil =>
      change readValue _ _ ('\x7b' :: '\x7d' :: rest) = _
      rw [readValue, skipSpaces_of_head (by decide)]
      rfl
  | cons member others =>
      obtain ⟨name, value⟩ := member
      have whole : writeSpread level (.object ((name, value) :: others)) =
          '\x7b' :: (writeSpreadMembers (level + 1) ((name, value) :: others) ++ newLine level ++
            ['\x7d']) :=
        rfl
      rw [whole] at enough ⊢
      have opens : (skipSpaces (writeSpreadMembers (level + 1) ((name, value) :: others) ++
          newLine level ++ '\x7d' :: rest)).head? ≠ some '\x7d' := by
        rw [writeSpreadMembers_cons]
        simp only [List.append_assoc]
        rw [skipSpaces_newLine, writeString_append, skipSpaces_of_head (by decide)]
        simp
      simp only [List.length_append, List.length_cons] at enough
      obtain ⟨more, rfl⟩ := Nat.exists_eq_add_one_of_ne_zero (n := steps) (by omega)
      rw [List.cons_append, List.append_assoc, List.singleton_append, readValue_brace opens]
      have above : ∀ member ∈ (name, value) :: others, ∀ earlier ∈ ([] : List (String × Value)),
          earlier.1 < member.1 := by
        simp
      exact readMembers_written ascending rereads (List.cons_ne_nil _ _) above more (by omega) rest

/-! ### Whole texts -/

theorem read_written {document : Value} (rereads : Rereads maximumDepth document) :
    read (writeSpread 0 document) = some document := by
  obtain ⟨after, whole, blank⟩ := rereads 0 _ [] (Nat.le_refl _) .nil
  rw [List.append_nil] at whole
  rw [read, whole]
  dsimp only
  rw [blank]
  rfl

/-- What was written of a document in bytes is read as the document. -/
theorem readBytes_written {document : Value} (rereads : Rereads maximumDepth document) :
    readBytes (Text.Utf8.encodeString document.spread) = some document := by
  have decoded : Text.Utf8.decode (Text.Utf8.encodeString document.spread) =
      .ok (writeSpread 0 document) := by
    rw [Text.Utf8.decode_eq_ok_iff, Text.Utf8.encodeString, Value.spread, String.toList_ofList]
  rw [readBytes, decoded]
  exact read_written rereads

end BuildBench.Json
