import BuildBench.Text.Utf8

set_option autoImplicit false

/-! UTF-8 in both directions. Main statement: bytes are read as a text exactly if they are what is
written for it. -/

namespace BuildBench.Text.Utf8

/-- The bytes are what is written for some text. -/
def IsUtf8 (bytes : List UInt8) : Prop :=
  ∃ text, bytes = encode text

/-! ### Bytes as numbers -/

theorem isContinuation_iff (byte : UInt8) :
    isContinuation byte = true ↔ 0x80 ≤ byte.toNat ∧ byte.toNat ≤ 0xBF := by
  simp [isContinuation, UInt8.le_iff_toNat_le]

theorem secondOfThree_iff (first second : UInt8) :
    secondOfThree first second = true ↔
      0x80 ≤ second.toNat ∧ second.toNat ≤ 0xBF ∧
        (first.toNat = 0xE0 → 0xA0 ≤ second.toNat) ∧
        (first.toNat = 0xED → second.toNat ≤ 0x9F) := by
  unfold secondOfThree
  simp only [← UInt8.toNat_inj, UInt8.le_iff_toNat_le, UInt8.reduceToNat]
  split
  · simp; omega
  · split
    · simp; omega
    · rw [isContinuation_iff]; omega

theorem secondOfFour_iff (first second : UInt8) :
    secondOfFour first second = true ↔
      0x80 ≤ second.toNat ∧ second.toNat ≤ 0xBF ∧
        (first.toNat = 0xF0 → 0x90 ≤ second.toNat) ∧
        (first.toNat = 0xF4 → second.toNat ≤ 0x8F) := by
  unfold secondOfFour
  simp only [← UInt8.toNat_inj, UInt8.le_iff_toNat_le, UInt8.reduceToNat]
  split
  · simp; omega
  · split
    · simp; omega
    · rw [isContinuation_iff]; omega

/-! ### Characters -/

/-- The bytes of a character by the size of its code: no form is longer than it has to be, and none
stands for a surrogate. -/
inductive Forms (c : Char) : List UInt8 → Prop
  | one {a : UInt8} (lead : a.toNat < 0x80) (code : c.toNat = a.toNat) : Forms c [a]
  | two {a b : UInt8} (lead : 0xC2 ≤ a.toNat ∧ a.toNat ≤ 0xDF) (second : isContinuation b = true)
      (code : c.toNat = a.toNat % 32 * 64 + payload b) : Forms c [a, b]
  | three {a b d : UInt8} (lead : 0xE0 ≤ a.toNat ∧ a.toNat ≤ 0xEF)
      (second : secondOfThree a b = true) (third : isContinuation d = true)
      (code : c.toNat = a.toNat % 16 * 4096 + payload b * 64 + payload d) : Forms c [a, b, d]
  | four {a b d e : UInt8} (lead : 0xF0 ≤ a.toNat ∧ a.toNat ≤ 0xF4)
      (second : secondOfFour a b = true) (third : isContinuation d = true)
      (fourth : isContinuation e = true)
      (code : c.toNat = a.toNat % 8 * 262144 + payload b * 4096 + payload d * 64 + payload e) :
      Forms c [a, b, d, e]

theorem toNat_char (c : Char) : c.toNat < 0xD800 ∨ (0xDFFF < c.toNat ∧ c.toNat < 0x110000) :=
  c.valid

theorem utf8EncodeChar_eq (c : Char) :
    String.utf8EncodeChar c =
      if c.toNat ≤ 0x7F then [UInt8.ofNat c.toNat]
      else if c.toNat ≤ 0x7FF then
        [UInt8.ofNat (c.toNat / 64 % 32 + 192), UInt8.ofNat (c.toNat % 64 + 128)]
      else if c.toNat ≤ 0xFFFF then
        [UInt8.ofNat (c.toNat / 4096 % 16 + 224), UInt8.ofNat (c.toNat / 64 % 64 + 128),
          UInt8.ofNat (c.toNat % 64 + 128)]
      else
        [UInt8.ofNat (c.toNat / 262144 % 8 + 240), UInt8.ofNat (c.toNat / 4096 % 64 + 128),
          UInt8.ofNat (c.toNat / 64 % 64 + 128), UInt8.ofNat (c.toNat % 64 + 128)] :=
  rfl

theorem forms_utf8EncodeChar (c : Char) : Forms c (String.utf8EncodeChar c) := by
  have valid := toNat_char c
  rw [utf8EncodeChar_eq]
  by_cases one : c.toNat ≤ 0x7F
  · rw [if_pos one]
    apply Forms.one <;> simp only [UInt8.toNat_ofNat'] <;> omega
  rw [if_neg one]
  by_cases two : c.toNat ≤ 0x7FF
  · rw [if_pos two]
    apply Forms.two <;> simp only [isContinuation_iff, payload, UInt8.toNat_ofNat'] <;> omega
  rw [if_neg two]
  by_cases three : c.toNat ≤ 0xFFFF
  · rw [if_pos three]
    apply Forms.three <;>
      simp only [isContinuation_iff, secondOfThree_iff, payload, UInt8.toNat_ofNat'] <;> omega
  · rw [if_neg three]
    apply Forms.four <;>
      simp only [isContinuation_iff, secondOfFour_iff, payload, UInt8.toNat_ofNat'] <;> omega

theorem ofNat_eq {code : Nat} {byte : UInt8} (same : code = byte.toNat) :
    UInt8.ofNat code = byte := by
  rw [same, UInt8.ofNat_toNat]

theorem Forms.eq_utf8EncodeChar {c : Char} {bytes : List UInt8} (forms : Forms c bytes) :
    bytes = String.utf8EncodeChar c := by
  rw [utf8EncodeChar_eq]
  cases forms with
  | one lead code => rw [if_pos (by omega), code, UInt8.ofNat_toNat]
  | two lead second code =>
      rw [isContinuation_iff] at second
      unfold payload at code
      rw [if_neg (by omega), if_pos (by omega), ofNat_eq, ofNat_eq]
      all_goals omega
  | three lead second third code =>
      rw [secondOfThree_iff] at second
      rw [isContinuation_iff] at third
      unfold payload at code
      rw [if_neg (by omega), if_neg (by omega), if_pos (by omega), ofNat_eq, ofNat_eq, ofNat_eq]
      all_goals omega
  | four lead second third fourth code =>
      rw [secondOfFour_iff] at second
      rw [isContinuation_iff] at third fourth
      unfold payload at code
      rw [if_neg (by omega), if_neg (by omega), if_neg (by omega), ofNat_eq, ofNat_eq, ofNat_eq,
        ofNat_eq]
      all_goals omega

/-! ### Fronts -/

theorem between_iff (low high byte : UInt8) :
    (low ≤ byte && byte ≤ high) = true ↔ low.toNat ≤ byte.toNat ∧ byte.toNat ≤ high.toNat := by
  rw [Bool.and_eq_true, decide_eq_true_iff, decide_eq_true_iff, UInt8.le_iff_toNat_le,
    UInt8.le_iff_toNat_le]

/-- Bytes in front of others are read as the character whose form they have. -/
theorem Forms.front {c : Char} {first : UInt8} {more : List UInt8} (forms : Forms c (first :: more))
    (rest : List UInt8) : front first (more ++ rest) = .char c (more.length + 1) := by
  unfold Utf8.front
  simp only [between_iff, UInt8.lt_iff_toNat_lt, UInt8.reduceToNat]
  cases forms with
  | one lead code =>
      rw [if_pos lead, ← code, Char.ofNat_toNat]
      rfl
  | two lead second code =>
      rw [if_neg (by omega), if_pos lead]
      dsimp only [List.cons_append]
      rw [if_pos second, ← code, Char.ofNat_toNat]
      rfl
  | three lead second third code =>
      rw [if_neg (by omega), if_neg (by omega), if_pos lead]
      dsimp only [List.cons_append]
      rw [if_pos second, if_pos third, ← code, Char.ofNat_toNat]
      rfl
  | four lead second third fourth code =>
      rw [if_neg (by omega), if_neg (by omega), if_neg (by omega), if_pos lead]
      dsimp only [List.cons_append]
      rw [if_pos second, if_pos third, if_pos fourth, ← code, Char.ofNat_toNat]
      rfl

theorem toNat_ofNat {code : Nat} (valid : code.isValidChar) : (Char.ofNat code).toNat = code := by
  rw [Char.ofNat, dif_pos valid]
  rfl

/-- A character that is read stands there in its form. -/
theorem forms_of_front {first : UInt8} {rest : List UInt8} {c : Char} {size : Nat}
    (read : front first rest = .char c size) :
    ∃ more tail, Forms c (first :: more) ∧ rest = more ++ tail ∧ size = more.length + 1 := by
  unfold Utf8.front at read
  simp only [between_iff, UInt8.lt_iff_toNat_lt, UInt8.reduceToNat] at read
  by_cases one : first.toNat < 128
  · rw [if_pos one] at read
    cases read
    refine ⟨[], rest, .one one (toNat_ofNat (Or.inl (by omega))), rfl, rfl⟩
  rw [if_neg one] at read
  by_cases two : 194 ≤ first.toNat ∧ first.toNat ≤ 223
  · rw [if_pos two] at read
    split at read
    · cases read
    · split at read
      · rename_i second tail continues
        cases read
        have range := (isContinuation_iff second).mp continues
        have valid : (first.toNat % 32 * 64 + payload second).isValidChar := by
          unfold payload
          exact Or.inl (by omega)
        exact ⟨[second], tail, .two two continues (toNat_ofNat valid), rfl, rfl⟩
      · cases read
  rw [if_neg two] at read
  by_cases three : 224 ≤ first.toNat ∧ first.toNat ≤ 239
  · rw [if_pos three] at read
    split at read
    · cases read
    · split at read
      · rename_i second _ follows
        split at read
        · cases read
        · split at read
          · rename_i third tail continues
            cases read
            have range := (secondOfThree_iff first second).mp follows
            have last := (isContinuation_iff third).mp continues
            have valid :
                (first.toNat % 16 * 4096 + payload second * 64 + payload third).isValidChar := by
              unfold payload Nat.isValidChar
              omega
            exact ⟨[second, third], tail, .three three follows continues (toNat_ofNat valid), rfl,
              rfl⟩
          · cases read
      · cases read
  rw [if_neg three] at read
  by_cases four : 240 ≤ first.toNat ∧ first.toNat ≤ 244
  · rw [if_pos four] at read
    split at read
    · cases read
    · split at read
      · rename_i second _ follows
        split at read
        · cases read
        · split at read
          · rename_i third _ continues
            split at read
            · cases read
            · split at read
              · rename_i fourth tail ends
                cases read
                have range := (secondOfFour_iff first second).mp follows
                have between := (isContinuation_iff third).mp continues
                have last := (isContinuation_iff fourth).mp ends
                have valid : (first.toNat % 8 * 262144 + payload second * 4096 +
                    payload third * 64 + payload fourth).isValidChar := by
                  unfold payload Nat.isValidChar
                  omega
                exact ⟨[second, third, fourth], tail,
                  .four four follows continues ends (toNat_ofNat valid), rfl, rfl⟩
              · cases read
          · cases read
      · cases read
  · rw [if_neg four] at read
    cases read

/-! ### Texts -/

theorem encode_cons (c : Char) (rest : List Char) :
    encode (c :: rest) = String.utf8EncodeChar c ++ encode rest :=
  List.flatMap_cons

theorem decodeFrom_encode (index : Nat) (text : List Char) :
    decodeFrom index (encode text) = .ok text := by
  induction text generalizing index with
  | nil =>
      change decodeFrom index [] = _
      rw [decodeFrom]
  | cons c rest ih =>
      have forms := forms_utf8EncodeChar c
      rw [encode_cons]
      cases written : String.utf8EncodeChar c with
      | nil =>
          rw [written] at forms
          cases forms
      | cons first more =>
          rw [written] at forms
          rw [List.cons_append, decodeFrom, forms.front]
          dsimp only
          rw [Nat.add_sub_cancel, List.drop_left, ih]

theorem eq_encode_of_decodeFrom {index : Nat} {bytes : List UInt8} {text : List Char}
    (read : decodeFrom index bytes = .ok text) : bytes = encode text := by
  fun_induction decodeFrom index bytes generalizing text with
  | case1 index =>
      cases read
      rfl
  | case2 index first rest c size found chars later ih =>
      obtain ⟨more, tail, forms, rfl, rfl⟩ := forms_of_front found
      cases read
      rw [Nat.add_sub_cancel, List.drop_left] at later ih
      rw [encode_cons, ← forms.eq_utf8EncodeChar, List.cons_append, ih later]
  | case3 => cases read
  | case4 => cases read
  | case5 => cases read

theorem decode_eq_ok_iff {bytes : List UInt8} {text : List Char} :
    decode bytes = .ok text ↔ bytes = encode text := by
  constructor
  · exact eq_encode_of_decodeFrom
  · rintro rfl
    exact decodeFrom_encode 0 text

theorem encode_injective {left right : List Char} (same : encode left = encode right) :
    left = right := by
  have decoded := decode_eq_ok_iff.mpr same
  rw [decode_eq_ok_iff.mpr rfl] at decoded
  exact Except.ok.inj decoded

theorem decode_succeeds_iff {bytes : List UInt8} :
    (∃ text, decode bytes = .ok text) ↔ IsUtf8 bytes :=
  exists_congr fun _ => decode_eq_ok_iff

end BuildBench.Text.Utf8
