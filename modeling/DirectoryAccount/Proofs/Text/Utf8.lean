import DirectoryAccount.Text.Utf8

/-!
# Reading UTF-8 is the inverse of writing it

`Utf8.decode` walks the bytes by the lead byte of each sequence. The proofs go by the length of the
sequence: for each of the four lengths one lemma says that its bytes are read as one character, and
one that this character is written as these bytes. The ranges of the lead and of the second byte are
what makes the second lemma true; without them an overlong sequence would be read and not be written
back.

Main statement: `Utf8.decode_eq_ok_iff`. Bytes are read as a text exactly when they are the bytes
that the text is written as.
-/

namespace DirectoryAccount

namespace Utf8

/-! ### Lead bytes -/

theorem lead?_eq_none_iff {b : UInt8} : lead? b = none ↔ b.toNat < 0xC2 ∨ 0xF5 ≤ b.toNat := by
  simp only [lead?]
  grind

/-- The range of the byte after the lead, in sequences of three. It shuts out overlong sequences and
surrogates. -/
def SecondOfThree (b₀ b₁ : UInt8) : Prop :=
  IsContinuation b₁ ∧ (b₀.toNat = 0xE0 → 0xA0 ≤ b₁.toNat) ∧ (b₀.toNat = 0xED → b₁.toNat ≤ 0x9F)

/-- The range of the byte after the lead, in sequences of four. It shuts out overlong sequences and
what lies beyond the last character. -/
def SecondOfFour (b₀ b₁ : UInt8) : Prop :=
  IsContinuation b₁ ∧ (b₀.toNat = 0xF0 → 0x90 ≤ b₁.toNat) ∧ (b₀.toNat = 0xF4 → b₁.toNat ≤ 0x8F)

/-- What a lead byte says of the sequence that it starts. -/
theorem lead?_spec {b₀ : UInt8} {lead : Lead} (h : lead? b₀ = some lead) :
    (0xC2 ≤ b₀.toNat ∧ b₀.toNat < 0xE0 ∧ lead.more = 0 ∧
        ∀ b₁, lead.Admits b₁ ↔ IsContinuation b₁) ∨
      (0xE0 ≤ b₀.toNat ∧ b₀.toNat < 0xF0 ∧ lead.more = 1 ∧
        ∀ b₁, lead.Admits b₁ ↔ SecondOfThree b₀ b₁) ∨
      (0xF0 ≤ b₀.toNat ∧ b₀.toNat < 0xF5 ∧ lead.more = 2 ∧
        ∀ b₁, lead.Admits b₁ ↔ SecondOfFour b₀ b₁) := by
  simp only [lead?] at h
  simp only [Lead.Admits, SecondOfThree, SecondOfFour, IsContinuation]
  split at h
  · cases h
  · split at h
    · cases h
      exact .inl ⟨by omega, by omega, rfl, fun b₁ ↦ Iff.rfl⟩
    · refine .inr ?_
      repeat' split at h
      all_goals cases h
      all_goals simp only [Fin.reduceEq, false_and, and_false, or_false, false_or, true_and]
      all_goals exact ⟨by omega, by omega, fun b₁ ↦ by omega⟩

/-! ### Characters and their codes -/

/-- The code of a character is no surrogate. -/
theorem toNat_char_valid (c : Char) :
    c.val.toNat < 0xD800 ∨ (0xDFFF < c.val.toNat ∧ c.val.toNat < 0x110000) :=
  c.valid

/-- A number that is no surrogate is the code of its character. -/
theorem toNat_char_ofNat {n : Nat} (h : n < 0xD800 ∨ (0xDFFF < n ∧ n < 0x110000)) :
    (Char.ofNat n).val.toNat = n := by
  have hvalid : n.isValidChar := h
  rw [Char.ofNat, dif_pos hvalid]
  rfl

/-- A byte is written as the number that it is. -/
theorem ofNat_eq_of_toNat {n : Nat} {b : UInt8} (h : n = b.toNat) : UInt8.ofNat n = b := by
  rw [h, UInt8.ofNat_toNat]

/-! ### Sequences of each length -/

section Sequences

variable {b₀ b₁ b₂ b₃ : UInt8}

theorem encodeChar_one (h₀ : b₀.toNat < 0x80) :
    String.utf8EncodeChar (Char.ofNat b₀.toNat) = [b₀] := by
  have hchar : (Char.ofNat b₀.toNat).val.toNat = b₀.toNat := toNat_char_ofNat (.inl (by omega))
  rw [String.utf8EncodeChar.eq_1, hchar, if_pos (by omega), UInt8.ofNat_toNat]

theorem encodeChar_two (hlo : 0xC2 ≤ b₀.toNat) (hhi : b₀.toNat < 0xE0) (h₁ : IsContinuation b₁) :
    String.utf8EncodeChar (char₂ b₀ b₁) = [b₀, b₁] := by
  rw [IsContinuation] at h₁
  have hchar : (char₂ b₀ b₁).val.toNat = b₀.toNat % 32 * 64 + b₁.toNat % 64 :=
    toNat_char_ofNat (by simp only [payload]; omega)
  rw [String.utf8EncodeChar.eq_1, hchar, if_neg (by omega), if_pos (by omega),
    ofNat_eq_of_toNat (b := b₀) (by omega), ofNat_eq_of_toNat (b := b₁) (by omega)]

theorem encodeChar_three (hlo : 0xE0 ≤ b₀.toNat) (hhi : b₀.toNat < 0xF0)
    (h₁ : SecondOfThree b₀ b₁) (h₂ : IsContinuation b₂) :
    String.utf8EncodeChar (char₃ b₀ b₁ b₂) = [b₀, b₁, b₂] := by
  rw [SecondOfThree, IsContinuation] at h₁
  rw [IsContinuation] at h₂
  have hchar : (char₃ b₀ b₁ b₂).val.toNat =
      b₀.toNat % 16 * 4096 + b₁.toNat % 64 * 64 + b₂.toNat % 64 :=
    toNat_char_ofNat (by simp only [payload]; omega)
  rw [String.utf8EncodeChar.eq_1, hchar, if_neg (by omega), if_neg (by omega), if_pos (by omega),
    ofNat_eq_of_toNat (b := b₀) (by omega), ofNat_eq_of_toNat (b := b₁) (by omega),
    ofNat_eq_of_toNat (b := b₂) (by omega)]

theorem encodeChar_four (hlo : 0xF0 ≤ b₀.toNat) (hhi : b₀.toNat < 0xF5)
    (h₁ : SecondOfFour b₀ b₁) (h₂ : IsContinuation b₂) (h₃ : IsContinuation b₃) :
    String.utf8EncodeChar (char₄ b₀ b₁ b₂ b₃) = [b₀, b₁, b₂, b₃] := by
  rw [SecondOfFour, IsContinuation] at h₁
  rw [IsContinuation] at h₂ h₃
  have hchar : (char₄ b₀ b₁ b₂ b₃).val.toNat =
      b₀.toNat % 8 * 262144 + b₁.toNat % 64 * 4096 + b₂.toNat % 64 * 64 + b₃.toNat % 64 :=
    toNat_char_ofNat (by simp only [payload]; omega)
  rw [String.utf8EncodeChar.eq_1, hchar, if_neg (by omega), if_neg (by omega), if_neg (by omega),
    ofNat_eq_of_toNat (b := b₀) (by omega), ofNat_eq_of_toNat (b := b₁) (by omega),
    ofNat_eq_of_toNat (b := b₂) (by omega), ofNat_eq_of_toNat (b := b₃) (by omega)]

variable (p : Nat) (t : List UInt8)

theorem decodeFrom_one (h₀ : b₀.toNat < 0x80) :
    decodeFrom p (b₀ :: t) = (decodeFrom (p + 1) t).map (Char.ofNat b₀.toNat :: ·) := by
  rw [decodeFrom.eq_def]
  exact if_pos h₀

theorem decodeFrom_two (hlo : 0xC2 ≤ b₀.toNat) (hhi : b₀.toNat < 0xE0) (h₁ : IsContinuation b₁) :
    decodeFrom p (b₀ :: b₁ :: t) = (decodeFrom (p + 2) t).map (char₂ b₀ b₁ :: ·) := by
  have h₀ : ¬b₀.toNat < 0x80 := by omega
  cases hlead : lead? b₀ with
  | none => have := lead?_eq_none_iff.1 hlead; omega
  | some lead =>
    rcases lead?_spec hlead with ⟨-, -, hmore, hadmits⟩ | ⟨h, -⟩ | ⟨h, -⟩
    · simp [decodeFrom, h₀, hlead, hmore, hadmits, h₁]
    · omega
    · omega

theorem decodeFrom_three (hlo : 0xE0 ≤ b₀.toNat) (hhi : b₀.toNat < 0xF0)
    (h₁ : SecondOfThree b₀ b₁) (h₂ : IsContinuation b₂) :
    decodeFrom p (b₀ :: b₁ :: b₂ :: t) = (decodeFrom (p + 3) t).map (char₃ b₀ b₁ b₂ :: ·) := by
  have h₀ : ¬b₀.toNat < 0x80 := by omega
  cases hlead : lead? b₀ with
  | none => have := lead?_eq_none_iff.1 hlead; omega
  | some lead =>
    rcases lead?_spec hlead with ⟨-, h, -⟩ | ⟨-, -, hmore, hadmits⟩ | ⟨h, -⟩
    · omega
    · simp [decodeFrom, h₀, hlead, hmore, hadmits, h₁, h₂]
    · omega

theorem decodeFrom_four (hlo : 0xF0 ≤ b₀.toNat) (hhi : b₀.toNat < 0xF5)
    (h₁ : SecondOfFour b₀ b₁) (h₂ : IsContinuation b₂) (h₃ : IsContinuation b₃) :
    decodeFrom p (b₀ :: b₁ :: b₂ :: b₃ :: t) =
      (decodeFrom (p + 4) t).map (char₄ b₀ b₁ b₂ b₃ :: ·) := by
  have h₀ : ¬b₀.toNat < 0x80 := by omega
  cases hlead : lead? b₀ with
  | none => have := lead?_eq_none_iff.1 hlead; omega
  | some lead =>
    rcases lead?_spec hlead with ⟨-, h, -⟩ | ⟨-, h, -⟩ | ⟨-, -, hmore, hadmits⟩
    · omega
    · omega
    · simp [decodeFrom, h₀, hlead, hmore, hadmits, h₁, h₂, h₃]

end Sequences

/-! ### Whole texts -/

theorem char_eq_of_toNat {c : Char} {n : Nat} (h : n = c.val.toNat) : Char.ofNat n = c := by
  rw [h]
  exact Char.ofNat_toNat c

/-- **A written character is read as that character.** -/
theorem decodeFrom_encodeChar_append (p : Nat) (c : Char) (t : List UInt8) :
    decodeFrom p (String.utf8EncodeChar c ++ t) =
      (decodeFrom (p + (String.utf8EncodeChar c).length) t).map (c :: ·) := by
  have hvalid := toNat_char_valid c
  rw [String.utf8EncodeChar.eq_1]
  generalize hn : c.val.toNat = n at *
  split
  · have h₀ : (UInt8.ofNat n).toNat = n := by simp; omega
    rw [List.singleton_append, decodeFrom_one p t (by omega), h₀, char_eq_of_toNat hn.symm]
    rfl
  split
  · have h₀ : (UInt8.ofNat (n / 64 % 32 + 192)).toNat = n / 64 % 32 + 192 := by simp; omega
    have h₁ : (UInt8.ofNat (n % 64 + 128)).toNat = n % 64 + 128 := by simp; omega
    refine (decodeFrom_two p t (by omega) (by omega) (by rw [IsContinuation]; omega)).trans ?_
    rw [char₂, payload, h₀, h₁, char_eq_of_toNat (by omega : _ = c.val.toNat)]
    rfl
  split
  · have h₀ : (UInt8.ofNat (n / 4096 % 16 + 224)).toNat = n / 4096 % 16 + 224 := by simp; omega
    have h₁ : (UInt8.ofNat (n / 64 % 64 + 128)).toNat = n / 64 % 64 + 128 := by simp; omega
    have h₂ : (UInt8.ofNat (n % 64 + 128)).toNat = n % 64 + 128 := by simp; omega
    refine (decodeFrom_three p t (by omega) (by omega)
      (by rw [SecondOfThree, IsContinuation]; omega) (by rw [IsContinuation]; omega)).trans ?_
    rw [char₃, payload, payload, h₀, h₁, h₂, char_eq_of_toNat (by omega : _ = c.val.toNat)]
    rfl
  · have h₀ : (UInt8.ofNat (n / 262144 % 8 + 240)).toNat = n / 262144 % 8 + 240 := by simp; omega
    have h₁ : (UInt8.ofNat (n / 4096 % 64 + 128)).toNat = n / 4096 % 64 + 128 := by simp; omega
    have h₂ : (UInt8.ofNat (n / 64 % 64 + 128)).toNat = n / 64 % 64 + 128 := by simp; omega
    have h₃ : (UInt8.ofNat (n % 64 + 128)).toNat = n % 64 + 128 := by simp; omega
    refine (decodeFrom_four p t (by omega) (by omega) (by rw [SecondOfFour, IsContinuation]; omega)
      (by rw [IsContinuation]; omega) (by rw [IsContinuation]; omega)).trans ?_
    rw [char₄, payload, payload, payload, h₀, h₁, h₂, h₃,
      char_eq_of_toNat (by omega : _ = c.val.toNat)]
    rfl

theorem decodeFrom_flatMap (p : Nat) (cs : List Char) :
    decodeFrom p (cs.flatMap String.utf8EncodeChar) = .ok cs := by
  induction cs generalizing p with
  | nil => rw [List.flatMap_nil, decodeFrom]
  | cons c cs ih =>
    rw [List.flatMap_cons, decodeFrom_encodeChar_append, ih]
    rfl

/-- If a sequence is read as the character that it is the writing of, and the rest is read as what
it is the writing of, then so are both together. -/
theorem append_eq_flatMap_of_map {sequence t : List UInt8} {c : Char} {cs : List Char}
    {rest : Except Fault (List Char)} (hc : String.utf8EncodeChar c = sequence)
    (ih : ∀ {ds : List Char}, rest = .ok ds → t = ds.flatMap String.utf8EncodeChar)
    (h : rest.map (c :: ·) = .ok cs) : sequence ++ t = cs.flatMap String.utf8EncodeChar := by
  cases rest with
  | error e => cases h
  | ok ds =>
    cases h
    rw [List.flatMap_cons, hc, ih rfl]

/-- **What is read is written back as it was.** -/
theorem eq_flatMap_of_decodeFrom {p : Nat} {bytes : List UInt8} {cs : List Char}
    (h : decodeFrom p bytes = .ok cs) : bytes = cs.flatMap String.utf8EncodeChar := by
  -- The recursion of the decoder has one case for each length and one for each way to refuse.
  fun_induction decodeFrom p bytes generalizing cs with
  | case1 =>
    cases h
    rfl
  | case2 p b₀ t h₀ ih => exact append_eq_flatMap_of_map (encodeChar_one h₀) ih h
  | case6 p b₀ h₀ lead hlead b₁ t h₁ hmore ih =>
    rcases lead?_spec hlead with ⟨hlo, hhi, -, hadmits⟩ | ⟨-, -, hmore', -⟩ | ⟨-, -, hmore', -⟩
    · have hsecond := (hadmits b₁).1 (Decidable.not_not.1 h₁)
      exact append_eq_flatMap_of_map (encodeChar_two hlo hhi hsecond) ih h
    · simp [hmore'] at hmore
    · simp [hmore'] at hmore
  | case9 p b₀ h₀ lead hlead b₁ h₁ hmore₀ b₂ t h₂ hmore ih =>
    rcases lead?_spec hlead with ⟨-, -, hmore', -⟩ | ⟨hlo, hhi, -, hadmits⟩ | ⟨-, -, hmore', -⟩
    · exact absurd hmore' hmore₀
    · have hsecond := (hadmits b₁).1 (Decidable.not_not.1 h₁)
      exact append_eq_flatMap_of_map
        (encodeChar_three hlo hhi hsecond (Decidable.not_not.1 h₂)) ih h
    · simp [hmore'] at hmore
  | case12 p b₀ h₀ lead hlead b₁ h₁ hmore₀ b₂ h₂ hmore₁ b₃ t h₃ ih =>
    rcases lead?_spec hlead with ⟨-, -, hmore', -⟩ | ⟨-, -, hmore', -⟩ | ⟨hlo, hhi, -, hadmits⟩
    · exact absurd hmore' hmore₀
    · exact absurd hmore' hmore₁
    · have hsecond := (hadmits b₁).1 (Decidable.not_not.1 h₁)
      exact append_eq_flatMap_of_map
        (encodeChar_four hlo hhi hsecond (Decidable.not_not.1 h₂) (Decidable.not_not.1 h₃)) ih h
  | case3 | case4 | case5 | case7 | case8 | case10 | case11 => cases h

/-- **Bytes are read as a text exactly when they are the bytes that it is written as.** -/
theorem decode_eq_ok_iff {bytes : List UInt8} {text : String} :
    decode bytes = .ok text ↔ bytes = encode text := by
  rw [decode]
  constructor
  · intro h
    cases hread : decodeFrom 0 bytes with
    | error e =>
      rw [hread] at h
      cases h
    | ok cs =>
      rw [hread] at h
      cases h
      rw [encode, String.toList_ofList]
      exact eq_flatMap_of_decodeFrom hread
  · rintro rfl
    rw [encode, decodeFrom_flatMap]
    show Except.ok (String.ofList text.toList) = _
    rw [String.ofList_toList]

/-- Different texts are written as different bytes. -/
theorem encode_injective : Function.Injective encode := by
  intro s t h
  have hs : decode (encode s) = .ok s := decode_eq_ok_iff.2 rfl
  exact Except.ok.inj (hs.symm.trans (decode_eq_ok_iff.2 h))

end Utf8

end DirectoryAccount
