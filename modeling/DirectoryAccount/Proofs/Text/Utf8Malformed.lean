import DirectoryAccount.Proofs.Text.Utf8

/-!
# Bytes that encode no text

Four ways in which bytes can look like UTF-8 and not be it: a code in more bytes than it needs, a
surrogate, a code beyond the last character, and a character that breaks off. `Utf8.Malformed` has
them as they stand in bytes, and `Utf8.Malformed.encode_ne` states that no text is written as bytes
with one of them in it, whatever text comes before.

**Two bytes show what is wrong with a sequence**, unless it breaks off: its lead does not admit the
second, or is none. A character that breaks off is no text because the bytes of one character do not
begin with those of another.
-/

namespace DirectoryAccount

namespace Utf8

/-! ### Codes in so many bytes -/

/-- A code in two bytes, whether or not it needs as many. -/
def sequence₂ (code : Nat) : List UInt8 :=
  [.ofNat (code / 64 + 0xC0), .ofNat (code % 64 + 0x80)]

/-- A code in three bytes, whether or not it is that of a character. -/
def sequence₃ (code : Nat) : List UInt8 :=
  [.ofNat (code / 4096 + 0xE0), .ofNat (code / 64 % 64 + 0x80), .ofNat (code % 64 + 0x80)]

/-- A code in four bytes, whether or not it is that of a character. -/
def sequence₄ (code : Nat) : List UInt8 :=
  [.ofNat (code / 262144 + 0xF0), .ofNat (code / 4096 % 64 + 0x80), .ofNat (code / 64 % 64 + 0x80),
    .ofNat (code % 64 + 0x80)]

/-- Bytes that begin like a character and are none, and what may follow them. -/
inductive Malformed : List UInt8 → Prop
  | overlong₂ {code : Nat} (h : code < 0x80) (rest : List UInt8) :
    Malformed (sequence₂ code ++ rest)
  | overlong₃ {code : Nat} (h : code < 0x800) (rest : List UInt8) :
    Malformed (sequence₃ code ++ rest)
  | overlong₄ {code : Nat} (h : code < 0x10000) (rest : List UInt8) :
    Malformed (sequence₄ code ++ rest)
  | surrogate {code : Nat} (hlo : 0xD800 ≤ code) (hhi : code < 0xE000) (rest : List UInt8) :
    Malformed (sequence₃ code ++ rest)
  | beyond {code : Nat} (hlo : 0x110000 ≤ code) (hhi : code < 0x200000) (rest : List UInt8) :
    Malformed (sequence₄ code ++ rest)
  /-- The bytes end before the character does, or others follow that do not go on with one. -/
  | truncated {c : Char} {k : Nat} (hpos : 0 < k) (h : k < (String.utf8EncodeChar c).length)
    {rest : List UInt8} (hrest : ∀ b ∈ rest.head?, ¬IsContinuation b) :
    Malformed ((String.utf8EncodeChar c).take k ++ rest)

/-! ### Sequences that are refused -/

/-- A sequence whose second byte its lead does not admit is refused. -/
theorem decodeFrom_ne_ok_of_not_admits {p : Nat} {b₀ b₁ : UInt8} {t : List UInt8} {cs : List Char}
    (h₀ : 0x80 ≤ b₀.toNat) (h : ∀ lead, lead? b₀ = some lead → ¬lead.Admits b₁) :
    decodeFrom p (b₀ :: b₁ :: t) ≠ .ok cs := by
  rw [decodeFrom.eq_def]
  simp only [if_neg (Nat.not_lt.2 h₀)]
  cases hlead : lead? b₀ with
  | none => simp
  | some lead => simp [h lead hlead]

/-- What is read of the bytes of a character and others is that character and what is read of the
others. -/
theorem exists_of_decodeFrom_encodeChar_append {p : Nat} {c : Char} {t : List UInt8}
    {cs : List Char} (h : decodeFrom p (String.utf8EncodeChar c ++ t) = .ok cs) :
    ∃ q ds, decodeFrom q t = .ok ds ∧ cs = c :: ds := by
  rw [decodeFrom_encodeChar_append] at h
  cases hrest : decodeFrom (p + (String.utf8EncodeChar c).length) t with
  | error e =>
    rw [hrest] at h
    cases h
  | ok ds =>
    rw [hrest] at h
    cases h
    exact ⟨_, ds, hrest, rfl⟩

/-- The bytes of a character do not begin with all bytes of another that are fewer. -/
theorem take_encodeChar_ne_append {c d : Char} {k : Nat}
    (h : k < (String.utf8EncodeChar c).length) (t : List UInt8) :
    (String.utf8EncodeChar c).take k ≠ String.utf8EncodeChar d ++ t := by
  intro htake
  have hwhole : String.utf8EncodeChar c =
      String.utf8EncodeChar d ++ (t ++ (String.utf8EncodeChar c).drop k) := by
    rw [← List.append_assoc, ← htake, List.take_append_drop]
  -- So what is written by `c` is read as `d` and something else, but it is read as `c` alone.
  have hread : decodeFrom 0 (String.utf8EncodeChar c) = .ok [c] := by
    rw [← List.flatMap_singleton String.utf8EncodeChar c, decodeFrom_flatMap]
  rw [hwhole] at hread
  obtain ⟨-, ds, -, hcs⟩ := exists_of_decodeFrom_encodeChar_append hread
  obtain rfl : c = d := (List.cons.inj hcs).1
  have hlength := congrArg List.length htake
  rw [List.length_take, List.length_append] at hlength
  omega

theorem toNat_byte {n : Nat} (h : n < 256) : (UInt8.ofNat n).toNat = n :=
  UInt8.toNat_ofNat_of_lt' h

/-- After its first byte a character has only such as go on with one. -/
theorem isContinuation_of_mem_tail {c : Char} {b : UInt8}
    (h : b ∈ (String.utf8EncodeChar c).tail) : IsContinuation b := by
  have hbyte (n : Nat) : IsContinuation (.ofNat (n % 64 + 0x80)) := by
    have htoNat : (UInt8.ofNat (n % 64 + 0x80)).toNat = n % 64 + 0x80 := toNat_byte (by omega)
    exact ⟨by omega, by omega⟩
  rw [String.utf8EncodeChar.eq_1] at h
  split at h
  · cases h
  split at h
  · obtain rfl := List.mem_singleton.1 h
    exact hbyte _
  split at h
  · simp only [List.tail_cons, List.mem_cons, List.not_mem_nil, or_false] at h
    rcases h with rfl | rfl <;> exact hbyte _
  · simp only [List.tail_cons, List.mem_cons, List.not_mem_nil, or_false] at h
    rcases h with rfl | rfl | rfl <;> exact hbyte _

/-- A character that breaks off is not written by any characters. -/
theorem take_encodeChar_append_ne {c : Char} {k : Nat} (hpos : 0 < k)
    (h : k < (String.utf8EncodeChar c).length) {rest : List UInt8}
    (hrest : ∀ b ∈ rest.head?, ¬IsContinuation b) (cs : List Char) :
    (String.utf8EncodeChar c).take k ++ rest ≠ cs.flatMap String.utf8EncodeChar := by
  intro hwritten
  have hlength : ((String.utf8EncodeChar c).take k).length = k :=
    List.length_take_of_le (Nat.le_of_lt h)
  obtain ⟨b₀, bs, hbs⟩ := List.exists_cons_of_length_pos (hlength.symm ▸ hpos)
  cases cs with
  | nil => simp [hbs] at hwritten
  | cons d ds =>
    rw [List.flatMap_cons] at hwritten
    rcases List.append_eq_append_iff.1 hwritten with ⟨t, hd, hrest'⟩ | ⟨t, htake, -⟩
    · cases t with
      | nil =>
        rw [List.append_nil] at hd
        exact take_encodeChar_ne_append h [] ((List.append_nil _).trans hd).symm
      | cons b t =>
        -- `d` goes on where `c` broke off, and `rest` does not.
        have htail : b ∈ (String.utf8EncodeChar d).tail := by simp [hd, hbs]
        exact hrest b (by simp [hrest']) (isContinuation_of_mem_tail htail)
    · exact take_encodeChar_ne_append h t htake

section

variable {code : Nat} (p : Nat) (rest : List UInt8) (cs : List Char)

/-- Two bytes are too many for a code that one can carry. -/
theorem decodeFrom_sequence₂_ne_ok (h : code < 0x80) :
    decodeFrom p (sequence₂ code ++ rest) ≠ .ok cs := by
  have h₀ : (UInt8.ofNat (code / 64 + 0xC0)).toNat = code / 64 + 0xC0 := toNat_byte (by omega)
  refine decodeFrom_ne_ok_of_not_admits (by omega) fun lead hlead _ ↦ ?_
  rcases lead?_spec hlead with ⟨hlo, -⟩ | ⟨hlo, -⟩ | ⟨hlo, -⟩ <;> omega

/-- Three bytes are too many for some codes, and those of surrogates are of no character. -/
theorem decodeFrom_sequence₃_ne_ok (h : code < 0x800 ∨ 0xD800 ≤ code ∧ code < 0xE000) :
    decodeFrom p (sequence₃ code ++ rest) ≠ .ok cs := by
  have h₀ : (UInt8.ofNat (code / 4096 + 0xE0)).toNat = code / 4096 + 0xE0 := toNat_byte (by omega)
  have h₁ : (UInt8.ofNat (code / 64 % 64 + 0x80)).toNat = code / 64 % 64 + 0x80 :=
    toNat_byte (by omega)
  refine decodeFrom_ne_ok_of_not_admits (by omega) fun lead hlead hadmits ↦ ?_
  rcases lead?_spec hlead with ⟨-, hhi, -⟩ | ⟨-, -, -, hiff⟩ | ⟨hlo, -⟩
  · omega
  · obtain ⟨-, hlow, hhigh⟩ := (hiff _).1 hadmits
    omega
  · omega

/-- Four bytes are too many for some codes, and others lie beyond the last character. -/
theorem decodeFrom_sequence₄_ne_ok
    (h : code < 0x10000 ∨ 0x110000 ≤ code ∧ code < 0x200000) :
    decodeFrom p (sequence₄ code ++ rest) ≠ .ok cs := by
  have h₀ : (UInt8.ofNat (code / 262144 + 0xF0)).toNat = code / 262144 + 0xF0 :=
    toNat_byte (by omega)
  have h₁ : (UInt8.ofNat (code / 4096 % 64 + 0x80)).toNat = code / 4096 % 64 + 0x80 :=
    toNat_byte (by omega)
  refine decodeFrom_ne_ok_of_not_admits (by omega) fun lead hlead hadmits ↦ ?_
  rcases lead?_spec hlead with ⟨-, hhi, -⟩ | ⟨-, hhi, -⟩ | ⟨-, hhi, -, hiff⟩
  · omega
  · omega
  · obtain ⟨-, hlow, hhigh⟩ := (hiff _).1 hadmits
    omega

end

/-- Malformed bytes are refused. -/
theorem Malformed.decodeFrom_ne_ok {bytes : List UInt8} (h : Malformed bytes) (p : Nat)
    (cs : List Char) : decodeFrom p bytes ≠ .ok cs := by
  cases h with
  | overlong₂ h rest => exact decodeFrom_sequence₂_ne_ok p rest cs h
  | overlong₃ h rest => exact decodeFrom_sequence₃_ne_ok p rest cs (.inl h)
  | surrogate hlo hhi rest => exact decodeFrom_sequence₃_ne_ok p rest cs (.inr ⟨hlo, hhi⟩)
  | overlong₄ h rest => exact decodeFrom_sequence₄_ne_ok p rest cs (.inl h)
  | beyond hlo hhi rest => exact decodeFrom_sequence₄_ne_ok p rest cs (.inr ⟨hlo, hhi⟩)
  | truncated hpos h hrest =>
    exact fun hread ↦ take_encodeChar_append_ne hpos h hrest cs (eq_flatMap_of_decodeFrom hread)

/-! ### Texts in front -/

/-- **No text is written as malformed bytes**, nor as those after another text. -/
theorem Malformed.encode_ne {bytes : List UInt8} (h : Malformed bytes) (before text : String) :
    encode text ≠ encode before ++ bytes := by
  intro htext
  have hread : decodeFrom 0 (encode before ++ bytes) = .ok text.toList := by
    rw [← htext, encode, decodeFrom_flatMap]
  rw [encode] at hread
  generalize before.toList = bs at hread
  generalize text.toList = cs at hread
  generalize 0 = p at hread
  induction bs generalizing p cs with
  | nil => exact h.decodeFrom_ne_ok p cs hread
  | cons b bs ih =>
    rw [List.flatMap_cons, List.append_assoc] at hread
    obtain ⟨q, ds, hread', -⟩ := exists_of_decodeFrom_encodeChar_append hread
    exact ih ds q hread'

end Utf8

end DirectoryAccount
