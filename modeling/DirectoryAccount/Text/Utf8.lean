/-!
# Strict UTF-8

Bytes are read as UTF-8 only in its one valid form: no overlong sequences, no surrogates, nothing
above U+10FFFF. The lead byte of a sequence fixes its length and, for the borderline leads, a
narrower range for the second byte, and that is all the strictness there is.

A refusal, `Utf8.Fault`, names the first position at which no character can be read, and how many
bytes there could still have been the start of one.
-/

namespace DirectoryAccount

namespace Utf8

/-- Why no character can be read at a position. -/
inductive Problem where
  | startByte
  | continuationByte
  | endOfData
  deriving DecidableEq, Repr

/-- The wording of a problem. -/
def Problem.reason : Problem → String
  | startByte => "invalid start byte"
  | continuationByte => "invalid continuation byte"
  | endOfData => "unexpected end of data"

/-- The bytes that could not be read. -/
structure Fault where
  position : Nat
  /-- The number of bytes from the position that go together. -/
  length : Nat
  /-- The byte at the position. -/
  byte : UInt8
  problem : Problem
  deriving DecidableEq, Repr

/-- A byte as two lower-case hexadecimal digits. -/
def hexByte (b : UInt8) : String :=
  String.ofList [Nat.digitChar (b.toNat / 16), Nat.digitChar (b.toNat % 16)]

/-- The wording of a fault, which shows the byte if it stands alone and else the range. -/
def Fault.message (f : Fault) : String :=
  (if f.length = 1 then
    "'utf-8' codec can't decode byte 0x" ++ hexByte f.byte ++ " in position " ++
      toString f.position
  else
    "'utf-8' codec can't decode bytes in position " ++ toString f.position ++ "-" ++
      toString (f.position + f.length - 1)) ++ ": " ++ f.problem.reason

/-! ### Lead and continuation bytes -/

/-- What a lead byte says of the sequence that it starts: how many bytes follow the second, and the
range of the second. -/
structure Lead where
  more : Fin 3
  low : Nat
  high : Nat
  deriving DecidableEq, Repr

/-- The lead bytes of sequences of two, three and four bytes. -/
def lead? (b : UInt8) : Option Lead :=
  let n := b.toNat
  if n < 0xC2 then none
  else if n < 0xE0 then some ⟨0, 0x80, 0xBF⟩
  else if n = 0xE0 then some ⟨1, 0xA0, 0xBF⟩
  else if n = 0xED then some ⟨1, 0x80, 0x9F⟩
  else if n < 0xF0 then some ⟨1, 0x80, 0xBF⟩
  else if n = 0xF0 then some ⟨2, 0x90, 0xBF⟩
  else if n < 0xF4 then some ⟨2, 0x80, 0xBF⟩
  else if n = 0xF4 then some ⟨2, 0x80, 0x8F⟩
  else none

/-- A byte can be the second of a sequence with this lead. -/
def Lead.Admits (lead : Lead) (b : UInt8) : Prop :=
  lead.low ≤ b.toNat ∧ b.toNat ≤ lead.high

instance (lead : Lead) (b : UInt8) : Decidable (lead.Admits b) :=
  inferInstanceAs (Decidable (_ ∧ _))

/-- A byte can be the third or fourth of a sequence. -/
def IsContinuation (b : UInt8) : Prop :=
  0x80 ≤ b.toNat ∧ b.toNat ≤ 0xBF

instance (b : UInt8) : Decidable (IsContinuation b) :=
  inferInstanceAs (Decidable (_ ∧ _))

/-- The six bits that a byte after the lead carries. -/
def payload (b : UInt8) : Nat :=
  b.toNat % 64

/-- The character of a sequence of two bytes. -/
def char₂ (b₀ b₁ : UInt8) : Char :=
  Char.ofNat (b₀.toNat % 32 * 64 + payload b₁)

/-- The character of a sequence of three bytes. -/
def char₃ (b₀ b₁ b₂ : UInt8) : Char :=
  Char.ofNat (b₀.toNat % 16 * 4096 + payload b₁ * 64 + payload b₂)

/-- The character of a sequence of four bytes. -/
def char₄ (b₀ b₁ b₂ b₃ : UInt8) : Char :=
  Char.ofNat (b₀.toNat % 8 * 262144 + payload b₁ * 4096 + payload b₂ * 64 + payload b₃)

/-! ### Reading and writing -/

/-- The characters of bytes that stand at a position of a longer text. -/
def decodeFrom (p : Nat) : List UInt8 → Except Fault (List Char)
  | [] => .ok []
  | b₀ :: t₀ =>
    if b₀.toNat < 0x80 then (decodeFrom (p + 1) t₀).map (Char.ofNat b₀.toNat :: ·)
    else
      match lead? b₀ with
      | none => .error ⟨p, 1, b₀, .startByte⟩
      | some lead =>
        match t₀ with
        | [] => .error ⟨p, 1, b₀, .endOfData⟩
        | b₁ :: t₁ =>
          if ¬lead.Admits b₁ then .error ⟨p, 1, b₀, .continuationByte⟩
          else if lead.more = 0 then (decodeFrom (p + 2) t₁).map (char₂ b₀ b₁ :: ·)
          else
            match t₁ with
            | [] => .error ⟨p, 2, b₀, .endOfData⟩
            | b₂ :: t₂ =>
              if ¬IsContinuation b₂ then .error ⟨p, 2, b₀, .continuationByte⟩
              else if lead.more = 1 then (decodeFrom (p + 3) t₂).map (char₃ b₀ b₁ b₂ :: ·)
              else
                match t₂ with
                | [] => .error ⟨p, 3, b₀, .endOfData⟩
                | b₃ :: t₃ =>
                  if ¬IsContinuation b₃ then .error ⟨p, 3, b₀, .continuationByte⟩
                  else (decodeFrom (p + 4) t₃).map (char₄ b₀ b₁ b₂ b₃ :: ·)

/-- The text that bytes encode, or the first fault in them. -/
def decode (bytes : List UInt8) : Except Fault String :=
  (decodeFrom 0 bytes).map String.ofList

/-- The bytes that encode a text. -/
def encode (text : String) : List UInt8 :=
  text.toList.flatMap String.utf8EncodeChar

end Utf8

end DirectoryAccount
