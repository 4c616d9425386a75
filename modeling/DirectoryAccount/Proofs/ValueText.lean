import DirectoryAccount.Proofs.Text.Utf8
import DirectoryAccount.Value

/-!
# Which text a value has

`Value.HasText` says kind by kind which text stands for a value: bytes stand for the text that they
are the UTF-8 of, a number for its decimal text. Some values have none, and `Value.LacksText` says
why: bytes that are the UTF-8 of nothing, numbers of too many digits, objects that fail to show
themselves, and listings with one of the latter two in them.

`Slot.first?` is the value that counts, the first of a slot, where there is one with something in
it. `Slot.HasFirst` has the first value whether or not something is in it.

Main statements: `Value.reading_eq_found_iff` and `Slot.reading_eq_found_iff`. A slot is read for
the text that stands for its first value, and for none if that has none. By
`Slot.isVacant_or_fails_or_hasText` there is then nothing to read, or reading fails for a reason.
-/

namespace DirectoryAccount

/-! ### Values -/

namespace Value

/-- The text that stands for a value. -/
inductive HasText : Value → String → Prop
  | text (t : String) : HasText (.text t) t
  | truth (b : Bool) : HasText (.truth b) (truthText b)
  | number {n : Int} (h : (Nat.toDigits 10 n.natAbs).length ≤ Integer.maxDigits) :
    HasText (.number n) (toString n)
  | bytes (t : String) : HasText (.bytes (Utf8.encode t)) t
  | buffer (t : String) : HasText (.buffer (Utf8.encode t)) t
  | object (t : String) : HasText (.object t) t
  | listing {brackets : Brackets} {items : List Value} {ts : List String}
    (h : items.mapM itemText = .ok ts) : HasText (.sequence brackets items) (brackets.listing ts)

/-! ### Kinds of values that may have no text -/

theorem reading_bytes_eq_found_iff {bs : List UInt8} {t : String} :
    (bytes bs).reading = .found t ↔ bs = Utf8.encode t := by
  rw [← Utf8.decode_eq_ok_iff, reading]
  cases Utf8.decode bs <;> simp

/-- A buffer is read as its bytes are on their own. -/
theorem reading_buffer (bs : List UInt8) : (buffer bs).reading = (bytes bs).reading := rfl

theorem reading_number_eq_found_iff {n : Int} {t : String} :
    (number n).reading = .found t ↔
      (Nat.toDigits 10 n.natAbs).length ≤ Integer.maxDigits ∧ toString n = t := by
  simp only [reading, shown, itemText, Integer.text?]
  by_cases hlong : Integer.maxDigits < (Nat.toDigits 10 n.natAbs).length
  · simp [if_pos hlong, Nat.not_le.2 hlong]
  · simp [if_neg hlong, Nat.not_lt.1 hlong]

theorem reading_sequence_eq_found_iff {brackets : Brackets} {items : List Value} {t : String} :
    (sequence brackets items).reading = .found t ↔
      ∃ ts, items.mapM itemText = .ok ts ∧ brackets.listing ts = t := by
  simp only [reading, shown, itemText, itemTexts_eq_mapM]
  cases items.mapM itemText <;> simp [Except.map]

/-- **A value is read as the text that stands for it.** -/
theorem reading_eq_found_iff {v : Value} {t : String} : v.reading = .found t ↔ v.HasText t := by
  constructor
  · intro h
    cases v with
    | missing => cases h
    | text t =>
      cases h
      exact .text _
    | truth b =>
      cases h
      exact .truth b
    | number n =>
      obtain ⟨hlength, rfl⟩ := reading_number_eq_found_iff.1 h
      exact .number hlength
    | bytes bs =>
      obtain rfl := reading_bytes_eq_found_iff.1 h
      exact .bytes t
    | buffer bs =>
      obtain rfl := reading_bytes_eq_found_iff.1 (reading_buffer bs ▸ h)
      exact .buffer t
    | object t =>
      cases h
      exact .object _
    | brokenObject reason => cases h
    | sequence brackets items =>
      obtain ⟨ts, hts, rfl⟩ := reading_sequence_eq_found_iff.1 h
      exact .listing hts
  · intro h
    cases h with
    | text | truth | object => rfl
    | number hlength => exact reading_number_eq_found_iff.2 ⟨hlength, rfl⟩
    | bytes => exact reading_bytes_eq_found_iff.2 rfl
    | buffer t => exact (reading_buffer _).trans (reading_bytes_eq_found_iff.2 rfl)
    | listing hts => exact reading_sequence_eq_found_iff.2 ⟨_, hts, rfl⟩

/-- Why no text stands for a value. A place with nothing in it lacks none. -/
inductive LacksText : Value → String → Prop
  | number {n : Int} (h : Integer.maxDigits < (Nat.toDigits 10 n.natAbs).length) :
    LacksText (.number n) tooManyDigitsToShow
  | bytes {bs : List UInt8} {fault : Utf8.Fault} (h : Utf8.decode bs = .error fault) :
    LacksText (.bytes bs) fault.message
  | buffer {bs : List UInt8} {fault : Utf8.Fault} (h : Utf8.decode bs = .error fault) :
    LacksText (.buffer bs) fault.message
  | object (reason : String) : LacksText (.brokenObject reason) reason
  | listing {brackets : Brackets} {items : List Value} {reason : String}
    (h : items.mapM itemText = .error reason) : LacksText (.sequence brackets items) reason

theorem reading_of_lacksText {v : Value} {reason : String} (h : v.LacksText reason) :
    v.reading = .failed reason := by
  cases h with
  | number h => simp only [reading, shown, itemText, Integer.text?, if_pos h]
  | bytes h | buffer h => simp only [reading, h]
  | object => rfl
  | listing h =>
    simp only [reading, shown, itemText, itemTexts_eq_mapM, h]
    rfl

/-- **A value is missing, or a text stands for it, or it lacks one.** -/
theorem missing_or_hasText_or_lacksText (v : Value) :
    v = .missing ∨ (∃ t, v.HasText t) ∨ ∃ reason, v.LacksText reason := by
  have hdecode (bs : List UInt8) :
      (∃ t, bs = Utf8.encode t) ∨ ∃ fault, Utf8.decode bs = .error fault := by
    cases h : Utf8.decode bs with
    | error fault => exact .inr ⟨fault, rfl⟩
    | ok t => exact .inl ⟨t, Utf8.decode_eq_ok_iff.1 h⟩
  cases v with
  | missing => exact .inl rfl
  | text t => exact .inr (.inl ⟨t, .text t⟩)
  | truth b => exact .inr (.inl ⟨_, .truth b⟩)
  | number n =>
    rcases Nat.lt_or_ge Integer.maxDigits (Nat.toDigits 10 n.natAbs).length with h | h
    · exact .inr (.inr ⟨_, .number h⟩)
    · exact .inr (.inl ⟨_, .number h⟩)
  | bytes bs =>
    rcases hdecode bs with ⟨t, rfl⟩ | ⟨fault, h⟩
    · exact .inr (.inl ⟨t, .bytes t⟩)
    · exact .inr (.inr ⟨_, .bytes h⟩)
  | buffer bs =>
    rcases hdecode bs with ⟨t, rfl⟩ | ⟨fault, h⟩
    · exact .inr (.inl ⟨t, .buffer t⟩)
    · exact .inr (.inr ⟨_, .buffer h⟩)
  | object t => exact .inr (.inl ⟨t, .object t⟩)
  | brokenObject reason => exact .inr (.inr ⟨reason, .object reason⟩)
  | sequence brackets items =>
    cases h : items.mapM itemText with
    | error reason => exact .inr (.inr ⟨reason, .listing h⟩)
    | ok ts => exact .inr (.inl ⟨_, .listing h⟩)

/-- The value, if it is not a place with nothing in it. -/
def present? : Value → Option Value
  | missing => none
  | v => some v

/-- A place with nothing in it is read as absent, so that only what is there counts. -/
theorem reading_eq_elim_present? (v : Value) :
    v.reading = v.present?.elim .absent Value.reading := by
  cases v <;> rfl

end Value

/-! ### Slots -/

/-- The first value of a slot, if there is one with something in it. -/
def Slot.first? : Slot → Option Value
  | .brokenLookup _ => none
  | .value (.sequence _ items) => items.head?.bind Value.present?
  | .value v => v.present?
  | .brokenSequence values _ => values.head?.bind Value.present?

theorem firstReading_eq_elim (values : List Value) :
    firstReading values = (values.head?.bind Value.present?).elim .absent Value.reading := by
  cases values with
  | nil => rfl
  | cons v rest => exact v.reading_eq_elim_present?

/-- A slot without a first value is absent or fails, and either way it is read for no text. -/
theorem Slot.reading_eq_elim_first? (slot : Slot) :
    slot.reading = slot.first?.elim .absent Value.reading ∨
      slot.first? = none ∧ ∃ reason, slot.reading = .failed reason := by
  cases slot with
  | brokenLookup reason => exact .inr ⟨rfl, reason, rfl⟩
  | value w =>
    cases w with
    | sequence brackets items => exact .inl (firstReading_eq_elim items)
    | _ => exact .inl rfl
  | brokenSequence values reason =>
    -- The failure comes after the last value, so it shows only if there is no first.
    cases values with
    | nil => exact .inr ⟨rfl, reason, rfl⟩
    | cons w rest => exact .inl (firstReading_eq_elim (w :: rest))

/-- **A slot is read as the text of its first value**, and as no text if it has none. -/
theorem Slot.reading_eq_found_iff {slot : Slot} {t : String} :
    slot.reading = .found t ↔ ∃ v, slot.first? = some v ∧ v.HasText t := by
  rcases slot.reading_eq_elim_first? with h | ⟨hnone, reason, h⟩
  · rw [h]
    cases slot.first? with
    | none => simp
    | some v => simp [Value.reading_eq_found_iff]
  · simp [h, hnone]

namespace Slot

/-- A value is the first of a slot: the only one, or the first of several. What follows it may be
anything, a failure too. -/
inductive HasFirst : Slot → Value → Prop
  | only {v : Value} (h : ∀ brackets items, v ≠ .sequence brackets items) : HasFirst (.value v) v
  | sequence (brackets : Brackets) (v : Value) (rest : List Value) :
    HasFirst (.value (.sequence brackets (v :: rest))) v
  | broken (v : Value) (rest : List Value) (reason : String) :
    HasFirst (.brokenSequence (v :: rest) reason) v

/-- There is nothing in a slot, or nothing in the first place of it. -/
inductive IsVacant : Slot → Prop
  | empty (brackets : Brackets) : IsVacant (.value (.sequence brackets []))
  | first {slot : Slot} (h : slot.HasFirst .missing) : IsVacant slot

/-- Reading a slot fails for a reason: looking it up does, or looking for its first value, or the
first value lacks a text. -/
inductive Fails : Slot → String → Prop
  | lookup (reason : String) : Fails (.brokenLookup reason) reason
  | iteration (reason : String) : Fails (.brokenSequence [] reason) reason
  | first {slot : Slot} {v : Value} {reason : String} (hfirst : slot.HasFirst v)
    (h : v.LacksText reason) : Fails slot reason

variable {slot : Slot}

/-- **Only the first value of a slot counts.** -/
theorem reading_of_hasFirst {v : Value} (h : slot.HasFirst v) : slot.reading = v.reading := by
  cases h with
  | only hne =>
    cases v with
    | sequence brackets items => exact absurd rfl (hne brackets items)
    | _ => rfl
  | sequence | broken => rfl

/-- The failure behind a first value does not show. -/
example : (Slot.brokenSequence [.bytes [0xC3, 0xA9]] "timed out").reading = .found "é" := by
  decide

theorem reading_of_isVacant (h : slot.IsVacant) : slot.reading = .absent := by
  cases h with
  | empty => rfl
  | first h => exact reading_of_hasFirst h

theorem reading_of_fails {reason : String} (h : slot.Fails reason) :
    slot.reading = .failed reason := by
  cases h with
  | lookup | iteration => rfl
  | first hfirst h => exact (reading_of_hasFirst hfirst).trans (Value.reading_of_lacksText h)

/-- A slot has a first value, or it is empty, or it fails before there is one. -/
theorem hasFirst_or (slot : Slot) :
    (∃ v, slot.HasFirst v) ∨ slot.IsVacant ∨ ∃ reason, slot.Fails reason := by
  cases slot with
  | brokenLookup reason => exact .inr (.inr ⟨reason, .lookup reason⟩)
  | value v =>
    cases v with
    | sequence brackets items =>
      cases items with
      | nil => exact .inr (.inl (.empty brackets))
      | cons v rest => exact .inl ⟨v, .sequence brackets v rest⟩
    | _ => exact .inl ⟨_, .only fun _ _ ↦ nofun⟩
  | brokenSequence values reason =>
    cases values with
    | nil => exact .inr (.inr ⟨reason, .iteration reason⟩)
    | cons v rest => exact .inl ⟨v, .broken v rest reason⟩

/-- **A slot is vacant, or fails, or a text stands for its first value.** -/
theorem isVacant_or_fails_or_hasText (slot : Slot) :
    slot.IsVacant ∨ (∃ reason, slot.Fails reason) ∨ ∃ v t, slot.HasFirst v ∧ v.HasText t := by
  rcases slot.hasFirst_or with ⟨v, hv⟩ | hvacant | hfails
  · rcases v.missing_or_hasText_or_lacksText with rfl | ⟨t, ht⟩ | ⟨reason, hreason⟩
    · exact .inl (.first hv)
    · exact .inr (.inr ⟨v, t, hv, ht⟩)
    · exact .inr (.inl ⟨reason, .first hv hreason⟩)
  · exact .inl hvacant
  · exact .inr (.inl hfails)

end Slot

end DirectoryAccount
