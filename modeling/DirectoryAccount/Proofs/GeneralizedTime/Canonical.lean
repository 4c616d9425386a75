import DirectoryAccount.Proofs.GeneralizedTime.RoundTrip

/-!
# Canonical texts of instants

A time can be written in many ways. One of them is canonical: fourteen digits down to the second, a
point and three digits of milliseconds where these are not zero, and the letter of universal time.
`IsCanonicalText` gives this shape digit by digit, without a word about instants, and
`isCanonicalText_iff` states that the texts of that shape are those that instants are written as.

Main statement: `readTime_write_canonical`. Writing and reading undo each other: one way up to the
microseconds below a millisecond, the other way on the canonical texts, which are exactly the texts
that come back as they were.
-/

namespace DirectoryAccount

namespace Digit

theorem value_ofPair (n : Fin 100) : value (ofPair n) = n.val := by
  simp only [value, ofPair, List.foldl]
  omega

theorem value_ofQuad (n : Fin 10000) : value (ofQuad n) = n.val := by
  simp only [value, ofQuad, List.foldl]
  omega

end Digit

/-! ### The shape -/

/-- The date and clock reading of the digits `YYYYMMDDHHMMSS`. -/
def CivilTime.ofDigits? : List Digit → Option CivilTime
  | [y₁, y₂, y₃, y₄, m₁, m₂, d₁, d₂, h₁, h₂, n₁, n₂, s₁, s₂] =>
    some
      { year := Digit.value [y₁, y₂, y₃, y₄]
        month := Digit.value [m₁, m₂]
        day := Digit.value [d₁, d₂]
        hour := Digit.value [h₁, h₂]
        minute := Digit.value [n₁, n₂]
        second := Digit.value [s₁, s₂]
        microsecond := 0 }
  | _ => none

/-- Milliseconds are left out, or a point and three digits that are not all zero. -/
inductive IsMillisText : List Char → Prop
  | absent : IsMillisText []
  | present {a b c : Digit} (h : ¬(a = 0 ∧ b = 0 ∧ c = 0)) :
    IsMillisText ('.' :: Digit.text [a, b, c])

/-- The shape of a canonical text: the digits of a valid time, its milliseconds and a `Z`. -/
def IsCanonicalText (t : List Char) : Prop :=
  ∃ (ds : List Digit) (civil : CivilTime) (millis : List Char),
    t = Digit.text ds ++ (millis ++ ['Z']) ∧ CivilTime.ofDigits? ds = some civil ∧ civil.Valid ∧
      IsMillisText millis

/-- Fourteen digits spell different times when they differ. -/
theorem CivilTime.ofDigits?_inj {ds es : List Digit} {t : CivilTime}
    (hds : ofDigits? ds = some t) (hes : ofDigits? es = some t) : ds = es := by
  unfold ofDigits? at hds hes
  split at hds
  · split at hes
    · cases hds
      simp only [Option.some.injEq, CivilTime.mk.injEq, Digit.value, List.foldl] at hes
      simp only [List.cons.injEq, Fin.ext_iff, and_true]
      omega
    · cases hes
  · cases hds

/-- Digits spell no microseconds. -/
theorem CivilTime.microsecond_of_ofDigits? {ds : List Digit} {t : CivilTime}
    (h : ofDigits? ds = some t) : t.microsecond = 0 := by
  unfold ofDigits? at h
  split at h <;> cases h
  rfl

/-- Rounding the fields of a time down to the millisecond rounds its count. -/
theorem CivilTime.micros_truncMillis (t : CivilTime) :
    micros { t with microsecond := t.microsecond / 1000 * 1000 } = t.micros / 1000 * 1000 := by
  simp only [micros, days, microsOfDay]
  omega

theorem isMillisText_iff {t : List Char} :
    IsMillisText t ↔
      ∃ n : Fin 1000, t = WrittenFraction.textOf (WrittenFraction.ofMillis? n) := by
  constructor
  · rintro (_ | @⟨a, b, c, h⟩)
    · exact ⟨0, rfl⟩
    · have hlt : 100 * a.val + 10 * b.val + c.val < 1000 := by omega
      have hne : 100 * a.val + 10 * b.val + c.val ≠ 0 := by
        intro hzero
        exact h ⟨Fin.ext (by omega), Fin.ext (by omega), Fin.ext (by omega)⟩
      have htriple : Digit.ofTriple ⟨_, hlt⟩ = (a, [b, c]) := by
        simp only [Digit.ofTriple, Prod.mk.injEq, List.cons.injEq, Fin.ext_iff, and_true]
        omega
      refine ⟨⟨_, hlt⟩, ?_⟩
      rw [WrittenFraction.ofMillis?, if_neg hne, htriple]
      rfl
  · rintro ⟨n, rfl⟩
    rw [WrittenFraction.ofMillis?]
    split
    · exact .absent
    · rename_i hne
      refine .present fun h ↦ hne ?_
      simp only [Digit.ofTriple, Fin.ext_iff, Fin.val_zero] at h
      omega

/-! ### What instants are written as -/

namespace Instant

/-- The digits of an instant spell its date and clock reading. -/
theorem ofDigits?_digits_written (a : Instant) :
    CivilTime.ofDigits? a.written.digits = some { a.civil with microsecond := 0 } := by
  show some (CivilTime.mk (Digit.value (Digit.ofQuad a.written.year))
    (Digit.value (Digit.ofPair a.written.month)) (Digit.value (Digit.ofPair a.written.day))
    (Digit.value (Digit.ofPair ⟨a.civil.hour, _⟩)) (Digit.value (Digit.ofPair ⟨a.civil.minute, _⟩))
    (Digit.value (Digit.ofPair ⟨a.civil.second, _⟩)) 0) = _
  simp only [Digit.value_ofQuad, Digit.value_ofPair]
  rfl

/-- An instant is written in the canonical shape. -/
theorem isCanonicalText_text_written (a : Instant) : IsCanonicalText a.written.text :=
  ⟨a.written.digits, _, _, rfl, a.ofDigits?_digits_written,
    { a.civil_valid with microsecond_lt := (by decide : 0 < 1000000) },
    isMillisText_iff.2 ⟨_, rfl⟩⟩

/-- The calendar fields of an instant rounded down to the millisecond differ in the last only. -/
theorem civil_truncMillis (a : Instant) :
    a.truncMillis.civil = { a.civil with microsecond := a.civil.microsecond / 1000 * 1000 } := by
  have hvalid : CivilTime.Valid { a.civil with microsecond := a.civil.microsecond / 1000 * 1000 } :=
    { a.civil_valid with
      microsecond_lt :=
        Nat.lt_of_le_of_lt (Nat.div_mul_le_self _ _) a.civil_valid.microsecond_lt }
  have hmicros := a.civil.micros_truncMillis
  rw [a.micros_civil] at hmicros
  show CivilTime.ofMicros (a.micros / 1000 * 1000) = _
  rw [← hmicros]
  exact CivilTime.ofMicros_micros hvalid

/-- Rounding down to the millisecond does not show in writing. -/
theorem written_truncMillis (a : Instant) : a.truncMillis.written = a.written := by
  have hmillis : a.civil.microsecond / 1000 * 1000 / 1000 = a.civil.microsecond / 1000 := by omega
  simp only [written, a.civil_truncMillis, hmillis]

end Instant

/-- **The canonical texts are those that instants are written as.** -/
theorem isCanonicalText_iff {t : List Char} :
    IsCanonicalText t ↔ ∃ a : Instant, t = a.written.text := by
  constructor
  · rintro ⟨ds, civil, millis, rfl, hds, hvalid, hmillis⟩
    obtain ⟨n, rfl⟩ := isMillisText_iff.1 hmillis
    have hfull : CivilTime.Valid { civil with microsecond := n.val * 1000 } :=
      { hvalid with microsecond_lt := (by omega : n.val * 1000 < 1000000) }
    obtain ⟨a, ha⟩ : ∃ a : Instant, a.civil = { civil with microsecond := n.val * 1000 } :=
      ⟨.ofCivil _ hfull, Instant.civil_ofCivil _ hfull⟩
    have hdigits : a.written.digits = ds := by
      refine CivilTime.ofDigits?_inj a.ofDigits?_digits_written ?_
      rw [hds, ha, ← CivilTime.microsecond_of_ofDigits? hds]
    have hfraction : a.written.fraction = WrittenFraction.ofMillis? n := by
      simp [Instant.written, ha]
    exact ⟨a, by rw [WrittenTime.text, hdigits, hfraction]; rfl⟩
  · rintro ⟨a, rfl⟩
    exact a.isCanonicalText_text_written

/-- **Writing and reading undo each other.** Every instant reads back from its text with its
microseconds rounded down to the millisecond, and the texts that are written again as they were read
are exactly the canonical ones. -/
theorem readTime_write_canonical :
    (∀ a : Instant, ∃ b, readTime (GeneralizedTime.write a) = .ok b ∧
        b.civil = { a.civil with microsecond := a.civil.microsecond / 1000 * 1000 }) ∧
      ∀ text : String, IsCanonicalText text.toList ↔
        ∃ a, readTime text = .ok a ∧ GeneralizedTime.write a = text := by
  have hread (a : Instant) : readTime (GeneralizedTime.write a) = .ok a.truncMillis := by
    rw [readTime, GeneralizedTime.read_write]
    rfl
  refine ⟨fun a ↦ ⟨a.truncMillis, hread a, a.civil_truncMillis⟩, fun text ↦ ?_⟩
  constructor
  · intro h
    obtain ⟨a, ha⟩ := isCanonicalText_iff.1 h
    obtain rfl : text = GeneralizedTime.write a := String.toList_inj.1 (by
      rw [GeneralizedTime.write, String.toList_ofList, ha])
    exact ⟨a.truncMillis, hread a, by
      rw [GeneralizedTime.write, a.written_truncMillis, GeneralizedTime.write]⟩
  · rintro ⟨a, -, rfl⟩
    rw [GeneralizedTime.write, String.toList_ofList]
    exact a.isCanonicalText_text_written

end DirectoryAccount
