import DirectoryAccount.Attribute
import DirectoryAccount.Filetime
import DirectoryAccount.Proofs.GeneralizedTime.LocalTime
import DirectoryAccount.Proofs.Text.IntegerWidth

/-!
# File times round down

The file time of a moment is the last whole millisecond that is not after it, in ticks. Moments
before 1601 are no exception, though there rounding down is away from zero: half a millisecond
before 1601 is ten thousand ticks before it.

**The offset moves the count and nothing else.** It is subtracted from the count of the calendar
fields, so no moment in universal time is needed on the way, and there is a file time even where
there is no such moment. Where there is one, it has the same file time.

Main statement: `Filetime.ofLocal_floor`.
-/

namespace DirectoryAccount

namespace Filetime

/-! ### Rounding -/

/-- The ticks from the start of 1601 to so many microseconds after the start of year 1. -/
def exactTicks (micros : Int) : Int :=
  (micros - (CivilTime.mk 1601 1 1 0 0 0 0).micros) * 10

theorem dvd_ofMicros (micros : Int) : 10000 ∣ ofMicros micros :=
  Dvd.intro_left _ rfl

theorem ofMicros_le_exactTicks (micros : Int) : ofMicros micros ≤ exactTicks micros := by
  rw [ofMicros, exactTicks, ← epochMicros_eq]
  omega

theorem exactTicks_lt_ofMicros_add (micros : Int) :
    exactTicks micros < ofMicros micros + 10000 := by
  rw [ofMicros, exactTicks, ← epochMicros_eq]
  omega

/-- The file time is before 1601 exactly if the moment is. -/
theorem ofMicros_neg_iff {micros : Int} : ofMicros micros < 0 ↔ exactTicks micros < 0 := by
  rw [ofMicros, exactTicks, ← epochMicros_eq]
  omega

/-- **Later moments do not have earlier file times.** -/
theorem ofMicros_mono {m n : Int} (h : exactTicks m ≤ exactTicks n) : ofMicros m ≤ ofMicros n := by
  rw [exactTicks, exactTicks] at h
  rw [ofMicros, ofMicros]
  omega

/-! ### Range -/

/-- Moments within a day of the years 1 to 9999 have file times that fit in 64 bits with much to
spare. -/
theorem ofMicros_bounds {micros : Int} (hlo : -86400000000 < micros)
    (hhi : micros < CivilTime.microsLimit + 86400000000) :
    -1000000000000000000 < ofMicros micros ∧ ofMicros micros < 3000000000000000000 := by
  rw [CivilTime.microsLimit] at hhi
  rw [ofMicros, epochMicros]
  omega

theorem ofInstant_bounds (a : Instant) :
    -1000000000000000000 < ofInstant a ∧ ofInstant a < 3000000000000000000 := by
  have hlt := a.micros_lt
  exact ofMicros_bounds (by omega) (by omega)

/-- The file time of calendar fields, whatever the offset. -/
theorem ofLocal_bounds {t : CivilTime} (ht : t.Valid) {offset : Option Int}
    (hoffset : ∀ o ∈ offset, -86400000000 < o ∧ o < 86400000000) :
    -1000000000000000000 < ofLocal t offset ∧ ofLocal t offset < 3000000000000000000 := by
  have hlt := ht.micros_lt
  have hday : -86400000000 < offset.getD 0 ∧ offset.getD 0 < 86400000000 := by
    cases offset with
    | none => decide
    | some o => exact hoffset o rfl
  exact ofMicros_bounds (by omega) (by omega)

/-- The decimal text of such a file time is read back. -/
theorem readInteger_toString_of_bounds (purpose : Purpose) (name : String) {ticks : Int}
    (h : -1000000000000000000 < ticks ∧ ticks < 3000000000000000000) :
    readInteger purpose name (toString ticks) 64 = .ok ticks := by
  have hfits : Integer.Fits 64 ticks := (Integer.fits_iff (by decide : 1 ≤ 64)).2 (by omega)
  have hlength : (Nat.toDigits 10 ticks.natAbs).length ≤ 19 :=
    (Nat.length_toDigits_le_iff (by decide) (by decide)).2 (by omega)
  exact readInteger_toString purpose name hfits (hlength.trans (by decide))

theorem ofInstant_ne_never (a : Instant) : ofInstant a ≠ never := by
  have := (ofInstant_bounds a).2
  rw [never]
  omega

/-- The decimal text of a file time of an instant is read back. -/
theorem readInteger_toString_ofInstant (purpose : Purpose) (name : String) (a : Instant) :
    readInteger purpose name (toString (ofInstant a)) 64 = .ok (ofInstant a) :=
  readInteger_toString_of_bounds purpose name (ofInstant_bounds a)

/-! ### Instants -/

/-- An instant has the file time of the calendar fields that it came from. -/
theorem ofInstant_of_instantOfLocal {t : CivilTime} {offset : Option Int} {a : Instant}
    (h : instantOfLocal t offset = .ok a) : ofInstant a = ofLocal t offset := by
  rcases instantOfLocal_spec t offset with ⟨-, b, hb, hcount⟩ | ⟨-, herror⟩
  · obtain rfl := Except.ok.inj (hb.symm.trans h)
    rw [ofInstant, hcount, ofLocal]
  · cases herror.symm.trans h

/-- The calendar fields of an instant have its file time. -/
theorem ofLocal_civil (a : Instant) : ofLocal a.civil (some 0) = ofInstant a := by
  rw [ofLocal, a.micros_civil, Option.getD_some, Int.sub_zero, ofInstant]

/-! ### Calendar fields -/

/-- **A file time is the exact count rounded down to the millisecond**, for calendar fields at any
offset below a day, or at none. It is before 1601 if the moment is, and does not decrease as the
moment gets later. If the moment is in the years 1 to 9999 it is the file time of that instant. It
is never the mark of no expiry, and its decimal text is always read back as an expiry. -/
theorem ofLocal_floor {t : CivilTime} (ht : t.Valid) {offset : Option Int}
    (hoffset : ∀ o ∈ offset, -86400000000 < o ∧ o < 86400000000) :
    (10000 ∣ ofLocal t offset ∧ ofLocal t offset ≤ exactTicks (t.micros - offset.getD 0) ∧
        exactTicks (t.micros - offset.getD 0) < ofLocal t offset + 10000) ∧
      (ofLocal t offset < 0 ↔ exactTicks (t.micros - offset.getD 0) < 0) ∧
      (∀ (u : CivilTime) (other : Option Int),
        exactTicks (t.micros - offset.getD 0) ≤ exactTicks (u.micros - other.getD 0) →
          ofLocal t offset ≤ ofLocal u other) ∧
      (∀ a, instantOfLocal t offset = .ok a →
        ofInstant a = ofLocal t offset ∧ ofLocal a.civil (some 0) = ofLocal t offset) ∧
      ofLocal t offset < never ∧ (-2 ^ 63 ≤ ofLocal t offset ∧ ofLocal t offset ≤ 2 ^ 63 - 1) ∧
      readInteger .accountExpires Attribute.accountExpires.name (toString (ofLocal t offset)) 64 =
        .ok (ofLocal t offset) := by
  have hbounds := ofLocal_bounds ht hoffset
  refine ⟨⟨dvd_ofMicros _, ofMicros_le_exactTicks _, exactTicks_lt_ofMicros_add _⟩,
    ofMicros_neg_iff, fun u other ↦ ofMicros_mono, fun a ha ↦ ?_, ?_, ?_, ?_⟩
  · have hinstant := ofInstant_of_instantOfLocal ha
    exact ⟨hinstant, (ofLocal_civil a).trans hinstant⟩
  · rw [never]
    omega
  · omega
  · exact readInteger_toString_of_bounds .accountExpires _ hbounds

/-- The last moment of the calendar is past the year 9999 in universal time if it is west of
Greenwich. It has a file time all the same. -/
theorem ofLocal_floor_past_9999 :
    (CivilTime.mk 9999 12 31 23 59 59 999999).Valid ∧
      instantOfLocal ⟨9999, 12, 31, 23, 59, 59, 999999⟩ (some (-82800000000)) =
        .error .momentOutOfRange ∧
      ofLocal ⟨9999, 12, 31, 23, 59, 59, 999999⟩ (some (-82800000000)) = 2650468571999990000 ∧
      readInteger .accountExpires Attribute.accountExpires.name "2650468571999990000" 64 =
        .ok 2650468571999990000 := by
  have hvalid : (CivilTime.mk 9999 12 31 23 59 59 999999).Valid := by decide
  have hoffset : ∀ o ∈ some (-82800000000 : Int), -86400000000 < o ∧ o < 86400000000 := by
    rintro o ⟨⟩
    decide
  have hticks : ofLocal ⟨9999, 12, 31, 23, 59, 59, 999999⟩ (some (-82800000000)) =
      2650468571999990000 := by
    decide
  have hread := (ofLocal_floor hvalid hoffset).2.2.2.2.2.2
  rw [hticks, show toString (2650468571999990000 : Int) = "2650468571999990000" by decide] at hread
  refine ⟨hvalid, ?_, hticks, hread⟩
  rcases instantOfLocal_spec ⟨9999, 12, 31, 23, 59, 59, 999999⟩ (some (-82800000000)) with
    ⟨hin, -⟩ | ⟨-, herror⟩
  · exact absurd hin (by decide)
  · exact herror

end Filetime

end DirectoryAccount
