import DirectoryAccount.Proofs.GeneralizedTime.Fraction
import DirectoryAccount.Proofs.GeneralizedTime.Language
import DirectoryAccount.Proofs.Text.Decimal

/-!
# Local times with an offset

A local time with an offset can be handed over in two ways, as fields or as a text, and two
conversions make an instant of it. `localText` writes it in every form that a generalized time can
have: the clock reading down to the hour, the minute, the second or the microsecond, and the offset
as a letter, in hours, or in hours and minutes.

Main statement: `readTime_localText`. Both conversions count the local fields and subtract the
offset, and both fail exactly when that leaves the years 1 to 9999.
-/

namespace DirectoryAccount

/-- How much of a clock reading is written out. -/
inductive ClockDetail where
  | hour
  | minute
  | second
  | microsecond
  deriving DecidableEq, Repr

/-- How an offset is written: as the letter of universal time, or on a side of Greenwich in hours or
in hours and minutes. -/
inductive OffsetForm where
  | letter
  | hours (side : Side)
  | hoursMinutes (side : Side)
  deriving DecidableEq, Repr

namespace ClockDetail

/-- What is not written out is zero. -/
def Covers (t : CivilTime) : ClockDetail → Prop
  | hour => t.minute = 0 ∧ t.second = 0 ∧ t.microsecond = 0
  | minute => t.second = 0 ∧ t.microsecond = 0
  | second => t.microsecond = 0
  | microsecond => True

/-- A clock reading written out, with the microseconds as a fraction of six digits. -/
def text (t : CivilTime) : ClockDetail → String
  | hour => Instant.padded 2 t.hour
  | minute => Instant.padded 2 t.hour ++ Instant.padded 2 t.minute
  | second => Instant.padded 2 t.hour ++ Instant.padded 2 t.minute ++ Instant.padded 2 t.second
  | microsecond =>
    Instant.padded 2 t.hour ++ Instant.padded 2 t.minute ++ Instant.padded 2 t.second ++ "." ++
      Instant.padded 6 t.microsecond

end ClockDetail

namespace OffsetForm

/-- The form can express an offset of so many minutes. -/
def Covers (n : Nat) : OffsetForm → Prop
  | letter => n = 0
  | hours _ => n % 60 = 0
  | hoursMinutes _ => True

/-- An offset of so many minutes written out. -/
def text (n : Nat) : OffsetForm → String
  | letter => "Z"
  | hours side => String.singleton side.char ++ Instant.padded 2 (n / 60)
  | hoursMinutes side =>
    String.singleton side.char ++ Instant.padded 2 (n / 60) ++ Instant.padded 2 (n % 60)

/-- The microseconds east of Greenwich of an offset of so many minutes. -/
def micros (n : Nat) : OffsetForm → Int
  | letter => 0
  | hours side | hoursMinutes side => side.sign * n * 60000000

end OffsetForm

/-- A local time at an offset of so many minutes, written in the given forms. -/
def localText (t : CivilTime) (detail : ClockDetail) (form : OffsetForm) (n : Nat) : String :=
  Instant.padded 4 t.year ++ Instant.padded 2 t.month ++ Instant.padded 2 t.day ++ detail.text t ++
    form.text n

/-! ### The parts of the text -/

theorem toList_padded_two {n : Nat} (h : n < 100) :
    (Instant.padded 2 n).toList = Digit.text (Digit.ofPair ⟨n, h⟩) := by
  have hdigits : Digit.ofWidth 2 n = Digit.ofPair ⟨n, h⟩ := by
    have hfirst : n / 10 < 10 := by omega
    simp [Digit.ofWidth, Digit.ofPair, Nat.mod_eq_of_lt hfirst]
  rw [Instant.toList_padded (by decide) h, hdigits]

theorem toList_padded_four {n : Nat} (h : n < 10000) :
    (Instant.padded 4 n).toList = Digit.text (Digit.ofQuad ⟨n, h⟩) := by
  have hdigits : Digit.ofWidth 4 n = Digit.ofQuad ⟨n, h⟩ := by
    have hfirst : n / 1000 < 10 := by omega
    simp [Digit.ofWidth, Digit.ofQuad, Nat.div_div_eq_div_mul, Nat.mod_eq_of_lt hfirst]
  rw [Instant.toList_padded (by decide) h, hdigits]

/-- Six digits after a point are that many microseconds. -/
theorem WrittenFraction.exists_micros {n : Nat} (h : n < 1000000) :
    ∃ f : WrittenFraction, '.' :: (Instant.padded 6 n).toList = f.text ∧ f.micros 1 = n := by
  have hlength := Digit.length_ofWidth 6 n
  obtain ⟨d, ds, hds⟩ := List.exists_cons_of_length_eq_add_one hlength
  refine ⟨⟨.point, d, ds⟩, ?_, micros_of_toRat ?_⟩
  · rw [Instant.toList_padded (by decide) h, hds]
    rfl
  · rw [toRat, digits, ← hds, Digit.value_ofWidth h, hlength]
    norm_num

/-- A clock reading that covers the time is the reading and the fraction of a written time. -/
theorem ClockDetail.exists_written {t : CivilTime} (ht : t.Valid) {detail : ClockDetail}
    (hdetail : detail.Covers t) :
    ∃ (clock : WrittenClock) (fraction : Option WrittenFraction),
      (detail.text t).toList = Digit.text clock.digits ++ WrittenFraction.textOf fraction ∧
        clock.hours = t.hour ∧ clock.minutes = t.minute ∧ clock.seconds = t.second ∧
        (fraction.elim 0 fun f ↦ f.micros clock.unit) = t.microsecond := by
  have hhour : t.hour < 100 := by have := ht.hour_lt; omega
  have hminute : t.minute < 100 := by have := ht.minute_lt; omega
  have hsecond : t.second < 100 := by have := ht.second_lt; omega
  have hleap : (if t.second = 60 then 59 else t.second) = t.second :=
    if_neg (by have := ht.second_lt; omega)
  cases detail with
  | hour =>
    obtain ⟨hm, hs, hu⟩ := hdetail
    refine ⟨.hour ⟨_, hhour⟩, none, ?_, rfl, hm.symm, hs.symm, by rw [hu]; rfl⟩
    rw [ClockDetail.text, toList_padded_two hhour]
    exact (List.append_nil _).symm
  | minute =>
    obtain ⟨hs, hu⟩ := hdetail
    refine ⟨.minute ⟨_, hhour⟩ ⟨_, hminute⟩, none, ?_, rfl, rfl, hs.symm, by rw [hu]; rfl⟩
    simp [ClockDetail.text, toList_padded_two hhour, toList_padded_two hminute,
      WrittenClock.digits, WrittenFraction.textOf, Digit.text_append]
  | second =>
    refine ⟨.second ⟨_, hhour⟩ ⟨_, hminute⟩ ⟨_, hsecond⟩, none, ?_, rfl, rfl, hleap,
      by rw [show t.microsecond = 0 from hdetail]; rfl⟩
    simp [ClockDetail.text, toList_padded_two hhour, toList_padded_two hminute,
      toList_padded_two hsecond, WrittenClock.digits, WrittenFraction.textOf, Digit.text_append]
  | microsecond =>
    obtain ⟨f, hf, hmicros⟩ := WrittenFraction.exists_micros ht.microsecond_lt
    refine ⟨.second ⟨_, hhour⟩ ⟨_, hminute⟩ ⟨_, hsecond⟩, some f, ?_, rfl, rfl, hleap, hmicros⟩
    simp [ClockDetail.text, toList_padded_two hhour, toList_padded_two hminute,
      toList_padded_two hsecond, WrittenClock.digits, WrittenFraction.textOf, Digit.text_append,
      ← hf]

/-- An offset below a day is written as a zone that tells it. -/
theorem OffsetForm.exists_written {n : Nat} (hn : n < 1440) {form : OffsetForm}
    (hform : form.Covers n) :
    ∃ zone : WrittenZone, (form.text n).toList = zone.text ∧
      (zone.hours ≤ 23 ∧ zone.minutes ≤ 59) ∧ zone.minutesEast * 60000000 = form.micros n := by
  have hhours : n / 60 < 100 := by omega
  have hminutes : n % 60 < 100 := by omega
  have hsplit : ((n / 60 : Nat) : Int) * 60 + (n % 60 : Nat) = n := by omega
  cases form with
  | letter => exact ⟨.universal, by rw [OffsetForm.text]; decide, by decide, rfl⟩
  | hours side =>
    have hzero : n % 60 = 0 := hform
    refine ⟨.offset side ⟨_, hhours⟩ none, ?_, ⟨by show n / 60 ≤ 23; omega, Nat.zero_le 59⟩, ?_⟩
    · simp [OffsetForm.text, toList_padded_two hhours, WrittenZone.text]
    · rw [hzero] at hsplit
      rw [WrittenZone.minutesEast, OffsetForm.micros, ← hsplit]
      rfl
  | hoursMinutes side =>
    refine ⟨.offset side ⟨_, hhours⟩ (some ⟨_, hminutes⟩), ?_,
      ⟨by show n / 60 ≤ 23; omega, by show n % 60 ≤ 59; omega⟩, ?_⟩
    · simp [OffsetForm.text, toList_padded_two hhours, toList_padded_two hminutes,
        WrittenZone.text, Digit.text_append]
    · rw [WrittenZone.minutesEast, OffsetForm.micros, ← hsplit]
      rfl

/-- **A local text is the text of a written time** whose numbers are the fields and the offset. -/
theorem exists_written_localText {t : CivilTime} (ht : t.Valid) {detail : ClockDetail}
    (hdetail : detail.Covers t) {form : OffsetForm} {n : Nat} (hn : n < 1440)
    (hform : form.Covers n) :
    ∃ w : WrittenTime, (localText t detail form n).toList = w.text ∧
      (w.zone.hours ≤ 23 ∧ w.zone.minutes ≤ 59) ∧ w.civil.fault? = none ∧
      w.localMicros = t.micros ∧ w.zone.minutesEast * 60000000 = form.micros n := by
  obtain ⟨clock, fraction, hclock, hhour, hminute, hsecond, hmicro⟩ :=
    ClockDetail.exists_written ht hdetail
  obtain ⟨zone, hzone, hday, heast⟩ := OffsetForm.exists_written hn hform
  have hyear : t.year < 10000 := by have := ht.year_le; omega
  have hmonth : t.month < 100 := by have := ht.month_le; omega
  have hdate : t.day < 100 := by
    have := ht.day_le
    have := daysInMonth_le t.year t.month
    omega
  refine ⟨⟨⟨_, hyear⟩, ⟨_, hmonth⟩, ⟨_, hdate⟩, clock, fraction, zone⟩, ?_, hday, ?_, ?_, heast⟩
  · simp [localText, toList_padded_four hyear, toList_padded_two hmonth, toList_padded_two hdate,
      hclock, hzone, WrittenTime.text, WrittenTime.digits, Digit.text_append]
  · have hvalid : CivilTime.Valid { t with microsecond := 0 } :=
      { ht with microsecond_lt := (by decide : 0 < 1000000) }
    rw [WrittenTime.civil, hhour, hminute, hsecond]
    exact (CivilTime.fault?_eq_none_iff hvalid.year_le hvalid.microsecond_lt).2 hvalid
  · -- The written fields are to the second; the microseconds come back as the fraction.
    rw [WrittenTime.localMicros, WrittenTime.fractionMicros_eq_elim, hmicro, WrittenTime.civil,
      hhour, hminute, hsecond]
    show (CivilTime.micros { t with microsecond := 0 } : Int) + t.microsecond = t.micros
    simp only [CivilTime.micros, CivilTime.days, CivilTime.microsOfDay]
    omega

/-! ### The two conversions -/

/-- Fields at an offset come to the instant of their count, if it lies in the years 1 to 9999. -/
theorem instantOfLocal_spec (t : CivilTime) (offset : Option Int) :
    (InYears (t.micros - offset.getD 0) ∧ ∃ a, instantOfLocal t offset = .ok a ∧
        (a.micros : Int) = t.micros - offset.getD 0) ∨
      (¬InYears (t.micros - offset.getD 0) ∧
        instantOfLocal t offset = .error .momentOutOfRange) := by
  rw [instantOfLocal, Instant.ofLocal?]
  cases ha : Instant.ofInt? (t.micros - offset.getD 0) with
  | none =>
    have hout := Instant.ofInt?_eq_none_iff.1 ha
    refine .inr ⟨?_, rfl⟩
    rintro ⟨hlo, hhi⟩
    omega
  | some a =>
    have hcount := Instant.ofInt?_eq_some_iff.1 ha
    have hlt := a.micros_lt
    exact .inl ⟨⟨by omega, by omega⟩, a, rfl, hcount.symm⟩

/-- Fields in universal time name the instant that they are. -/
theorem instantOfLocal_universal {t : CivilTime} (ht : t.Valid) {offset : Option Int}
    (h : offset.getD 0 = 0) : instantOfLocal t offset = .ok (Instant.ofCivil t ht) := by
  rw [instantOfLocal, Instant.ofLocal?, h, Int.sub_zero]
  have hcount : Instant.ofInt? t.micros = some (Instant.ofCivil t ht) :=
    Instant.ofInt?_eq_some_iff.2 rfl
  rw [hcount]

/-- A local text comes to the instant of the fields, if it lies in the years 1 to 9999. -/
theorem readTime_localText_spec {t : CivilTime} (ht : t.Valid) (detail : ClockDetail)
    (hdetail : detail.Covers t) (form : OffsetForm) {n : Nat} (hn : n < 1440)
    (hform : form.Covers n) :
    (InYears (t.micros - form.micros n) ∧ ∃ a, readTime (localText t detail form n) = .ok a ∧
        (a.micros : Int) = t.micros - form.micros n) ∨
      (¬InYears (t.micros - form.micros n) ∧ readTime (localText t detail form n) =
        .error (.malformedTime (localText t detail form n) "date value out of range")) := by
  obtain ⟨w, hw, hday, hcivil, hlocal, heast⟩ := exists_written_localText ht hdetail hn hform
  -- Valid fields lie in the years themselves, so only the offset can lead out of them.
  have hin : InYears w.localMicros := by
    have := ht.micros_lt
    rw [hlocal]
    exact ⟨by omega, by omega⟩
  have hfirst := w.firstFault_eq
  rw [if_pos hday, hcivil] at hfirst
  simp only [hin, true_and] at hfirst
  rw [hlocal, heast] at hfirst
  rcases readTime_of_toList_eq hw with ⟨hnone, a, ha, hcount⟩ | ⟨fault, hfault, herror⟩
  · rw [hlocal, heast] at hcount
    rw [hnone] at hfirst
    refine .inl ⟨?_, a, ha, hcount⟩
    by_contra hout
    rw [if_neg hout] at hfirst
    cases hfirst
  · rw [hfault] at hfirst
    split at hfirst
    · cases hfirst
    · rename_i hout
      cases hfirst
      exact .inr ⟨hout, herror⟩

/-- A text in universal time comes to the instant of its fields. -/
theorem readTime_localText_letter {t : CivilTime} (ht : t.Valid) {detail : ClockDetail}
    (hdetail : detail.Covers t) :
    readTime (localText t detail .letter 0) = .ok (Instant.ofCivil t ht) := by
  have hin : InYears t.micros := by
    have := ht.micros_lt
    exact ⟨by omega, by omega⟩
  rcases readTime_localText_spec ht detail hdetail .letter (by decide : 0 < 1440) rfl with
    ⟨-, a, ha, hcount⟩ | ⟨hout, -⟩
  · rw [OffsetForm.micros, Int.sub_zero] at hcount
    rw [ha, Instant.eq_of_micros_eq (b := Instant.ofCivil t ht) (Int.ofNat.inj hcount)]
  · rw [OffsetForm.micros, Int.sub_zero] at hout
    exact absurd hin hout

/-- **A local time is read as its fields say.** However much of it is written out and in whichever
form its offset, text and fields come to the same instant, whose count is that of the fields less
the offset. Both are refused exactly when that count leaves the years 1 to 9999. Universal time,
written with the letter, is the time of fields without an offset. -/
theorem readTime_localText {t : CivilTime} (ht : t.Valid) (detail : ClockDetail)
    (hdetail : detail.Covers t) (form : OffsetForm) {n : Nat} (hn : n < 1440)
    (hform : form.Covers n) :
    ((InYears (t.micros - form.micros n) ∧ ∃ a, readTime (localText t detail form n) = .ok a ∧
          instantOfLocal t (some (form.micros n)) = .ok a ∧ a.civil.Valid ∧
          (a.civil.micros : Int) = t.micros - form.micros n) ∨
        (¬InYears (t.micros - form.micros n) ∧ readTime (localText t detail form n) =
            .error (.malformedTime (localText t detail form n) "date value out of range") ∧
          instantOfLocal t (some (form.micros n)) = .error .momentOutOfRange)) ∧
      ∃ a, readTime (localText t detail .letter 0) = .ok a ∧ instantOfLocal t none = .ok a ∧
        instantOfLocal t (some 0) = .ok a ∧ a.civil = t := by
  constructor
  · rcases readTime_localText_spec ht detail hdetail form hn hform with
      ⟨hin, a, ha, hcount⟩ | ⟨hout, herror⟩
    · rcases instantOfLocal_spec t (some (form.micros n)) with ⟨-, b, hb, hcount'⟩ | ⟨hout, -⟩
      · obtain rfl : a = b := Instant.eq_of_micros_eq (by
          rw [Option.getD_some] at hcount'
          omega)
        refine .inl ⟨hin, a, ha, hb, a.civil_valid, ?_⟩
        rw [a.micros_civil, hcount]
      · exact absurd hin hout
    · rcases instantOfLocal_spec t (some (form.micros n)) with ⟨hin, -⟩ | ⟨-, herror'⟩
      · exact absurd hin hout
      · exact .inr ⟨hout, herror, herror'⟩
  · exact ⟨Instant.ofCivil t ht, readTime_localText_letter ht hdetail,
      instantOfLocal_universal ht rfl, instantOfLocal_universal ht rfl, Instant.civil_ofCivil t ht⟩

/-- Half past eleven at night an hour and three quarters west of Greenwich is a leap day. -/
theorem readTime_localText_leap_day :
    (CivilTime.mk 2000 2 28 23 30 0 500000).Valid ∧
      ∃ a, readTime "20000228233000.500000-0145" = .ok a ∧
        instantOfLocal ⟨2000, 2, 28, 23, 30, 0, 500000⟩ (some (-6300000000)) = .ok a ∧
        a.civil = ⟨2000, 2, 29, 1, 15, 0, 500000⟩ := by
  have hvalid : (CivilTime.mk 2000 2 28 23 30 0 500000).Valid := by decide
  have hlocal := (readTime_localText hvalid .microsecond trivial (.hoursMinutes .west)
    (by decide : 105 < 1440) trivial).1
  rw [show localText ⟨2000, 2, 28, 23, 30, 0, 500000⟩ .microsecond (.hoursMinutes .west) 105 =
    "20000228233000.500000-0145" by decide] at hlocal
  rcases hlocal with ⟨-, a, hread, hfields, hcivil, hcount⟩ | ⟨hout, -⟩
  · have hmicros : a.civil.micros = 63087383700500000 := Int.ofNat.inj (hcount.trans (by decide))
    refine ⟨hvalid, a, hread, hfields, ?_⟩
    rw [← CivilTime.ofMicros_micros hcivil, hmicros]
    decide
  · exact absurd (by decide) hout

end DirectoryAccount
