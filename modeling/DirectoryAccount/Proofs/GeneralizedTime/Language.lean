import DirectoryAccount.Failure
import Mathlib.Data.List.Basic
import Mathlib.Tactic.Ring

/-!
# The language of generalized times

Which texts are generalized times, and what is said of those that are not. Two questions are kept
apart. `IsTimeText` is the shape: how many digits, which signs, in what order. It says nothing about
what the digits mean, and `isTimeText_iff` states that the texts of that shape are those that some
`WrittenTime` is written as. `WrittenTime.requirements` is what has to hold of the numbers, in the
order in which it is checked, each with what is said of a text that breaks it.

Main statement: `readTime_language`. A text of the right shape is read as an instant if all
requirements hold, and else refused with the words of the first that is broken; any other text is
unrecognized.
-/

namespace DirectoryAccount

/-! ### The shape -/

/-- A fraction is left out, or a mark and at least one digit. -/
inductive IsFractionText : List Char → Prop
  | absent : IsFractionText []
  | present {mark : Char} {ds : List Digit} (hmark : mark = '.' ∨ mark = ',') (hds : ds ≠ []) :
    IsFractionText (mark :: Digit.text ds)

/-- A zone is a `Z`, or a sign and two or four digits. -/
inductive IsZoneText : List Char → Prop
  | universal : IsZoneText ['Z']
  | offset {sign : Char} {ds : List Digit} (hsign : sign = '+' ∨ sign = '-')
    (hds : ds.length = 2 ∨ ds.length = 4) : IsZoneText (sign :: Digit.text ds)

/-- The shape of a generalized time: ten, twelve or fourteen digits, a fraction and a zone. -/
def IsTimeText (t : List Char) : Prop :=
  ∃ (ds : List Digit) (fraction zone : List Char), t = Digit.text ds ++ (fraction ++ zone) ∧
    (ds.length = 10 ∨ ds.length = 12 ∨ ds.length = 14) ∧ IsFractionText fraction ∧ IsZoneText zone

theorem isFractionText_iff {t : List Char} :
    IsFractionText t ↔ ∃ f, t = WrittenFraction.textOf f := by
  constructor
  · rintro (_ | @⟨mark, ds, hmark, hds⟩)
    · exact ⟨none, rfl⟩
    · obtain ⟨d, ds, rfl⟩ := List.exists_cons_of_ne_nil hds
      rcases hmark with rfl | rfl
      · exact ⟨some ⟨.point, d, ds⟩, rfl⟩
      · exact ⟨some ⟨.comma, d, ds⟩, rfl⟩
  · rintro ⟨f, rfl⟩
    match f with
    | none => exact .absent
    | some ⟨.point, d, ds⟩ => exact .present (.inl rfl) (List.cons_ne_nil d ds)
    | some ⟨.comma, d, ds⟩ => exact .present (.inr rfl) (List.cons_ne_nil d ds)

/-- Two or four digits after a sign are an offset. -/
theorem WrittenZone.exists_text_offset (side : Side) {ds : List Digit}
    (hds : ds.length = 2 ∨ ds.length = 4) :
    ∃ z : WrittenZone, side.char :: Digit.text ds = z.text := by
  rcases hds with h | h
  · obtain ⟨a, b, rfl⟩ := List.length_eq_two.1 h
    exact ⟨.offset side (Digit.pair a b) none, by simp [WrittenZone.text]⟩
  · obtain ⟨a, b, c, d, rfl⟩ := List.length_eq_four.1 h
    exact ⟨.offset side (Digit.pair a b) (some (Digit.pair c d)), by simp [WrittenZone.text]⟩

theorem isZoneText_iff {t : List Char} : IsZoneText t ↔ ∃ z : WrittenZone, t = z.text := by
  constructor
  · rintro (_ | @⟨sign, ds, hsign, hds⟩)
    · exact ⟨.universal, rfl⟩
    · rcases hsign with rfl | rfl
      · exact WrittenZone.exists_text_offset .east hds
      · exact WrittenZone.exists_text_offset .west hds
  · rintro ⟨z, rfl⟩
    match z with
    | .universal => exact .universal
    | .offset .east _ none => exact .offset (.inl rfl) (.inl rfl)
    | .offset .east _ (some _) => exact .offset (.inl rfl) (.inr rfl)
    | .offset .west _ none => exact .offset (.inr rfl) (.inl rfl)
    | .offset .west _ (some _) => exact .offset (.inr rfl) (.inr rfl)

/-- Ten, twelve or fourteen digits are a date and a clock reading. -/
theorem WrittenTime.exists_ofDigits? {ds : List Digit} (f : Option WrittenFraction)
    (z : WrittenZone) (hds : ds.length = 10 ∨ ds.length = 12 ∨ ds.length = 14) :
    ∃ w, WrittenTime.ofDigits? f z ds = some w := by
  rcases hds with h | h | h
  · match ds, h with
    | [_, _, _, _, _, _, _, _, _, _], _ => exact ⟨_, rfl⟩
  · match ds, h with
    | [_, _, _, _, _, _, _, _, _, _, _, _], _ => exact ⟨_, rfl⟩
  · match ds, h with
    | [_, _, _, _, _, _, _, _, _, _, _, _, _, _], _ => exact ⟨_, rfl⟩

/-- **The texts of the shape are those that written times have.** -/
theorem isTimeText_iff {t : List Char} : IsTimeText t ↔ ∃ w : WrittenTime, t = w.text := by
  constructor
  · rintro ⟨ds, fraction, zone, rfl, hds, hfraction, hzone⟩
    obtain ⟨f, rfl⟩ := isFractionText_iff.1 hfraction
    obtain ⟨z, rfl⟩ := isZoneText_iff.1 hzone
    obtain ⟨w, hw⟩ := WrittenTime.exists_ofDigits? f z hds
    obtain ⟨rfl, rfl, rfl⟩ := WrittenTime.eq_digits_of_ofDigits? hw
    exact ⟨w, rfl⟩
  · rintro ⟨w, rfl⟩
    refine ⟨w.digits, WrittenFraction.textOf w.fraction, w.zone.text, rfl, ?_,
      isFractionText_iff.2 ⟨_, rfl⟩, isZoneText_iff.2 ⟨_, rfl⟩⟩
    obtain ⟨year, month, day, clock, fraction, zone⟩ := w
    match clock with
    | .hour _ => exact .inl rfl
    | .minute _ _ => exact .inr (.inl rfl)
    | .second _ _ _ => exact .inr (.inr rfl)

/-! ### What has to hold of the numbers -/

/-- The sign of the offsets on a side. -/
def Side.sign : Side → Int
  | east => 1
  | west => -1

namespace WrittenZone

/-- The written hours of an offset. -/
def hours : WrittenZone → Nat
  | universal => 0
  | offset _ hours _ => hours.val

/-- The written minutes of an offset, zero if there are none. -/
def minutes : WrittenZone → Nat
  | universal => 0
  | offset _ _ minutes => (minutes.map Fin.val).getD 0

/-- The minutes by which a zone lies east of Greenwich. -/
def minutesEast (z : WrittenZone) : Int :=
  match z with
  | universal => 0
  | offset side _ _ => side.sign * (z.hours * 60 + z.minutes)

end WrittenZone

/-- The written second, zero if there is none. A leap second is written as 60. -/
def WrittenClock.writtenSecond : WrittenClock → Nat
  | second _ _ s => s.val
  | _ => 0

/-- A count of microseconds lies in the years 1 to 9999. -/
def InYears (n : Int) : Prop :=
  0 ≤ n ∧ n < CivilTime.microsLimit

instance (n : Int) : Decidable (InYears n) :=
  inferInstanceAs (Decidable (_ ∧ _))

namespace WrittenTime

/-- The count of the local time, moved forward by the fraction. -/
def localMicros (w : WrittenTime) : Int :=
  w.civil.micros + w.fractionMicros

/-- Something that has to hold of a written time, the fault of breaking it, and the reason that is
given for refusing the text then. -/
structure Requirement where
  holds : Bool
  fault : TimeFault
  reason : String

/-- What has to hold of a written time, in the order in which it is checked. -/
def requirements (w : WrittenTime) : List Requirement :=
  [⟨decide (w.zone.hours ≤ 23 ∧ w.zone.minutes ≤ 59), .zone w.zone,
      "invalid zone offset " ++ String.ofList w.zone.text⟩,
    ⟨decide (1 ≤ w.year.val), .year, "year 0 is out of range"⟩,
    ⟨decide (1 ≤ w.month.val ∧ w.month.val ≤ 12), .month, "month must be in 1..12"⟩,
    ⟨decide (1 ≤ w.day.val ∧ w.day.val ≤ daysInMonth w.year w.month), .day,
      "day is out of range for month"⟩,
    ⟨decide (w.clock.hours ≤ 23), .hour, "hour must be in 0..23"⟩,
    ⟨decide (w.clock.minutes ≤ 59), .minute, "minute must be in 0..59"⟩,
    ⟨decide (w.clock.writtenSecond ≤ 60), .second, "second must be in 0..59"⟩,
    ⟨decide (InYears w.localMicros ∧ InYears (w.localMicros - w.zone.minutesEast * 60000000)),
      .range, "date value out of range"⟩]

/-- The fault of the first requirement that is broken. -/
def firstFault (w : WrittenTime) : Option TimeFault :=
  (w.requirements.find? fun r ↦ !r.holds).map Requirement.fault

theorem find?_broken_cons (r : Requirement) (rest : List Requirement) :
    ((r :: rest).find? fun r ↦ !r.holds).map Requirement.fault =
      if r.holds = true then (rest.find? fun r ↦ !r.holds).map Requirement.fault
      else some r.fault := by
  cases h : r.holds <;> simp [h]

end WrittenTime

/-! ### Reading -/

namespace WrittenZone

/-- A zone less than a day from Greenwich tells its seconds. -/
theorem secondsEast?_of_lt_day {z : WrittenZone} (h : z.hours ≤ 23 ∧ z.minutes ≤ 59) :
    z.secondsEast? = some (z.minutesEast * 60) := by
  match z, h with
  | universal, _ => rfl
  | offset side hours minutes, h =>
    refine (if_pos h).trans ?_
    cases side
    · simp only [minutesEast, Side.sign, WrittenZone.hours, WrittenZone.minutes, Option.some.injEq]
      ring
    · simp only [minutesEast, Side.sign, WrittenZone.hours, WrittenZone.minutes, Option.some.injEq]
      ring

theorem secondsEast?_eq_none {z : WrittenZone} (h : ¬(z.hours ≤ 23 ∧ z.minutes ≤ 59)) :
    z.secondsEast? = none := by
  match z, h with
  | universal, h => exact absurd ⟨by decide, by decide⟩ h
  | offset side hours minutes, h => exact if_neg h

end WrittenZone

theorem WrittenClock.lt_seconds_iff (c : WrittenClock) :
    59 < c.seconds ↔ 60 < c.writtenSecond := by
  match c with
  | .hour _ | .minute _ _ => simp [WrittenClock.seconds, WrittenClock.writtenSecond]
  | .second _ _ s =>
    simp only [WrittenClock.seconds, WrittenClock.writtenSecond]
    split <;> omega

namespace WrittenTime

/-- The requirements on the date and the clock reading are those of `CivilTime.fault?`. -/
theorem firstFault_eq (w : WrittenTime) :
    w.firstFault =
      if w.zone.hours ≤ 23 ∧ w.zone.minutes ≤ 59 then
        match w.civil.fault? with
        | some fault => some fault
        | none =>
          if InYears w.localMicros ∧ InYears (w.localMicros - w.zone.minutesEast * 60000000) then
            none
          else some .range
      else some (.zone w.zone) := by
  -- Both sides ask in the same order, but of the second `CivilTime.fault?` sees what 60 is read as.
  have hsecond := w.clock.lt_seconds_iff
  simp only [firstFault, requirements, find?_broken_cons, decide_eq_true_eq, CivilTime.fault?,
    civil]
  grind

theorem inRange_of_inYears {n : Int} (h : InYears n) :
    ∃ a, inRange n = .ok a ∧ (a.micros : Int) = n := by
  cases ha : Instant.ofInt? n with
  | none =>
    have := Instant.ofInt?_eq_none_iff.1 ha
    have := h.1
    have := h.2
    omega
  | some a => exact ⟨a, by rw [inRange, ha], (Instant.ofInt?_eq_some_iff.1 ha).symm⟩

theorem inRange_of_not_inYears {n : Int} (h : ¬InYears n) : inRange n = .error .range := by
  have ha : Instant.ofInt? n = none := by
    rw [Instant.ofInt?_eq_none_iff]
    rw [InYears] at h
    omega
  rw [inRange, ha]

/-- The two tests of the range are one requirement. -/
theorem bind_inRange (n m : Int) :
    (InYears n ∧ InYears (n - m) ∧ ∃ a, ((inRange n).bind fun b ↦ inRange (b.micros - m)) = .ok a ∧
        (a.micros : Int) = n - m) ∨
      ¬(InYears n ∧ InYears (n - m)) ∧
        ((inRange n).bind fun b ↦ inRange (b.micros - m)) = .error .range := by
  by_cases hn : InYears n
  · obtain ⟨b, hb, hbn⟩ := inRange_of_inYears hn
    rw [hb, Except.bind, hbn]
    by_cases hm : InYears (n - m)
    · exact .inl ⟨hn, hm, inRange_of_inYears hm⟩
    · exact .inr ⟨fun h ↦ hm h.2, inRange_of_not_inYears hm⟩
  · rw [inRange_of_not_inYears hn]
    exact .inr ⟨fun h ↦ hn h.1, rfl⟩

/-- **A written time names the instant of its numbers, or has the first fault.** -/
theorem instant_spec (w : WrittenTime) :
    (w.firstFault = none ∧ ∃ a, w.instant = .ok a ∧
        (a.micros : Int) = w.localMicros - w.zone.minutesEast * 60000000) ∨
      ∃ fault, w.firstFault = some fault ∧ w.instant = .error fault := by
  rw [w.firstFault_eq, instant]
  by_cases hzone : w.zone.hours ≤ 23 ∧ w.zone.minutes ≤ 59
  · rw [if_pos hzone, WrittenZone.secondsEast?_of_lt_day hzone]
    cases w.civil.fault? with
    | some fault => exact .inr ⟨fault, rfl, rfl⟩
    | none =>
      simp only
      rw [show w.zone.minutesEast * 60 * 1000000 = w.zone.minutesEast * 60000000 by ring]
      rcases bind_inRange w.localMicros (w.zone.minutesEast * 60000000) with
        ⟨hlocal, huniversal, ha⟩ | ⟨hout, herror⟩
      · exact .inl ⟨if_pos ⟨hlocal, huniversal⟩, ha⟩
      · exact .inr ⟨.range, if_neg hout, herror⟩
  · rw [if_neg hzone, WrittenZone.secondsEast?_eq_none hzone]
    exact .inr ⟨_, rfl, rfl⟩

end WrittenTime

/-- A text that a written time has is read as that time. -/
theorem GeneralizedTime.read_of_toList_eq {text : String} {w : WrittenTime}
    (h : text.toList = w.text) : GeneralizedTime.read text = w.instant := by
  rw [GeneralizedTime.read, h, WrittenTime.ofText?_text]

/-- A text of another shape is not read at all. -/
theorem GeneralizedTime.read_of_not_isTimeText {text : String} (h : ¬IsTimeText text.toList) :
    GeneralizedTime.read text = .error .unrecognized := by
  rw [GeneralizedTime.read]
  cases hw : WrittenTime.ofText? text.toList with
  | none => rfl
  | some w => exact absurd (isTimeText_iff.2 ⟨w, WrittenTime.ofText?_eq_some_iff.1 hw⟩) h

/-- A text of another shape is unrecognized. -/
theorem readTime_of_not_isTimeText {text : String} (h : ¬IsTimeText text.toList) :
    readTime text = .error (.malformedTime text "unrecognized format") := by
  rw [readTime, GeneralizedTime.read_of_not_isTimeText h]
  rfl

/-- A text of the shape is read as its instant, or refused for its first fault. -/
theorem readTime_of_toList_eq {text : String} {w : WrittenTime} (h : text.toList = w.text) :
    (w.firstFault = none ∧ ∃ a, readTime text = .ok a ∧
        (a.micros : Int) = w.localMicros - w.zone.minutesEast * 60000000) ∨
      ∃ fault, w.firstFault = some fault ∧
        readTime text = .error (.malformedTime text fault.reason) := by
  rw [readTime, GeneralizedTime.read_of_toList_eq h]
  rcases w.instant_spec with ⟨hfault, a, ha, hcount⟩ | ⟨fault, hfault, ha⟩
  · rw [ha]
    exact .inl ⟨hfault, a, rfl, hcount⟩
  · rw [ha]
    exact .inr ⟨fault, hfault, rfl⟩

/-- An instant counts the local time that its text says, less the offset. -/
theorem micros_of_readTime {text : String} {w : WrittenTime} {a : Instant}
    (hw : text.toList = w.text) (ha : readTime text = .ok a) :
    (a.micros : Int) = w.localMicros - w.zone.minutesEast * 60000000 := by
  rcases readTime_of_toList_eq hw with ⟨-, b, hb, hcount⟩ | ⟨fault, -, herror⟩
  · obtain rfl : b = a := Except.ok.inj (hb.symm.trans ha)
    exact hcount
  · rw [herror] at ha
    cases ha

/-- An accepted text is that of a written time. -/
theorem exists_written_of_readTime {text : String} {a : Instant} (ha : readTime text = .ok a) :
    ∃ w : WrittenTime, text.toList = w.text := by
  by_cases hshape : IsTimeText text.toList
  · exact isTimeText_iff.1 hshape
  · rw [readTime_of_not_isTimeText hshape] at ha
    cases ha

end DirectoryAccount
