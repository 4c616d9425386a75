import DirectoryAccount.Proofs.GeneralizedTime.Fraction
import DirectoryAccount.Proofs.GeneralizedTime.Language

/-!
# What a fraction adds to a time

A text with a fraction names a later moment than the text without it, by that fraction of the last
unit written. `WrittenTime.textWith` puts any fraction, or none, in the place of the one that a
written time has, so that texts can be compared that agree in everything else.

Main statements:

* `readTime_fraction_error`: what a fraction adds is right up to little more than half a
  microsecond, and is never less than nothing or more than the unit.
* `readTime_fraction_mono`: it grows with the number that the fraction denotes, and depends on
  nothing but that number.

Both are about texts that are accepted. A fraction moves the local time, so it can lead out of the
years as well as into them, and the text without it may be refused.
-/

namespace DirectoryAccount

namespace WrittenTime

/-- The text of a written time with another fraction, or with none, in place of its own. -/
def textWith (w : WrittenTime) (f : Option WrittenFraction) : String :=
  String.ofList { w with fraction := f }.text

theorem toList_textWith (w : WrittenTime) (f : Option WrittenFraction) :
    (w.textWith f).toList = { w with fraction := f }.text :=
  String.toList_ofList

/-- An accepted text is that of a written time. -/
theorem exists_eq_textWith {text : String} {a : Instant} (h : readTime text = .ok a) :
    ∃ w : WrittenTime, text = w.textWith w.fraction := by
  obtain ⟨w, hw⟩ := exists_written_of_readTime h
  exact ⟨w, String.toList_inj.1 (hw.trans (w.toList_textWith w.fraction).symm)⟩

/-- The seconds in the last unit that is written, by the number of digits before the fraction: ten
end at the hour, twelve at the minute, and fourteen at the second. -/
def lastUnit (w : WrittenTime) : ℕ :=
  if w.digits.length = 10 then 3600 else if w.digits.length = 12 then 60 else 1

theorem unit_eq_lastUnit (w : WrittenTime) : w.clock.unit = w.lastUnit := by
  obtain ⟨year, month, day, clock, fraction, zone⟩ := w
  cases clock <;> rfl

/-- The instant of a text counts its fields and its fraction, less the offset of its zone. -/
theorem micros_of_readTime_textWith {w : WrittenTime} {f : Option WrittenFraction} {a : Instant}
    (h : readTime (w.textWith f) = .ok a) :
    (a.micros : ℤ) = w.civil.micros + (f.elim 0 fun f ↦ f.micros w.clock.unit) -
      w.zone.minutesEast * 60000000 := by
  rw [micros_of_readTime (w.toList_textWith f) h, localMicros, fractionMicros_eq_elim]
  rfl

/-- Fractions of as many microseconds make no difference to what is read, faults included. -/
theorem read_textWith_congr (w : WrittenTime) {f g : Option WrittenFraction}
    (h : (f.elim 0 fun f ↦ f.micros w.clock.unit) = g.elim 0 fun g ↦ g.micros w.clock.unit) :
    GeneralizedTime.read (w.textWith f) = GeneralizedTime.read (w.textWith g) := by
  have hfraction : fractionMicros { w with fraction := f } =
      fractionMicros { w with fraction := g } := by
    rw [fractionMicros_eq_elim, fractionMicros_eq_elim]
    exact h
  rw [GeneralizedTime.read_of_toList_eq (w.toList_textWith f),
    GeneralizedTime.read_of_toList_eq (w.toList_textWith g), instant, instant, hfraction]
  rfl

end WrittenTime

/-! ### Accuracy -/

/-- **A fraction is applied to the last unit written.** A text that is accepted is that of a written
time. If that has a fraction, and the text without it is accepted too, then the one instant lies the
exact fraction of the unit after the other, up to little more than half a microsecond, and it is
never before the other or later than by the whole unit. -/
theorem readTime_fraction_error {text : String} {a : Instant} (ha : readTime text = .ok a) :
    ∃ w : WrittenTime, text = w.textWith w.fraction ∧
      ∀ f ∈ w.fraction, ∀ b, readTime (w.textWith none) = .ok b →
        |(a.micros : ℚ) - (b.micros + Digit.fraction f.digits * w.lastUnit * 1000000)| ≤
            500001 / 1000000 ∧
          b.micros ≤ a.micros ∧ a.micros ≤ b.micros + w.lastUnit * 1000000 := by
  obtain ⟨w, hw⟩ := WrittenTime.exists_eq_textWith ha
  refine ⟨w, hw, fun f hf b hb ↦ ?_⟩
  rw [hw, Option.mem_def.1 hf] at ha
  have hadded : (a.micros : ℤ) = b.micros + f.micros w.clock.unit := by
    have hcount := WrittenTime.micros_of_readTime_textWith ha
    have hcount' := WrittenTime.micros_of_readTime_textWith hb
    rw [Option.elim_some] at hcount
    rw [Option.elim_none] at hcount'
    omega
  have herror := f.abs_micros_sub_le w.clock.unit_le
  obtain ⟨hlo, hhi⟩ := f.micros_bounds w.clock.unit_le
  rw [← f.toRat_eq_fraction, ← w.unit_eq_lastUnit]
  refine ⟨?_, by omega, by omega⟩
  have hadded' : (a.micros : ℚ) = b.micros + f.micros w.clock.unit := by exact_mod_cast hadded
  rwa [hadded', add_sub_add_left_eq_sub]

/-- The last hour of a 28 February, with all of it but a trifle in twenty digits. -/
def lateInFebruary : WrittenTime :=
  ⟨2024, 2, 28, .hour 23, some ⟨.point, 9, List.replicate 19 9⟩, .universal⟩

/-- All of an hour but a trifle is read as the whole hour, here the one that leads to a leap day. -/
theorem readTime_fraction_error_leap_day :
    ∃ a b, readTime "2024022823.99999999999999999999Z" = .ok a ∧
      readTime "2024022823Z" = .ok b ∧ a.civil = ⟨2024, 2, 29, 0, 0, 0, 0⟩ ∧
      b.micros ≤ a.micros ∧ a.micros ≤ b.micros + 3600 * 1000000 := by
  have ha : readTime "2024022823.99999999999999999999Z" = .ok ⟨63844761600000000, by decide⟩ := by
    decide +kernel
  have hb : readTime "2024022823Z" = .ok ⟨63844758000000000, by decide⟩ := by decide +kernel
  obtain ⟨w, hw, hfraction⟩ := readTime_fraction_error ha
  have hwritten : WrittenTime.ofText? "2024022823.99999999999999999999Z".toList = some w := by
    rw [hw, w.toList_textWith]
    exact WrittenTime.ofText?_text w
  have hlate : WrittenTime.ofText? "2024022823.99999999999999999999Z".toList =
      some lateInFebruary := by decide
  obtain rfl : w = lateInFebruary := Option.some.inj (hwritten.symm.trans hlate)
  have hbare : lateInFebruary.textWith none = "2024022823Z" := by decide
  exact ⟨_, _, ha, hb, by decide +kernel, (hfraction _ rfl _ (hbare ▸ hb)).2⟩

/-! ### Order -/

/-- **A fraction is read by its number.** Of two texts that agree in everything but the fraction,
the one with the larger fraction names no earlier instant. Fractions that denote the same number are
read alike, whatever their mark and however many zeros follow, and a fraction of zeros is read as
none. -/
theorem readTime_fraction_mono (w : WrittenTime) (f : WrittenFraction) :
    (∀ g a b, readTime (w.textWith (some f)) = .ok a → readTime (w.textWith (some g)) = .ok b →
        Digit.fraction f.digits ≤ Digit.fraction g.digits → a ≤ b) ∧
      (∀ g : WrittenFraction, Digit.fraction f.digits = Digit.fraction g.digits →
        GeneralizedTime.read (w.textWith (some f)) = GeneralizedTime.read (w.textWith (some g))) ∧
      (∀ mark n, GeneralizedTime.read
          (w.textWith (some ⟨mark, f.first, f.others ++ List.replicate n 0⟩)) =
        GeneralizedTime.read (w.textWith (some f))) ∧
      ((∀ d ∈ f.digits, d = 0) →
        GeneralizedTime.read (w.textWith (some f)) = GeneralizedTime.read (w.textWith none)) := by
  simp only [← WrittenFraction.toRat_eq_fraction]
  refine ⟨fun g a b ha hb hle ↦ ?_, fun g h ↦ ?_, fun mark n ↦ ?_, fun h ↦ ?_⟩
  · have ha := WrittenTime.micros_of_readTime_textWith ha
    have hb := WrittenTime.micros_of_readTime_textWith hb
    have hmono := WrittenFraction.micros_mono hle w.clock.unit
    rw [Option.elim_some] at ha hb
    rw [Instant.le_def]
    omega
  · exact w.read_textWith_congr (WrittenFraction.micros_congr h _)
  · exact w.read_textWith_congr
      (WrittenFraction.micros_congr (f.toRat_append_zeros mark n) _)
  · exact w.read_textWith_congr
      (WrittenFraction.micros_of_toRat_eq_zero (WrittenFraction.toRat_eq_zero h) _)

/-- The last second of the year 2023. -/
def lateIn2023 : WrittenTime :=
  ⟨2023, 12, 31, .second 23 59 59, none, .universal⟩

/-- Of two fractions on both sides of half a microsecond, the larger leads into the new year. -/
theorem readTime_fraction_mono_new_year :
    ∃ a b, readTime "20231231235959.9999994Z" = .ok a ∧
      readTime "20231231235959,99999960Z" = .ok b ∧ a ≤ b ∧
      a.civil = ⟨2023, 12, 31, 23, 59, 59, 999999⟩ ∧ b.civil = ⟨2024, 1, 1, 0, 0, 0, 0⟩ := by
  have ha : readTime (lateIn2023.textWith (some ⟨.point, 9, [9, 9, 9, 9, 9, 4]⟩)) =
      .ok ⟨63839663999999999, by decide⟩ := by decide +kernel
  have hb : readTime (lateIn2023.textWith (some ⟨.comma, 9, [9, 9, 9, 9, 9, 6, 0]⟩)) =
      .ok ⟨63839664000000000, by decide⟩ := by decide +kernel
  exact ⟨_, _, ha, hb,
    (readTime_fraction_mono lateIn2023 _).1 _ _ _ ha hb (by decide +kernel),
    by decide +kernel, by decide +kernel⟩

end DirectoryAccount
