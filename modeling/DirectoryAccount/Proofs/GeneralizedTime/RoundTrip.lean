import DirectoryAccount.Proofs.GeneralizedTime.Fraction
import DirectoryAccount.Proofs.GeneralizedTime.Language

/-!
# Writing and reading instants

An instant is written to the millisecond, so what reads back is the instant rounded down to one:
`GeneralizedTime.read_write`.
-/

namespace DirectoryAccount

namespace Instant

/-- An instant rounded down to the millisecond. -/
def truncMillis (a : Instant) : Instant :=
  ⟨a.micros / 1000 * 1000, by have := a.micros_lt; omega⟩

/-- The written date and clock reading are those of the instant without its microseconds. -/
theorem civil_written (a : Instant) : a.written.civil = { a.civil with microsecond := 0 } := by
  have hleap : (if a.civil.second = 60 then 59 else a.civil.second) = a.civil.second :=
    if_neg (by have := a.civil_valid.second_lt; omega)
  rw [WrittenTime.civil]
  simp only [written, WrittenClock.hours, WrittenClock.minutes, WrittenClock.seconds, hleap]

/-- The written fraction is that of the whole milliseconds. -/
theorem fractionMicros_written (a : Instant) :
    a.written.fractionMicros = (a.civil.microsecond / 1000 * 1000 : Nat) := by
  rw [WrittenTime.fractionMicros_eq_elim]
  exact WrittenFraction.elim_micros_ofMillis
    ⟨a.civil.microsecond / 1000, by have := a.civil_valid.microsecond_lt; omega⟩

theorem localMicros_written (a : Instant) : a.written.localMicros = a.truncMillis.micros := by
  have hmicros := a.micros_civil
  rw [WrittenTime.localMicros, a.civil_written, a.fractionMicros_written]
  simp only [CivilTime.micros, CivilTime.days, CivilTime.microsOfDay, truncMillis] at hmicros ⊢
  omega

theorem firstFault_written (a : Instant) : a.written.firstFault = none := by
  have hvalid : CivilTime.Valid { a.civil with microsecond := 0 } :=
    { a.civil_valid with microsecond_lt := (by decide : 0 < 1000000) }
  have hlt := a.truncMillis.micros_lt
  have hin : InYears a.truncMillis.micros := ⟨by omega, by omega⟩
  have hzone : a.written.zone = .universal := rfl
  rw [WrittenTime.firstFault_eq, a.civil_written, a.localMicros_written, hzone,
    (CivilTime.fault?_eq_none_iff hvalid.year_le hvalid.microsecond_lt).2 hvalid]
  rw [if_pos (by decide)]
  exact if_pos ⟨hin, by simpa [WrittenZone.minutesEast] using hin⟩

end Instant

/-- **What is written reads back to the millisecond.** -/
theorem GeneralizedTime.read_write (a : Instant) :
    GeneralizedTime.read (GeneralizedTime.write a) = .ok a.truncMillis := by
  rw [GeneralizedTime.write, GeneralizedTime.read_of_toList_eq String.toList_ofList]
  rcases a.written.instant_spec with ⟨-, b, hb, hcount⟩ | ⟨fault, hfault, -⟩
  · have hzone : a.written.zone.minutesEast = 0 := rfl
    rw [a.localMicros_written, hzone, Int.zero_mul, Int.sub_zero] at hcount
    have hab : b = a.truncMillis := Instant.eq_of_micros_eq (Int.ofNat.inj hcount)
    rw [hb, hab]
  · rw [a.firstFault_written] at hfault
    cases hfault

end DirectoryAccount
