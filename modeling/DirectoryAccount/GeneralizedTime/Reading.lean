import DirectoryAccount.Binary64
import DirectoryAccount.GeneralizedTime.Written
import DirectoryAccount.Instant

/-!
# The instant of a generalized time

A written time names an instant when its zone, its date and its clock reading exist and the moment
lies in the years 1 to 9999. `WrittenTime.instant` tries these in turn and reports the first that
fails, as a `TimeFault`.

**Leap seconds.** A written second 60 is read as 59.

**Fractions are read in double precision.** The digits are rounded to a double, scaled to seconds by
a rounded product, and the part below a second is scaled to microseconds by another, which is then
rounded to an integer. The fraction moves the local time forward before the zone is applied, so the
range is tested twice.

`GeneralizedTime.read` and `GeneralizedTime.write` are the two directions on texts. Writing is in
universal time, to the second or, where it is not zero, to the millisecond.
-/

namespace DirectoryAccount

/-! ### What can be wrong with a text -/

/-- Why a text names no instant. -/
inductive TimeFault where
  | unrecognized
  | zone (zone : WrittenZone)
  | year
  | month
  | day
  | hour
  | minute
  | second
  | range
  deriving DecidableEq, Repr

/-- The wording of a fault. -/
def TimeFault.reason : TimeFault → String
  | unrecognized => "unrecognized format"
  | zone z => "invalid zone offset " ++ String.ofList z.text
  | year => "year 0 is out of range"
  | month => "month must be in 1..12"
  | day => "day is out of range for month"
  | hour => "hour must be in 0..23"
  | minute => "minute must be in 0..59"
  | second => "second must be in 0..59"
  | range => "date value out of range"

/-! ### Parts of a written time -/

/-- The seconds by which a zone lies east of Greenwich, for the offsets below a day. -/
def WrittenZone.secondsEast? : WrittenZone → Option Int
  | universal => some 0
  | offset side hours minutes =>
    let m : Nat := (minutes.map Fin.val).getD 0
    if hours.val ≤ 23 ∧ m ≤ 59 then
      match side with
      | .east => some (hours.val * 3600 + m * 60)
      | .west => some (-(hours.val * 3600 + m * 60))
    else none

namespace WrittenClock

/-- The written hour. -/
def hours : WrittenClock → Nat
  | hour h => h.val
  | minute h _ => h.val
  | second h _ _ => h.val

/-- The written minute, zero if there is none. -/
def minutes : WrittenClock → Nat
  | hour _ => 0
  | minute _ m => m.val
  | second _ m _ => m.val

/-- The second that the reading stands for: zero if none is written, and 59 for a leap second. -/
def seconds : WrittenClock → Nat
  | second _ _ s => if s.val = 60 then 59 else s.val
  | _ => 0

/-- The seconds in the last unit written, to which a fraction applies. -/
def unit : WrittenClock → Nat
  | hour _ => 3600
  | minute _ _ => 60
  | second _ _ _ => 1

end WrittenClock

/-- The number that a fraction denotes. -/
def WrittenFraction.toRat (f : WrittenFraction) : Rat :=
  (Digit.value f.digits : Rat) / (10 : Rat) ^ f.digits.length

/-- The microseconds in a fraction of a unit of so many seconds, by way of doubles. -/
def WrittenFraction.micros (f : WrittenFraction) (unit : Nat) : Int :=
  let seconds := Binary64.round (Binary64.round f.toRat * (unit : Rat))
  let whole := seconds.floor
  whole * 1000000 + roundHalfEven (Binary64.round ((seconds - whole) * 1000000))

/-- The first field that names no existing date or moment of a day. -/
def CivilTime.fault? (t : CivilTime) : Option TimeFault :=
  if t.year = 0 then some .year
  else if t.month = 0 ∨ 12 < t.month then some .month
  else if t.day = 0 ∨ daysInMonth t.year t.month < t.day then some .day
  else if 23 < t.hour then some .hour
  else if 59 < t.minute then some .minute
  else if 59 < t.second then some .second
  else none

theorem CivilTime.fault?_eq_none_iff {t : CivilTime} (hyear : t.year ≤ 9999)
    (hmicro : t.microsecond < 1000000) : t.fault? = none ↔ t.Valid := by
  constructor
  · intro h
    have hne {p : Prop} [Decidable p] {f : TimeFault} {rest : Option TimeFault}
        (h : (if p then some f else rest) = none) : ¬p ∧ rest = none := by
      split at h
      · cases h
      · exact ⟨‹_›, h⟩
    obtain ⟨h₁, h⟩ := hne h
    obtain ⟨h₂, h⟩ := hne h
    obtain ⟨h₃, h⟩ := hne h
    obtain ⟨h₄, h⟩ := hne h
    obtain ⟨h₅, h⟩ := hne h
    obtain ⟨h₆, -⟩ := hne h
    exact ⟨by omega, hyear, by omega, by omega, by omega, by omega, by omega, by omega, by omega,
      hmicro⟩
  · rintro ⟨h₁, h₂, h₃, h₄, h₅, h₆, h₇, h₈, h₉, h₁₀⟩
    unfold fault?
    rw [if_neg (by omega), if_neg (by omega), if_neg (by omega), if_neg (by omega),
      if_neg (by omega), if_neg (by omega)]

namespace WrittenTime

/-- The date and clock reading of a written time, without its fraction. -/
def civil (w : WrittenTime) : CivilTime :=
  { year := w.year.val
    month := w.month.val
    day := w.day.val
    hour := w.clock.hours
    minute := w.clock.minutes
    second := w.clock.seconds
    microsecond := 0 }

/-- The microseconds of the fraction, if one is written. -/
def fractionMicros (w : WrittenTime) : Int :=
  match w.fraction with
  | none => 0
  | some f => f.micros w.clock.unit

/-- The instant with the given count, or the fault of being out of range. -/
def inRange (n : Int) : Except TimeFault Instant :=
  match Instant.ofInt? n with
  | some a => .ok a
  | none => .error .range

/-- The instant that a written time names, or what is first wrong with it. -/
def instant (w : WrittenTime) : Except TimeFault Instant :=
  match w.zone.secondsEast?, w.civil.fault? with
  | none, _ => .error (.zone w.zone)
  | some _, some fault => .error fault
  | some secondsEast, none =>
    (inRange (w.civil.micros + w.fractionMicros)).bind fun a ↦
      inRange (a.micros - secondsEast * 1000000)

end WrittenTime

/-! ### Writing an instant -/

theorem daysInMonth_le (y m : Nat) : daysInMonth y m ≤ 31 := by
  unfold daysInMonth
  repeat' split
  all_goals omega

/-- A number of milliseconds as a fraction of a second; none for zero. -/
def WrittenFraction.ofMillis? (n : Fin 1000) : Option WrittenFraction :=
  if n.val = 0 then none
  else some ⟨.point, (Digit.ofTriple n).1, (Digit.ofTriple n).2⟩

/-- An instant in universal time as it is written. -/
def Instant.written (a : Instant) : WrittenTime :=
  have h := a.civil_valid
  { year := ⟨a.civil.year, by have := h.year_le; omega⟩
    month := ⟨a.civil.month, by have := h.month_le; omega⟩
    day := ⟨a.civil.day, by
      have := h.day_le
      have := daysInMonth_le a.civil.year a.civil.month
      omega⟩
    clock := .second ⟨a.civil.hour, by have := h.hour_lt; omega⟩
      ⟨a.civil.minute, by have := h.minute_lt; omega⟩
      ⟨a.civil.second, by have := h.second_lt; omega⟩
    fraction := WrittenFraction.ofMillis?
      ⟨a.civil.microsecond / 1000, by have := h.microsecond_lt; omega⟩
    zone := .universal }

namespace GeneralizedTime

/-- The instant that a text names, or why it names none. -/
def read (text : String) : Except TimeFault Instant :=
  match WrittenTime.ofText? text.toList with
  | none => .error .unrecognized
  | some w => w.instant

/-- The text of an instant. -/
def write (a : Instant) : String :=
  String.ofList a.written.text

end GeneralizedTime

end DirectoryAccount
