import DirectoryAccount.Binary64
import DirectoryAccount.Instant

/-!
# File times

A file time counts ticks of 100 nanoseconds since the start of 1601. Two of its values are marks
rather than times: zero, and the largest signed 64-bit number, `Filetime.never`.

**The two directions are of different make.** `Filetime.ofMicros` is exact integer arithmetic: it
rounds down to the millisecond, before 1601 too, and accepts any count whatever.
`Filetime.toInstant?` goes by way of doubles: the quotient by the ticks of a second, then the
difference to 1970, then the part below a second scaled to microseconds, each rounded.
-/

namespace DirectoryAccount

namespace Filetime

/-- The mark for an account that never expires. -/
def never : Int :=
  9223372036854775807

/-- The start of 1601, in microseconds since the start of year 1. -/
def epochMicros : Nat :=
  50491123200000000

theorem epochMicros_eq : epochMicros = (CivilTime.mk 1601 1 1 0 0 0 0).micros := by
  decide

/-- The start of 1601. -/
def epoch : Instant :=
  ⟨epochMicros, by decide⟩

/-- The start of 1970, in microseconds since the start of year 1. -/
def unixEpochMicros : Nat :=
  62135596800000000

theorem unixEpochMicros_eq : unixEpochMicros = (CivilTime.mk 1970 1 1 0 0 0 0).micros := by
  decide

/-- The seconds from the start of 1601 to the start of 1970. -/
def secondsToUnixEpoch : Nat :=
  11644473600

theorem secondsToUnixEpoch_eq :
    epochMicros + secondsToUnixEpoch * 1000000 = unixEpochMicros := by
  decide

/-- The ticks from the start of 1601 to so many microseconds after the start of year 1, rounded down
to the millisecond. -/
def ofMicros (micros : Int) : Int :=
  (micros - epochMicros) / 1000 * 10000

/-- The ticks of an instant, rounded down to the millisecond. -/
def ofInstant (a : Instant) : Int :=
  ofMicros a.micros

/-- The ticks of calendar fields at an offset of so many microseconds east of Greenwich, rounded
down to the millisecond. Fields without an offset are those of universal time. The moment itself may
lie outside the years 1 to 9999. -/
def ofLocal (t : CivilTime) (offset : Option Int) : Int :=
  ofMicros (t.micros - offset.getD 0)

/-- The seconds from the start of 1970 to a file time, as a double. -/
def unixSeconds (ticks : Int) : Rat :=
  Binary64.round (Binary64.round ((ticks : Rat) / 10000000) - (secondsToUnixEpoch : Rat))

/-- The instant of a file time; none for the two marks and for moments outside the years 1 to
9999. -/
def toInstant? (ticks : Int) : Option Instant :=
  if ticks = 0 ∨ ticks = never then none
  else
    let seconds := unixSeconds ticks
    let whole := truncate seconds
    Instant.ofInt? (unixEpochMicros + whole * 1000000 +
      roundHalfEven (Binary64.round ((seconds - whole) * 1000000)))

/-- The instant of a file time in words, for messages. -/
def text (ticks : Int) : String :=
  match toInstant? ticks with
  | none => "None"
  | some a => a.fieldsText

end Filetime

end DirectoryAccount
