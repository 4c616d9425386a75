/-!
# Civil time in the proleptic Gregorian calendar

A civil time is a date and a clock reading down to the microsecond. `CivilTime.micros` counts the
microseconds since the first instant of year 1, and `CivilTime.ofMicros` reads such a count back.

**Both searches are by the last start.** A day lies in the last year that starts on or before it,
and within that year in the last month that does. So each direction is pinned by one pair of
inequalities, and uniqueness follows from years and months being longer than nothing.

Main statements: `CivilTime.micros_ofMicros` and `CivilTime.ofMicros_micros` say that the two
functions undo each other, the second on valid times; `CivilTime.ofMicros_valid` says that every
count below year 10000 reads as a valid time.
-/

namespace DirectoryAccount

/-! ### Years -/

/-- Every fourth year is a leap year, except for the centuries that 400 does not divide. -/
def IsLeap (y : Nat) : Prop :=
  y % 4 = 0 ∧ (y % 100 ≠ 0 ∨ y % 400 = 0)

instance (y : Nat) : Decidable (IsLeap y) :=
  inferInstanceAs (Decidable (_ ∧ _))

/-- The days from the start of year 1 to the start of year `y`. -/
def daysBeforeYear (y : Nat) : Nat :=
  (y - 1) * 365 + (y - 1) / 4 - (y - 1) / 100 + (y - 1) / 400

/-- Years counted in cycles: every 400 years take 146097 days, every century of them that is not
the last 36524, every four years of a century that are not the last 1461. -/
theorem daysBeforeYear_cycles {a b c d : Nat} (hb : b ≤ 3) (hc : c ≤ 24) (hd : d ≤ 3) :
    daysBeforeYear (400 * a + 100 * b + 4 * c + d + 1) =
      146097 * a + 36524 * b + 1461 * c + 365 * d := by
  unfold daysBeforeYear
  omega

theorem isLeap_cycles {a b c d : Nat} (hb : b ≤ 3) (hc : c ≤ 24) (hd : d ≤ 3) :
    IsLeap (400 * a + 100 * b + 4 * c + d + 1) ↔ d = 3 ∧ (c ≠ 24 ∨ b = 3) := by
  unfold IsLeap
  omega

/-- Every year has its place in the cycles. -/
theorem exists_cycles {y : Nat} (hy : 1 ≤ y) :
    ∃ a b c d, b ≤ 3 ∧ c ≤ 24 ∧ d ≤ 3 ∧ y = 400 * a + 100 * b + 4 * c + d + 1 :=
  ⟨(y - 1) / 400, (y - 1) % 400 / 100, (y - 1) % 100 / 4, (y - 1) % 4, by omega, by omega,
    by omega, by omega⟩

/-- The length of a year in days. -/
def daysInYear (y : Nat) : Nat :=
  if IsLeap y then 366 else 365

theorem daysBeforeYear_succ {y : Nat} (hy : 1 ≤ y) :
    daysBeforeYear (y + 1) = daysBeforeYear y + daysInYear y := by
  obtain ⟨a, b, c, d, hb, hc, hd, rfl⟩ := exists_cycles hy
  rw [daysBeforeYear_cycles hb hc hd, daysInYear]
  by_cases h : IsLeap (400 * a + 100 * b + 4 * c + d + 1)
  · rw [if_pos h]
    rw [isLeap_cycles hb hc hd] at h
    unfold daysBeforeYear
    omega
  · rw [if_neg h]
    rw [isLeap_cycles hb hc hd] at h
    unfold daysBeforeYear
    omega

theorem daysBeforeYear_mono {y z : Nat} (h : y ≤ z) : daysBeforeYear y ≤ daysBeforeYear z := by
  induction z with
  | zero => exact Nat.le_of_eq (by rw [Nat.le_zero.1 h])
  | succ z ih =>
    rcases Nat.lt_or_ge z y with hlt | hge
    · exact Nat.le_of_eq (by rw [show y = z + 1 by omega])
    · rcases Nat.eq_zero_or_pos z with rfl | hz
      · exact ih hge
      · rw [daysBeforeYear_succ hz]
        exact Nat.le_add_right_of_le (ih hge)

/-- The year that holds day `n`, counted down through the cycles. The last century of four and the
last year of four are the ones that can be a day longer. -/
def yearOfDay (n : Nat) : Nat :=
  let inEra := n % 146097
  let century := min 3 (inEra / 36524)
  let inCentury := inEra - 36524 * century
  let inFour := inCentury % 1461
  400 * (n / 146097) + 100 * century + 4 * (inCentury / 1461) + min 3 (inFour / 365) + 1

/-- **A day lies in its year**: not before its start, and before the start of the next. -/
theorem yearOfDay_spec (n : Nat) :
    1 ≤ yearOfDay n ∧ daysBeforeYear (yearOfDay n) ≤ n ∧
      n < daysBeforeYear (yearOfDay n) + daysInYear (yearOfDay n) := by
  simp only [yearOfDay]
  obtain ⟨a, ha⟩ : ∃ a, n / 146097 = a := ⟨_, rfl⟩
  obtain ⟨r, hr⟩ : ∃ r, n % 146097 = r := ⟨_, rfl⟩
  obtain ⟨b, hb⟩ : ∃ b, min 3 (r / 36524) = b := ⟨_, rfl⟩
  obtain ⟨s, hs⟩ : ∃ s, r - 36524 * b = s := ⟨_, rfl⟩
  obtain ⟨c, hc⟩ : ∃ c, s / 1461 = c := ⟨_, rfl⟩
  obtain ⟨d, hd⟩ : ∃ d, min 3 (s % 1461 / 365) = d := ⟨_, rfl⟩
  rw [ha, hr, hb, hs, hc, hd]
  have hb3 : b ≤ 3 := by omega
  have hc24 : c ≤ 24 := by omega
  have hd3 : d ≤ 3 := by omega
  rw [daysBeforeYear_cycles hb3 hc24 hd3, daysInYear]
  refine ⟨by omega, by omega, ?_⟩
  by_cases h : IsLeap (400 * a + 100 * b + 4 * c + d + 1)
  · rw [if_pos h]
    omega
  · rw [if_neg h]
    rw [isLeap_cycles hb3 hc24 hd3] at h
    omega

/-- **The year of a day is the only year that holds it.** -/
theorem yearOfDay_eq {n y : Nat} (hy : 1 ≤ y) (hlo : daysBeforeYear y ≤ n)
    (hhi : n < daysBeforeYear y + daysInYear y) : yearOfDay n = y := by
  obtain ⟨h₁, h₂, h₃⟩ := yearOfDay_spec n
  rw [← daysBeforeYear_succ hy] at hhi
  rw [← daysBeforeYear_succ h₁] at h₃
  rcases Nat.lt_trichotomy (yearOfDay n) y with h | h | h
  · have := daysBeforeYear_mono (show yearOfDay n + 1 ≤ y from h)
    omega
  · exact h
  · have := daysBeforeYear_mono (show y + 1 ≤ yearOfDay n from h)
    omega

/-! ### Months -/

/-- The length of month `m` of year `y` in days. -/
def daysInMonth (y m : Nat) : Nat :=
  if m = 2 then if IsLeap y then 29 else 28
  else if m = 4 ∨ m = 6 ∨ m = 9 ∨ m = 11 then 30
  else 31

/-- The months of a common year and of a leap year. -/
example : (List.range' 1 12).map (daysInMonth 1900) =
      [31, 28, 31, 30, 31, 30, 31, 31, 30, 31, 30, 31] ∧
    (List.range' 1 12).map (daysInMonth 2000) =
      [31, 29, 31, 30, 31, 30, 31, 31, 30, 31, 30, 31] := by
  decide

/-- The days from the start of year `y` to the start of its month `m`. -/
def daysBeforeMonth (y : Nat) : Nat → Nat
  | 0 => 0
  | 1 => 0
  | m + 2 => daysBeforeMonth y (m + 1) + daysInMonth y (m + 1)

theorem daysBeforeMonth_succ (y : Nat) {m : Nat} (hm : 1 ≤ m) :
    daysBeforeMonth y (m + 1) = daysBeforeMonth y m + daysInMonth y m := by
  obtain ⟨k, rfl⟩ : ∃ k, m = k + 1 := ⟨m - 1, by omega⟩
  rfl

theorem daysBeforeMonth_mono (y : Nat) {m k : Nat} (h : m ≤ k) :
    daysBeforeMonth y m ≤ daysBeforeMonth y k := by
  induction k with
  | zero => exact Nat.le_of_eq (by rw [Nat.le_zero.1 h])
  | succ k ih =>
    rcases Nat.lt_or_ge k m with hlt | hge
    · exact Nat.le_of_eq (by rw [show m = k + 1 by omega])
    · rcases Nat.eq_zero_or_pos k with rfl | hk
      · exact ih hge
      · rw [daysBeforeMonth_succ y hk]
        exact Nat.le_add_right_of_le (ih hge)

/-- Twelve months make a year. -/
theorem daysBeforeMonth_thirteen (y : Nat) : daysBeforeMonth y 13 = daysInYear y := by
  by_cases h : IsLeap y <;> simp [daysBeforeMonth, daysInMonth, daysInYear, h]

/-- No month ends after its year. -/
theorem daysBeforeMonth_add_daysInMonth_le (y : Nat) {m : Nat} (hm : 1 ≤ m) (hm' : m ≤ 12) :
    daysBeforeMonth y m + daysInMonth y m ≤ daysInYear y := by
  rw [← daysBeforeMonth_succ y hm, ← daysBeforeMonth_thirteen]
  exact daysBeforeMonth_mono y (by omega)

/-- The last of the months `1, …, m` that starts on or before day `d` of the year. -/
def lastMonthFrom (y d : Nat) : Nat → Nat
  | 0 => 1
  | m + 1 => if daysBeforeMonth y (m + 1) ≤ d then m + 1 else lastMonthFrom y d m

theorem lastMonthFrom_spec (y : Nat) {d m : Nat} (hm : 1 ≤ m) (hd : d < daysBeforeMonth y (m + 1)) :
    1 ≤ lastMonthFrom y d m ∧ lastMonthFrom y d m ≤ m ∧
      daysBeforeMonth y (lastMonthFrom y d m) ≤ d ∧
      d < daysBeforeMonth y (lastMonthFrom y d m) + daysInMonth y (lastMonthFrom y d m) := by
  induction m with
  | zero => omega
  | succ m ih =>
    rw [lastMonthFrom]
    split
    · rename_i h
      rw [daysBeforeMonth_succ y hm] at hd
      exact ⟨hm, Nat.le_refl _, h, hd⟩
    · rename_i h
      rcases Nat.eq_zero_or_pos m with rfl | hm'
      · exact absurd (Nat.zero_le d) h
      · obtain ⟨h₁, h₂, h₃, h₄⟩ := ih hm' (by omega)
        exact ⟨h₁, by omega, h₃, h₄⟩

/-- The month of year `y` that holds day `d` of that year. -/
def monthOfDay (y d : Nat) : Nat :=
  lastMonthFrom y d 12

theorem monthOfDay_spec {y d : Nat} (hd : d < daysInYear y) :
    1 ≤ monthOfDay y d ∧ monthOfDay y d ≤ 12 ∧ daysBeforeMonth y (monthOfDay y d) ≤ d ∧
      d < daysBeforeMonth y (monthOfDay y d) + daysInMonth y (monthOfDay y d) :=
  lastMonthFrom_spec y (by omega) (by rwa [daysBeforeMonth_thirteen])

/-- **The month of a day is the only month that holds it.** -/
theorem monthOfDay_eq {y m d : Nat} (hm : 1 ≤ m) (hm' : m ≤ 12) (hlo : daysBeforeMonth y m ≤ d)
    (hhi : d < daysBeforeMonth y m + daysInMonth y m) : monthOfDay y d = m := by
  have hd : d < daysInYear y :=
    Nat.lt_of_lt_of_le hhi (daysBeforeMonth_add_daysInMonth_le y hm hm')
  obtain ⟨h₁, h₂, h₃, h₄⟩ := monthOfDay_spec hd
  rw [← daysBeforeMonth_succ y hm] at hhi
  rw [← daysBeforeMonth_succ y h₁] at h₄
  rcases Nat.lt_trichotomy (monthOfDay y d) m with h | h | h
  · have := daysBeforeMonth_mono y (show monthOfDay y d + 1 ≤ m from h)
    omega
  · exact h
  · have := daysBeforeMonth_mono y (show m + 1 ≤ monthOfDay y d from h)
    omega

/-! ### Civil times -/

/-- A date with a clock reading, not bound to any zone. -/
structure CivilTime where
  /-- Years are counted from 1. -/
  year : Nat
  /-- Months are counted from 1. -/
  month : Nat
  /-- Days are counted from 1. -/
  day : Nat
  hour : Nat
  minute : Nat
  second : Nat
  microsecond : Nat
  deriving DecidableEq, Repr

namespace CivilTime

/-- A time names an existing date of the years 1 to 9999 and an existing moment of the day. Leap
seconds are not moments of their own. -/
structure Valid (t : CivilTime) : Prop where
  one_le_year : 1 ≤ t.year
  year_le : t.year ≤ 9999
  one_le_month : 1 ≤ t.month
  month_le : t.month ≤ 12
  one_le_day : 1 ≤ t.day
  day_le : t.day ≤ daysInMonth t.year t.month
  hour_lt : t.hour < 24
  minute_lt : t.minute < 60
  second_lt : t.second < 60
  microsecond_lt : t.microsecond < 1000000

instance (t : CivilTime) : Decidable t.Valid :=
  decidable_of_iff
    (1 ≤ t.year ∧ t.year ≤ 9999 ∧ 1 ≤ t.month ∧ t.month ≤ 12 ∧ 1 ≤ t.day ∧
      t.day ≤ daysInMonth t.year t.month ∧ t.hour < 24 ∧ t.minute < 60 ∧ t.second < 60 ∧
      t.microsecond < 1000000)
    ⟨fun ⟨a, b, c, d, e, f, g, h, i, j⟩ ↦ ⟨a, b, c, d, e, f, g, h, i, j⟩,
      fun ⟨a, b, c, d, e, f, g, h, i, j⟩ ↦ ⟨a, b, c, d, e, f, g, h, i, j⟩⟩

/-- The days from the start of year 1 to the date of the time. -/
def days (t : CivilTime) : Nat :=
  daysBeforeYear t.year + daysBeforeMonth t.year t.month + (t.day - 1)

/-- The microseconds from midnight to the clock reading of the time. -/
def microsOfDay (t : CivilTime) : Nat :=
  ((t.hour * 60 + t.minute) * 60 + t.second) * 1000000 + t.microsecond

/-- The microseconds from the start of year 1 to the time. -/
def micros (t : CivilTime) : Nat :=
  t.days * 86400000000 + t.microsOfDay

/-- The time that many microseconds after the start of year 1. -/
def ofMicros (n : Nat) : CivilTime :=
  let day := n / 86400000000
  let year := yearOfDay day
  let dayOfYear := day - daysBeforeYear year
  let month := monthOfDay year dayOfYear
  { year := year
    month := month
    day := dayOfYear - daysBeforeMonth year month + 1
    hour := n / 3600000000 % 24
    minute := n / 60000000 % 60
    second := n / 1000000 % 60
    microsecond := n % 1000000 }

/-- **Counting undoes reading a count.** -/
theorem micros_ofMicros (n : Nat) : (ofMicros n).micros = n := by
  obtain ⟨h₁, h₂, h₃⟩ := yearOfDay_spec (n / 86400000000)
  obtain ⟨h₄, h₅, h₆, h₇⟩ := monthOfDay_spec
    (show n / 86400000000 - daysBeforeYear (yearOfDay (n / 86400000000)) <
      daysInYear (yearOfDay (n / 86400000000)) by omega)
  simp only [micros, days, microsOfDay, ofMicros]
  omega

/-- **Reading a count undoes counting**, on existing times. -/
theorem ofMicros_micros {t : CivilTime} (ht : t.Valid) : ofMicros t.micros = t := by
  obtain ⟨h₁, h₂, h₃, h₄, h₅, h₆, h₇, h₈, h₉, h₁₀⟩ := ht
  have hday : t.micros / 86400000000 = t.days := by
    simp only [micros, microsOfDay]
    omega
  have hlast := daysBeforeMonth_add_daysInMonth_le t.year h₃ h₄
  have hyear : yearOfDay t.days = t.year :=
    yearOfDay_eq h₁ (by simp only [days]; omega) (by simp only [days]; omega)
  have hmonth : monthOfDay t.year (t.days - daysBeforeYear t.year) = t.month :=
    monthOfDay_eq h₃ h₄ (by simp only [days]; omega) (by simp only [days]; omega)
  simp only [ofMicros, hday, hyear, hmonth]
  cases t
  simp only [micros, days, microsOfDay, CivilTime.mk.injEq] at *
  refine ⟨trivial, trivial, ?_, ?_, ?_, ?_, ?_⟩ <;> omega

/-- The first count that no year up to 9999 holds. -/
def microsLimit : Nat :=
  315537897600000000

theorem microsLimit_eq : microsLimit = daysBeforeYear 10000 * 86400000000 := by
  decide

/-- **Every count below the limit reads as an existing time.** -/
theorem ofMicros_valid {n : Nat} (hn : n < microsLimit) : (ofMicros n).Valid := by
  obtain ⟨h₁, h₂, h₃⟩ := yearOfDay_spec (n / 86400000000)
  obtain ⟨h₄, h₅, h₆, h₇⟩ := monthOfDay_spec
    (show n / 86400000000 - daysBeforeYear (yearOfDay (n / 86400000000)) <
      daysInYear (yearOfDay (n / 86400000000)) by omega)
  refine ⟨h₁, ?_, h₄, h₅, ?_, ?_, ?_, ?_, ?_, ?_⟩ <;> simp only [ofMicros]
  · rw [microsLimit_eq] at hn
    rcases Nat.lt_or_ge 9999 (yearOfDay (n / 86400000000)) with h | h
    · have := daysBeforeYear_mono (show 10000 ≤ yearOfDay (n / 86400000000) from h)
      omega
    · exact h
  all_goals omega

/-- An existing time counts below the limit. -/
theorem Valid.micros_lt {t : CivilTime} (ht : t.Valid) : t.micros < microsLimit := by
  obtain ⟨h₁, h₂, h₃, h₄, h₅, h₆, h₇, h₈, h₉, h₁₀⟩ := ht
  have hlast := daysBeforeMonth_add_daysInMonth_le t.year h₃ h₄
  have hyear := daysBeforeYear_mono (show t.year + 1 ≤ 10000 by omega)
  rw [daysBeforeYear_succ h₁] at hyear
  rw [microsLimit_eq]
  simp only [micros, days, microsOfDay]
  omega

end CivilTime

end DirectoryAccount
