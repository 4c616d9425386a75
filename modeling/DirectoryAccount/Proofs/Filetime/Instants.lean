import DirectoryAccount.Proofs.Filetime
import DirectoryAccount.Proofs.Filetime.Seconds

/-!
# Instants of file times

What a file time says exactly is `Filetime.exactTicks` of a count of microseconds; what is read from
it comes by way of doubles and may differ. `Filetime.toInstant?_accuracy` says by how much, for all
file times: nothing at whole seconds, hardly two microseconds in the first five centuries after
1601, and never more than sixteen. The order is kept throughout.

**So an instant does not come back from its own file time.** A file time is exact to the millisecond
where it is made, and a millisecond is no sum of powers of two, so a double misses it.
`Filetime.toInstant?_ofInstant` says when it is missed by too much to be mended by rounding to
microseconds, and that rounding to milliseconds always mends it; `Filetime.toInstant?_millisecond`
is an instant that does not come back.
-/

namespace DirectoryAccount

namespace Filetime

variable {ticks : ℤ} {a b : Instant}

/-! ### Counts -/

theorem exactTicks_eq (micros : ℤ) : exactTicks micros = (micros - epochMicros) * 10 := by
  rw [exactTicks, epochMicros_eq]

/-- The start of 1601 lies that many seconds before the start of 1970. -/
theorem unixEpochMicros_sub :
    (unixEpochMicros : ℤ) - epochMicros = secondsToUnixEpoch * 1000000 := by
  decide

/-- An instant is read if the file time is no mark and has the count of the instant. -/
theorem toInstant?_eq_some_iff : toInstant? ticks = some a ↔
    (ticks ≠ 0 ∧ ticks ≠ never) ∧ (a.micros : ℤ) = unixEpochMicros + unixMicros ticks := by
  rw [toInstant?_eq, ← not_or]
  split
  · rename_i hmark
    simp [hmark]
  · rename_i hmark
    rw [Instant.ofInt?_eq_some_iff, eq_comm]
    simp [hmark]

/-- What is read lies off the file time by as much as its microseconds do. -/
theorem exactTicks_sub_of_toInstant? (h : toInstant? ticks = some a) :
    (exactTicks a.micros - ticks : ℚ) =
      ((unixMicros ticks : ℚ) - exactSeconds ticks * 1000000) * 10 := by
  have hcount := (toInstant?_eq_some_iff.1 h).2
  have hepoch := unixEpochMicros_sub
  have hticks : exactTicks a.micros = (unixMicros ticks + secondsToUnixEpoch * 1000000) * 10 := by
    rw [exactTicks_eq]
    omega
  rw [hticks, exactSeconds]
  push_cast
  ring

/-! ### Range -/

/-- Out of these bounds nothing is read. Their powers of two are read exactly, and lead out of the
years 1 to 9999. -/
theorem bounds_of_toInstant? (h : toInstant? ticks = some a) :
    -2 ^ 36 * 10000000 < ticks ∧ ticks < 2 ^ 38 * 10000000 := by
  have hcount := (toInstant?_eq_some_iff.1 h).2
  have hlt := a.micros_lt
  rw [CivilTime.microsLimit] at hlt
  rw [unixEpochMicros] at hcount
  have hlo := unixMicros_eighths (n := -2 ^ 39) (by decide)
  have hhi := unixMicros_eighths (n := 2 ^ 41) (by decide)
  rw [secondsToUnixEpoch] at hlo hhi
  constructor
  · by_contra hle
    have := unixMicros_mono (t := ticks) (u := -2 ^ 39 * 1250000) (by omega)
    omega
  · by_contra hle
    have := unixMicros_mono (t := 2 ^ 41 * 1250000) (u := ticks) (by omega)
    omega

/-! ### Accuracy -/

/-- Later file times are not read as earlier instants. -/
theorem le_of_toInstant? {t u : ℤ} (htu : t ≤ u) (ha : toInstant? t = some a)
    (hb : toInstant? u = some b) : a ≤ b := by
  have hmono := unixMicros_mono htu
  have hcount := (toInstant?_eq_some_iff.1 ha).2
  have hcount' := (toInstant?_eq_some_iff.1 hb).2
  rw [Instant.le_def]
  omega

/-- An error of the seconds is one of ten million times as many ticks, and five more. -/
theorem abs_exactTicks_sub_le {δ : ℚ} (ha : toInstant? ticks = some a)
    (h : |unixSeconds ticks - exactSeconds ticks| ≤ δ) :
    |(exactTicks a.micros - ticks : ℚ)| ≤ 5 + δ * 10000000 := by
  have hmicros := abs_unixMicros_sub_le h
  rw [exactTicks_sub_of_toInstant? ha, abs_mul]
  norm_num at hmicros ⊢
  linarith

/-- **Eighths of a second are read exactly**, and not at all if they are out of range or a mark. -/
theorem toInstant?_eighths {n : ℤ} (hmark : n * 1250000 ≠ never) :
    toInstant? (n * 1250000) = some a ↔ n ≠ 0 ∧ exactTicks a.micros = n * 1250000 := by
  have hlt := a.micros_lt
  rw [CivilTime.microsLimit] at hlt
  -- Beyond 50 bits there is nothing to read on either side.
  by_cases hsmall : |n| ≤ 2 ^ 50
  · have hmicros := unixMicros_eighths hsmall
    have hepoch := unixEpochMicros_sub
    rw [toInstant?_eq_some_iff, exactTicks_eq]
    omega
  · refine ⟨fun h ↦ ?_, fun h ↦ ?_⟩
    · have hbounds := bounds_of_toInstant? h
      rw [abs_le] at hsmall
      omega
    · have hcount := h.2
      rw [exactTicks_eq, epochMicros] at hcount
      rw [abs_le] at hsmall
      omega

/-- Between two instants of file times all other file times but the marks are read too. -/
theorem exists_toInstant?_of_between {t u : ℤ} (ha : toInstant? t = some a)
    (hb : toInstant? u = some b) (hlo : t ≤ ticks) (hhi : ticks ≤ u) (hzero : ticks ≠ 0)
    (hnever : ticks ≠ never) : ∃ c, toInstant? ticks = some c := by
  have hmono := unixMicros_mono hlo
  have hmono' := unixMicros_mono hhi
  have hcount := (toInstant?_eq_some_iff.1 ha).2
  have hcount' := (toInstant?_eq_some_iff.1 hb).2
  have hlt := b.micros_lt
  refine ⟨⟨(unixEpochMicros + unixMicros ticks).toNat, by omega⟩,
    toInstant?_eq_some_iff.2 ⟨⟨hzero, hnever⟩, ?_⟩⟩
  dsimp only
  omega

/-- **File times are read exactly at whole seconds, in their order, and closely elsewhere.** A whole
second is read as the instant of just this count from the start of 1601, and as none exactly if it
is the start of 1601 itself or not in the years 1 to 9999. Any other file time between the first
second and the last of those years is read. What is read is off by no more than 160 ticks, and in
the first 2 ^ 34 seconds after 1601 by no more than 20. A later file time is never read as an
earlier instant. -/
theorem toInstant?_accuracy :
    (∀ (seconds : ℤ) (a : Instant), toInstant? (seconds * 10000000) = some a ↔
        seconds ≠ 0 ∧ exactTicks a.micros = seconds * 10000000) ∧
      (∀ seconds : ℤ, toInstant? (seconds * 10000000) = none ↔ seconds = 0 ∨
        seconds * 10000000 < exactTicks 0 ∨
          exactTicks CivilTime.microsLimit ≤ seconds * 10000000) ∧
      (∀ ticks : ℤ, ticks ≠ 0 → exactTicks 0 ≤ ticks →
        ticks ≤ exactTicks (CivilTime.microsLimit - 1000000) →
          ∃ a, toInstant? ticks = some a) ∧
      (∀ (ticks : ℤ) (a : Instant), toInstant? ticks = some a →
        |exactTicks a.micros - ticks| ≤ 160 ∧
          (1 ≤ ticks → ticks ≤ 2 ^ 34 * 10000000 → |exactTicks a.micros - ticks| ≤ 20)) ∧
      ∀ (t u : ℤ) (a b : Instant), t ≤ u → toInstant? t = some a → toInstant? u = some b →
        a ≤ b := by
  have hwhole (seconds : ℤ) (a : Instant) : toInstant? (seconds * 10000000) = some a ↔
      seconds ≠ 0 ∧ exactTicks a.micros = seconds * 10000000 := by
    have heighths := toInstant?_eighths (a := a) (n := seconds * 8) (by rw [never]; omega)
    rw [show seconds * 8 * 1250000 = seconds * 10000000 by ring] at heighths
    rw [heighths]
    omega
  refine ⟨hwhole, fun seconds ↦ ?_, fun ticks hzero hlo hhi ↦ ?_, fun ticks a ha ↦ ?_,
    fun t u a b htu ha hb ↦ le_of_toInstant? htu ha hb⟩
  · rw [Option.eq_none_iff_forall_ne_some]
    simp only [ne_eq, hwhole, exactTicks_eq]
    constructor
    · intro hnone
      by_contra hin
      rw [epochMicros, CivilTime.microsLimit] at hin
      refine hnone ⟨(seconds * 1000000 + epochMicros).toNat, ?_⟩ ⟨by omega, ?_⟩
      · rw [epochMicros, CivilTime.microsLimit]
        omega
      · dsimp only
        rw [epochMicros]
        omega
    · rintro hout a ⟨hzero, hcount⟩
      have hlt := a.micros_lt
      omega
  · have hfirst := (hwhole (-50491123200) ⟨0, by decide⟩).2 ⟨by decide, by decide⟩
    have hlast := (hwhole 265046774399 ⟨315537897599000000, by decide⟩).2 ⟨by decide, by decide⟩
    rw [exactTicks_eq, epochMicros] at hlo hhi
    rw [CivilTime.microsLimit] at hhi
    exact exists_toInstant?_of_between hfirst hlast (by omega) (by omega) hzero
      (by rw [never]; omega)
  · obtain ⟨hlo, hhi⟩ := bounds_of_toInstant? ha
    refine ⟨?_, fun hpositive hnear ↦ ?_⟩
    · have herror := abs_exactTicks_sub_le ha (abs_unixSeconds_sub_le_wide hlo hhi)
      have hle : |(exactTicks a.micros - ticks : ℚ)| ≤ 160 := herror.trans (by norm_num)
      exact_mod_cast hle
    · rcases hnear.lt_or_eq with hlt | rfl
      · have herror := abs_exactTicks_sub_le ha
          (abs_unixSeconds_sub_le_near (by omega) hlt)
        have hle : |(exactTicks a.micros - ticks : ℚ)| ≤ 20 := herror.trans (by norm_num)
        exact_mod_cast hle
      · rw [((hwhole _ a).1 ha).2, sub_self, abs_zero]
        decide

/-! ### There and back -/

/-- A file time of a whole millisecond is exact. -/
theorem ofInstant_eq_exactTicks (hmillis : 1000 ∣ a.micros) :
    ofInstant a = exactTicks a.micros := by
  rw [ofInstant, ofMicros, exactTicks_eq, epochMicros]
  omega

theorem exactSeconds_ofInstant (hmillis : 1000 ∣ a.micros) :
    exactSeconds (ofInstant a) * 1000000 = ((a.micros - unixEpochMicros : ℤ) : ℚ) := by
  have hepoch : (unixEpochMicros : ℚ) - epochMicros = secondsToUnixEpoch * 1000000 := by
    exact_mod_cast unixEpochMicros_sub
  rw [ofInstant_eq_exactTicks hmillis, exactTicks_eq, exactSeconds]
  push_cast
  linarith

/-- The microseconds of a file time of an instant are those of the instant if the error of the
seconds is not too large. A whole millisecond is an even number of microseconds, so a half is not
too large yet. -/
theorem unixMicros_ofInstant_eq_iff (hmillis : 1000 ∣ a.micros) :
    unixMicros (ofInstant a) = a.micros - unixEpochMicros ↔
      |unixSeconds (ofInstant a) * 1000000 - ((a.micros : ℚ) - unixEpochMicros)| ≤ 1 / 2 := by
  have heven : Even ((a.micros : ℤ) - unixEpochMicros) := by
    rw [Int.even_iff, unixEpochMicros]
    omega
  rw [unixMicros, roundHalfEven_eq_iff_of_even heven]
  push_cast
  rfl

/-- The microseconds of a file time of an instant are off by less than the error of the seconds and
one more. -/
theorem abs_unixMicros_ofInstant_sub_lt (hmillis : 1000 ∣ a.micros) {δ : ℚ} {n : ℤ}
    (h : |unixSeconds (ofInstant a) - exactSeconds (ofInstant a)| ≤ δ)
    (hδ : 1 / 2 + δ * 1000000 < n) :
    |unixMicros (ofInstant a) - (a.micros - unixEpochMicros)| < n := by
  have hmicros := abs_unixMicros_sub_le h
  rw [exactSeconds_ofInstant hmillis] at hmicros
  exact_mod_cast hmicros.trans_lt hδ

/-- **An instant after 1601 that is a whole millisecond is read back from its file time if the
seconds, in doubles, are right up to half a microsecond**, which they are at whole eighths of a
second. What is read otherwise is one microsecond off in the first 2 ^ 34 seconds after 1601 and
never more than 15, so that the nearest millisecond is the instant in any case. -/
theorem toInstant?_ofInstant (hmillis : 1000 ∣ a.micros) (hepoch : epoch < a) :
    ∃ b, toInstant? (ofInstant a) = some b ∧
      (b = a ↔ |unixSeconds (ofInstant a) * 1000000 - ((a.micros : ℚ) - unixEpochMicros)| ≤
        1 / 2) ∧
      (125000 ∣ a.micros → b = a) ∧
      (ofInstant a < 2 ^ 34 * 10000000 → |(b.micros : ℤ) - a.micros| ≤ 1) ∧
      |(b.micros : ℤ) - a.micros| ≤ 15 ∧
      (b.micros + 500) / 1000 * 1000 = a.micros := by
  have hticks : ofInstant a = (a.micros - epochMicros) * 10 := by
    rw [ofInstant_eq_exactTicks hmillis, exactTicks_eq]
  have hlt := a.micros_lt
  have hgt : epochMicros < a.micros := hepoch
  rw [CivilTime.microsLimit] at hlt
  rw [epochMicros] at hticks hgt
  have hwide : |unixSeconds (ofInstant a) - exactSeconds (ofInstant a)| ≤ (2 : ℚ) ^ (-16 : ℤ) :=
    abs_unixSeconds_sub_le_wide (by omega) (by omega)
  have hmicros : |unixMicros (ofInstant a) - (a.micros - unixEpochMicros)| < 16 :=
    abs_unixMicros_ofInstant_sub_lt hmillis hwide (by norm_num)
  have hiff := unixMicros_ofInstant_eq_iff hmillis
  rw [abs_lt] at hmicros
  -- The last whole millisecond leaves room for the error before the end of the year 9999.
  have hrange : 0 ≤ (unixEpochMicros : ℤ) + unixMicros (ofInstant a) ∧
      (unixEpochMicros : ℤ) + unixMicros (ofInstant a) < CivilTime.microsLimit := by
    rw [CivilTime.microsLimit]
    omega
  obtain ⟨b, hb⟩ : ∃ b : Instant,
      (b.micros : ℤ) = unixEpochMicros + unixMicros (ofInstant a) :=
    ⟨⟨(unixEpochMicros + unixMicros (ofInstant a)).toNat, by omega⟩, by dsimp only; omega⟩
  have hread : toInstant? (ofInstant a) = some b :=
    toInstant?_eq_some_iff.2 ⟨⟨by omega, ofInstant_ne_never a⟩, hb⟩
  refine ⟨b, hread, ?_, fun heighth ↦ ?_, fun hnear ↦ ?_, ?_, ?_⟩
  · rw [← hiff]
    constructor
    · rintro rfl
      omega
    · intro h
      exact Instant.eq_of_micros_eq (by omega)
  · obtain ⟨n, hn⟩ : (1250000 : ℤ) ∣ ofInstant a := by omega
    rw [mul_comm] at hn
    have hexact := toInstant?_eighths (a := b) (n := n) (hn ▸ ofInstant_ne_never a)
    rw [← hn, exactTicks_eq, epochMicros] at hexact
    have hcount := (hexact.1 hread).2
    exact Instant.eq_of_micros_eq (by omega)
  · have hclose : |unixMicros (ofInstant a) - (a.micros - unixEpochMicros)| < 2 :=
      abs_unixMicros_ofInstant_sub_lt hmillis
        (abs_unixSeconds_sub_le_near (by omega) hnear) (by norm_num)
    rw [abs_lt] at hclose
    rw [abs_le]
    omega
  · rw [abs_le]
    omega
  · omega

/-- In the last second of the calendar a millisecond is read with all of 15 microseconds too
many. -/
theorem toInstant?_ofInstant_year_9999 :
    ∃ a b : Instant, a.civil = ⟨9999, 12, 31, 23, 59, 59, 15000⟩ ∧ 1000 ∣ a.micros ∧ epoch < a ∧
      toInstant? (ofInstant a) = some b ∧ b.civil = ⟨9999, 12, 31, 23, 59, 59, 15015⟩ ∧
      (b.micros + 500) / 1000 * 1000 = a.micros := by
  have hmillis : 1000 ∣ (315537897599015000 : ℕ) := by decide
  have hepoch : epoch < ⟨315537897599015000, by decide⟩ := by decide
  obtain ⟨b, hb, -, -, -, -, hnearest⟩ := toInstant?_ofInstant hmillis hepoch
  refine ⟨⟨315537897599015000, by decide⟩, b, by decide +kernel, hmillis, hepoch, hb, ?_, hnearest⟩
  have hfields : (toInstant? (ofInstant ⟨315537897599015000, by decide⟩)).map Instant.civil =
      some ⟨9999, 12, 31, 23, 59, 59, 15015⟩ := by
    decide +kernel
  rw [hb] at hfields
  exact Option.some.inj hfields

/-- **A millisecond does not come back.** The first one of the year 2024 has an exact file time, and
is read from it as a microsecond less. -/
theorem toInstant?_millisecond :
    (CivilTime.mk 2024 1 1 0 0 0 1000).Valid ∧
      ofLocal ⟨2024, 1, 1, 0, 0, 0, 1000⟩ none = 133485408000010000 ∧
      exactTicks (CivilTime.mk 2024 1 1 0 0 0 1000).micros = 133485408000010000 ∧
      (toInstant? 133485408000010000).map Instant.civil =
        some ⟨2024, 1, 1, 0, 0, 0, 999⟩ := by
  decide +kernel

end Filetime

end DirectoryAccount
