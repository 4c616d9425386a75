import DirectoryAccount.Filetime
import DirectoryAccount.Proofs.Binary64.Grid

/-!
# The seconds of a file time

On the way to an instant a file time becomes seconds since 1970, in doubles. That takes two
roundings, of the quotient and of the difference, and there the accuracy is lost or kept:

* Whole eighths of a second are kept, `Filetime.unixSeconds_eighths`.
* From 2 ^ 33 seconds after 1601 on the second rounding does nothing, because the quotient is on a
  grid so coarse that the difference is a double: `Filetime.abs_unixSeconds_sub_le_of_binade`.
* Before that there are two errors, but of smaller numbers: `Filetime.abs_unixSeconds_sub_le`.

**No third rounding happens.** The seconds are multiples of 2 ^ (-20), however small they are, since
they are small only where they come from a large quotient (`Filetime.onGrid_unixSeconds`). So their
part below a second is a double in microseconds as well, and the microseconds of a file time are
those of its seconds rounded once: `Filetime.toInstant?_eq`.
-/

namespace DirectoryAccount

/-- What is left of a number without its integer part is less than one. -/
theorem abs_sub_truncate_lt_one (x : ℚ) : |x - truncate x| < 1 := by
  rw [truncate, abs_lt]
  split
  · have hlo : (x.floor : ℚ) ≤ x := Rat.floor_le x
    have hhi : x < (x.floor : ℚ) + 1 := by exact_mod_cast Rat.lt_floor_add_one x
    constructor <;> linarith
  · have hlo : x ≤ (x.ceil : ℚ) := Rat.le_ceil
    have hhi : (x.ceil : ℚ) < x + 1 := Rat.ceil_lt
    constructor <;> linarith

namespace Filetime

open Binary64 (IsDouble OnGrid onGrid_round onGrid_intCast onGrid_natCast isDouble_two_zpow
  round_eq_self round_le le_round round_mono abs_round_sub_le_of_abs_lt)

variable {ticks : ℤ}

/-- The seconds from the start of 1601 to a file time, as a double. -/
def quotient (ticks : ℤ) : ℚ :=
  Binary64.round ((ticks : ℚ) / 10000000)

/-- The seconds from the start of 1970 to a file time, without any rounding. -/
def exactSeconds (ticks : ℤ) : ℚ :=
  (ticks : ℚ) / 10000000 - secondsToUnixEpoch

theorem unixSeconds_eq (ticks : ℤ) :
    unixSeconds ticks = Binary64.round (quotient ticks - secondsToUnixEpoch) := rfl

/-- Later file times do not have fewer seconds. -/
theorem unixSeconds_mono {t u : ℤ} (h : t ≤ u) : unixSeconds t ≤ unixSeconds u := by
  have hticks : (t : ℚ) / 10000000 ≤ (u : ℚ) / 10000000 := by
    gcongr
  exact round_mono (sub_le_sub_right (round_mono hticks) _)

/-! ### The grid of the seconds -/

/-- **The seconds are multiples of 2 ^ (-20).** -/
theorem onGrid_unixSeconds (ticks : ℤ) : OnGrid (-20) (unixSeconds ticks) := by
  have hepoch : OnGrid (-20) (secondsToUnixEpoch : ℚ) := onGrid_natCast _ (by decide)
  rw [unixSeconds_eq]
  rcases le_or_gt ((2 : ℚ) ^ (32 : ℤ)) |quotient ticks - secondsToUnixEpoch| with hfar | hnear
  · exact onGrid_round hfar
  · -- Few seconds from 1970 there are many from 1601, so the quotient is on the grid itself.
    have hquotient : (2 : ℚ) ^ (32 : ℤ) ≤ |(ticks : ℚ) / 10000000| := by
      refine le_trans ?_ (le_abs_self _)
      by_contra hlt
      have hround : quotient ticks ≤ (2 : ℚ) ^ (32 : ℤ) :=
        round_le (isDouble_two_zpow (by decide)) (not_le.1 hlt).le
      rw [abs_lt, secondsToUnixEpoch] at hnear
      norm_num at hround hnear
      linarith
    have hgrid : OnGrid (-20) (quotient ticks - secondsToUnixEpoch) :=
      (onGrid_round hquotient).sub hepoch
    rwa [round_eq_self (hgrid.isDouble (by decide) (hnear.le.trans (by norm_num)))]

/-- **Below a second the seconds are a double in microseconds too.** -/
theorem round_unixSeconds_sub_truncate (ticks : ℤ) :
    Binary64.round ((unixSeconds ticks - truncate (unixSeconds ticks)) * 1000000) =
      (unixSeconds ticks - truncate (unixSeconds ticks)) * 1000000 := by
  have hlt := abs_sub_truncate_lt_one (unixSeconds ticks)
  have hgrid := (onGrid_unixSeconds ticks).sub
    (onGrid_intCast (truncate (unixSeconds ticks)) (by decide))
  generalize unixSeconds ticks - truncate (unixSeconds ticks) = part at *
  obtain ⟨m, hm⟩ := hgrid
  refine round_eq_self (OnGrid.isDouble (e := -14) ⟨m * 15625, ?_⟩ (by decide) ?_)
  · rw [hm]
    push_cast
    norm_num
    ring
  · rw [abs_mul]
    norm_num
    linarith

/-- The microseconds from the start of 1970 to a file time. -/
def unixMicros (ticks : ℤ) : ℤ :=
  roundHalfEven (unixSeconds ticks * 1000000)

/-- Whole seconds and the part below make the microseconds together. -/
theorem truncate_add_roundHalfEven (ticks : ℤ) :
    truncate (unixSeconds ticks) * 1000000 + roundHalfEven
        (Binary64.round ((unixSeconds ticks - truncate (unixSeconds ticks)) * 1000000)) =
      unixMicros ticks := by
  have heven : Even (truncate (unixSeconds ticks) * 1000000) :=
    (by decide : Even (1000000 : ℤ)).mul_left _
  rw [round_unixSeconds_sub_truncate, add_comm, ← roundHalfEven_add_intCast _ heven, unixMicros]
  congr 1
  push_cast
  ring

/-- **A file time is read by rounding its seconds to microseconds once.** -/
theorem toInstant?_eq (ticks : ℤ) : toInstant? ticks =
    if ticks = 0 ∨ ticks = never then none
    else Instant.ofInt? (unixEpochMicros + unixMicros ticks) := by
  rw [← truncate_add_roundHalfEven, ← add_assoc]
  rfl

/-- Later file times do not have fewer microseconds. -/
theorem unixMicros_mono {t u : ℤ} (h : t ≤ u) : unixMicros t ≤ unixMicros u := by
  have hseconds := unixSeconds_mono h
  exact roundHalfEven_mono (by linarith)

/-! ### Exact seconds -/

/-- **Eighths of a second are kept**, in any number that 50 bits hold. -/
theorem unixSeconds_eighths {n : ℤ} (h : |n| ≤ 2 ^ 50) :
    unixSeconds (n * 1250000) = exactSeconds (n * 1250000) := by
  rw [abs_le] at h
  have hquotient : ((n * 1250000 : ℤ) : ℚ) / 10000000 = n * (2 : ℚ) ^ (-3 : ℤ) := by
    push_cast
    norm_num
    ring
  have hdifference : n * (2 : ℚ) ^ (-3 : ℤ) - secondsToUnixEpoch =
      (n - secondsToUnixEpoch * 8 : ℤ) * (2 : ℚ) ^ (-3 : ℤ) := by
    push_cast
    norm_num
    ring
  have hdouble {m : ℤ} (hm : |m| ≤ 2 ^ 53) : IsDouble (m * (2 : ℚ) ^ (-3 : ℤ)) :=
    ⟨m, -3, rfl, hm, by decide⟩
  rw [unixSeconds_eq, quotient, exactSeconds, hquotient,
    round_eq_self (hdouble (by rw [abs_le]; omega)), hdifference, round_eq_self (hdouble ?_)]
  rw [abs_le, secondsToUnixEpoch]
  omega

theorem unixMicros_eighths {n : ℤ} (h : |n| ≤ 2 ^ 50) :
    unixMicros (n * 1250000) = n * 125000 - secondsToUnixEpoch * 1000000 := by
  have hmicros : exactSeconds (n * 1250000) * 1000000 =
      (n * 125000 - secondsToUnixEpoch * 1000000 : ℤ) := by
    rw [exactSeconds]
    push_cast
    ring
  rw [unixMicros, unixSeconds_eighths h, hmicros, roundHalfEven_intCast]

/-! ### The error of the seconds -/

/-- **Two roundings at most add their errors.** -/
theorem abs_unixSeconds_sub_le {j k : ℤ} (hj : -1021 ≤ j) (hk : -1021 ≤ k)
    (hquotient : |(ticks : ℚ) / 10000000| < (2 : ℚ) ^ j)
    (hdifference : |quotient ticks - secondsToUnixEpoch| < (2 : ℚ) ^ k) :
    |unixSeconds ticks - exactSeconds ticks| ≤ (2 : ℚ) ^ (j - 54) + (2 : ℚ) ^ (k - 54) := by
  have hfirst := abs_round_sub_le_of_abs_lt hj hquotient
  have hsecond := abs_round_sub_le_of_abs_lt hk hdifference
  rw [← quotient] at hfirst
  rw [← unixSeconds_eq] at hsecond
  have hsplit : unixSeconds ticks - exactSeconds ticks =
      (quotient ticks - (ticks : ℚ) / 10000000) +
        (unixSeconds ticks - (quotient ticks - secondsToUnixEpoch)) := by
    rw [exactSeconds]
    ring
  rw [hsplit]
  exact (abs_add_le _ _).trans (add_le_add hfirst hsecond)

/-- **Late enough there is only one rounding.** The difference has no more bits than the
quotient. -/
theorem abs_unixSeconds_sub_le_of_binade {k : ℤ} (hk : 33 ≤ k) (hk' : k ≤ 52)
    (hlo : (2 : ℚ) ^ k ≤ (ticks : ℚ) / 10000000)
    (hhi : (ticks : ℚ) / 10000000 < (2 : ℚ) ^ (k + 1)) :
    |unixSeconds ticks - exactSeconds ticks| ≤ (2 : ℚ) ^ (k - 53) := by
  have hpow : (2 : ℚ) ^ (33 : ℤ) ≤ 2 ^ k := zpow_le_zpow_right₀ one_le_two hk
  have hpow' : (2 : ℚ) ^ (k + 1) = 2 * 2 ^ k := by
    rw [zpow_add_one₀ two_ne_zero, mul_comm]
  have hpositive : 0 < (ticks : ℚ) / 10000000 := (zpow_pos two_pos k).trans_le hlo
  have hquotient₀ : (2 : ℚ) ^ k ≤ quotient ticks := le_round (isDouble_two_zpow (by omega)) hlo
  have hquotient₁ : quotient ticks ≤ (2 : ℚ) ^ (k + 1) :=
    round_le (isDouble_two_zpow (by omega)) hhi.le
  have hgrid : OnGrid (k - 52) (quotient ticks - secondsToUnixEpoch) := by
    refine (onGrid_round ?_).sub (onGrid_natCast _ (by omega))
    rwa [abs_of_pos hpositive]
  have hexact : unixSeconds ticks = quotient ticks - secondsToUnixEpoch := by
    refine round_eq_self (hgrid.isDouble (by omega) ?_)
    rw [show k - 52 + 53 = k + 1 by ring, abs_le, secondsToUnixEpoch]
    norm_num at hpow ⊢
    constructor <;> linarith
  rw [hexact, exactSeconds, sub_sub_sub_cancel_right, show k - 53 = k + 1 - 54 by ring]
  exact abs_round_sub_le_of_abs_lt (by omega) (by rwa [abs_of_pos hpositive])

/-- The microseconds have the error of the seconds, and one half from their own rounding. -/
theorem abs_unixMicros_sub_le {δ : ℚ} (h : |unixSeconds ticks - exactSeconds ticks| ≤ δ) :
    |(unixMicros ticks : ℚ) - exactSeconds ticks * 1000000| ≤ 1 / 2 + δ * 1000000 := by
  have hround := abs_roundHalfEven_sub_le (unixSeconds ticks * 1000000)
  rw [← unixMicros] at hround
  rw [abs_le] at *
  constructor <;> linarith

/-- From more than two thousand years before 1601 to more than eight thousand after, the seconds are
right up to 2 ^ (-16). -/
theorem abs_unixSeconds_sub_le_wide (hlo : -2 ^ 36 * 10000000 < ticks)
    (hhi : ticks < 2 ^ 38 * 10000000) :
    |unixSeconds ticks - exactSeconds ticks| ≤ (2 : ℚ) ^ (-16 : ℤ) := by
  have hlo' : -(2 : ℚ) ^ (36 : ℤ) < (ticks : ℚ) / 10000000 := by
    rw [lt_div_iff₀ (by norm_num)]
    exact_mod_cast hlo
  have hhi' : (ticks : ℚ) / 10000000 < (2 : ℚ) ^ (37 + 1 : ℤ) := by
    rw [div_lt_iff₀ (by norm_num)]
    exact_mod_cast hhi
  rcases le_or_gt ((2 : ℚ) ^ (37 : ℤ)) ((ticks : ℚ) / 10000000) with hlate | hearly
  · exact (abs_unixSeconds_sub_le_of_binade (by decide) (by decide) hlate hhi').trans (by norm_num)
  · have hquotient₀ : -(2 : ℚ) ^ (36 : ℤ) ≤ quotient ticks :=
      le_round (isDouble_two_zpow (by decide)).neg hlo'.le
    have hquotient₁ : quotient ticks ≤ (2 : ℚ) ^ (37 : ℤ) :=
      round_le (isDouble_two_zpow (by decide)) hearly.le
    refine (abs_unixSeconds_sub_le (j := 37) (k := 37) (by decide) (by decide) ?_ ?_).trans
      (by norm_num)
    · rw [abs_lt]
      norm_num at hlo' hearly ⊢
      constructor <;> linarith
    · rw [abs_lt, secondsToUnixEpoch]
      norm_num at hquotient₀ hquotient₁ ⊢
      constructor <;> linarith

/-- In the first five centuries after 1601 the seconds are right up to 3 * 2 ^ (-21). -/
theorem abs_unixSeconds_sub_le_near (hlo : 0 < ticks) (hhi : ticks < 2 ^ 34 * 10000000) :
    |unixSeconds ticks - exactSeconds ticks| ≤ 3 * (2 : ℚ) ^ (-21 : ℤ) := by
  have hlo' : 0 < (ticks : ℚ) / 10000000 := by
    have : (0 : ℚ) < ticks := by exact_mod_cast hlo
    positivity
  have hhi' : (ticks : ℚ) / 10000000 < (2 : ℚ) ^ (33 + 1 : ℤ) := by
    rw [div_lt_iff₀ (by norm_num)]
    exact_mod_cast hhi
  rcases le_or_gt ((2 : ℚ) ^ (33 : ℤ)) ((ticks : ℚ) / 10000000) with hlate | hearly
  · exact (abs_unixSeconds_sub_le_of_binade (by decide) (by decide) hlate hhi').trans (by norm_num)
  · have hquotient₀ : 0 ≤ quotient ticks := Binary64.round_nonneg hlo'.le
    have hquotient₁ : quotient ticks ≤ (2 : ℚ) ^ (33 : ℤ) :=
      round_le (isDouble_two_zpow (by decide)) hearly.le
    refine (abs_unixSeconds_sub_le (j := 33) (k := 34) (by decide) (by decide) ?_ ?_).trans
      (by norm_num)
    · rwa [abs_of_pos hlo']
    · rw [abs_lt, secondsToUnixEpoch]
      norm_num at hquotient₁ ⊢
      constructor <;> linarith

end Filetime

end DirectoryAccount
