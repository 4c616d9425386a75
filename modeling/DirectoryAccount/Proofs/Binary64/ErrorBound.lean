import DirectoryAccount.Binary64
import Mathlib.Algebra.Order.Field.Power
import Mathlib.Data.Rat.Floor
import Mathlib.Tactic.FieldSimp
import Mathlib.Tactic.Linarith
import Mathlib.Tactic.NormNum
import Mathlib.Tactic.Positivity
import Mathlib.Tactic.Ring

/-!
# The error of rounding

Rounding to an integer moves a number by at most one half, so rounding to a double moves it by at
most half the distance of the doubles around it. `Binary64.abs_round_sub_le_of_abs_lt` puts that
distance in terms of any power of two above the number.

The exponent in `Binary64.exponent` is guessed from bit lengths and mended by one comparison;
`Binary64.exponent_spec` says that this finds the binade.
-/

namespace DirectoryAccount

/-! ### Rounding to an integer -/

theorem abs_roundHalfEven_sub_le (x : ℚ) : |(roundHalfEven x : ℚ) - x| ≤ 1 / 2 := by
  have hlo : (x.floor : ℚ) ≤ x := Rat.floor_le x
  have hhi : x < (x.floor : ℚ) + 1 := by exact_mod_cast Rat.lt_floor_add_one x
  rw [abs_le, roundHalfEven]
  split
  · constructor <;> linarith
  · split
    · push_cast
      constructor <;> linarith
    · -- halfway, so either neighbour will do
      have hhalf : x - x.floor = 1 / 2 := by linarith
      split
      · constructor <;> linarith
      · push_cast
        constructor <;> linarith

/-- An integer closer than one half is the one that a number rounds to. -/
theorem roundHalfEven_eq_of_abs_sub_lt {x : ℚ} {n : ℤ} (h : |x - n| < 1 / 2) :
    roundHalfEven x = n := by
  have hround := abs_roundHalfEven_sub_le x
  have hdist : |((roundHalfEven x - n : ℤ) : ℚ)| < 1 := by
    push_cast
    calc |(roundHalfEven x : ℚ) - n| ≤ |(roundHalfEven x : ℚ) - x| + |x - n| := abs_sub_le _ _ _
      _ < 1 := by linarith
  have hint : |roundHalfEven x - n| < 1 := by exact_mod_cast hdist
  rw [abs_lt] at hint
  omega

namespace Binary64

/-! ### The binade of a number -/

theorem abs_eq (x : ℚ) : x.abs = |x| := by
  rcases le_total 0 x with h | h
  · rw [Rat.abs_of_nonneg h, abs_of_nonneg h]
  · rw [Rat.abs_of_nonpos h, abs_of_nonpos h]

/-- The bit lengths of numerator and denominator place a number between two powers of two that are
four times apart. -/
theorem log2_sub_log2_spec {x : ℚ} (hx : x ≠ 0) :
    (2 : ℚ) ^ ((x.num.natAbs.log2 : ℤ) - x.den.log2 - 1) < |x| ∧
      |x| < (2 : ℚ) ^ ((x.num.natAbs.log2 : ℤ) - x.den.log2 + 1) := by
  have hnum : x.num.natAbs ≠ 0 := by simpa using hx
  have hden : (0 : ℚ) < x.den := by exact_mod_cast x.den_pos
  have hn₁ : (2 : ℚ) ^ x.num.natAbs.log2 ≤ x.num.natAbs := by
    exact_mod_cast Nat.log2_self_le hnum
  have hn₂ : (x.num.natAbs : ℚ) < 2 ^ (x.num.natAbs.log2 + 1) := by
    exact_mod_cast Nat.lt_log2_self
  have hd₁ : (2 : ℚ) ^ x.den.log2 ≤ x.den := by
    exact_mod_cast Nat.log2_self_le x.den_ne_zero
  have hd₂ : (x.den : ℚ) < 2 ^ (x.den.log2 + 1) := by
    exact_mod_cast Nat.lt_log2_self
  have habs : |x| = (x.num.natAbs : ℚ) / x.den := by
    calc |x| = |(x.num : ℚ) / x.den| := by rw [Rat.num_div_den]
      _ = |(x.num : ℚ)| / x.den := by rw [abs_div, abs_of_pos hden]
      _ = (x.num.natAbs : ℚ) / x.den := by rw [Nat.cast_natAbs, Int.cast_abs]
  generalize x.num.natAbs.log2 = a at *
  generalize x.den.log2 = b at *
  rw [habs]
  constructor
  · rw [lt_div_iff₀ hden]
    calc (2 : ℚ) ^ ((a : ℤ) - b - 1) * x.den < 2 ^ ((a : ℤ) - b - 1) * 2 ^ (b + 1) := by
          gcongr
      _ = 2 ^ a := by
          rw [← zpow_natCast, ← zpow_natCast, ← zpow_add₀ two_ne_zero]
          congr 1
          push_cast
          ring
      _ ≤ x.num.natAbs := hn₁
  · rw [div_lt_iff₀ hden]
    calc (x.num.natAbs : ℚ) < 2 ^ (a + 1) := hn₂
      _ = 2 ^ ((a : ℤ) - b + 1) * 2 ^ b := by
          rw [← zpow_natCast, ← zpow_natCast, ← zpow_add₀ two_ne_zero]
          congr 1
          push_cast
          ring
      _ ≤ 2 ^ ((a : ℤ) - b + 1) * x.den := by gcongr

/-- **The exponent names the binade.** -/
theorem exponent_spec {x : ℚ} (hx : x ≠ 0) :
    (2 : ℚ) ^ exponent x ≤ |x| ∧ |x| < (2 : ℚ) ^ (exponent x + 1) := by
  obtain ⟨hlo, hhi⟩ := log2_sub_log2_spec hx
  rw [exponent]
  simp only [abs_eq]
  split
  · rename_i h
    exact ⟨h, hhi⟩
  · rename_i h
    refine ⟨hlo.le, ?_⟩
    rw [sub_add_cancel]
    exact lt_of_not_ge h

/-- Below a power of two the exponent is smaller than that of the power. -/
theorem exponent_lt_of_abs_lt {x : ℚ} (hx : x ≠ 0) {k : ℤ} (h : |x| < (2 : ℚ) ^ k) :
    exponent x < k :=
  (zpow_lt_zpow_iff_right₀ one_lt_two).1 ((exponent_spec hx).1.trans_lt h)

/-! ### Rounding to a double -/

theorem spacing_pos (x : ℚ) : 0 < spacing x := by
  rw [spacing]
  positivity

theorem spacing_le_of_abs_lt {x : ℚ} (hx : x ≠ 0) {k : ℤ} (hk : -1021 ≤ k)
    (h : |x| < (2 : ℚ) ^ k) : spacing x ≤ (2 : ℚ) ^ (k - 53) := by
  have hexp := exponent_lt_of_abs_lt hx h
  rw [spacing]
  exact zpow_le_zpow_right₀ one_le_two (by omega)

@[simp] theorem round_zero : round 0 = 0 := rfl

theorem round_of_ne_zero {x : ℚ} (hx : x ≠ 0) :
    round x = roundHalfEven (x / spacing x) * spacing x := by
  rw [round, if_neg hx]

/-- **Rounding moves a number by at most half the distance of the doubles around it.** -/
theorem abs_round_sub_le (x : ℚ) : |round x - x| ≤ spacing x / 2 := by
  have hpos := spacing_pos x
  rcases eq_or_ne x 0 with rfl | hx
  · rw [round_zero, sub_zero, abs_zero]
    positivity
  · have hsplit : round x - x = (roundHalfEven (x / spacing x) - x / spacing x) * spacing x := by
      rw [round_of_ne_zero hx]
      field_simp
    rw [hsplit, abs_mul, abs_of_pos hpos]
    have := mul_le_mul_of_nonneg_right (abs_roundHalfEven_sub_le (x / spacing x)) hpos.le
    linarith

/-- Below `2 ^ k` rounding moves a number by at most `2 ^ (k - 54)`. -/
theorem abs_round_sub_le_of_abs_lt {x : ℚ} {k : ℤ} (hk : -1021 ≤ k) (h : |x| < (2 : ℚ) ^ k) :
    |round x - x| ≤ (2 : ℚ) ^ (k - 54) := by
  rcases eq_or_ne x 0 with rfl | hx
  · rw [round_zero, sub_zero, abs_zero]
    positivity
  · calc |round x - x| ≤ spacing x / 2 := abs_round_sub_le x
      _ ≤ (2 : ℚ) ^ (k - 53) / 2 := by
          have := spacing_le_of_abs_lt hx hk h
          linarith
      _ = (2 : ℚ) ^ (k - 54) := by
          rw [show k - 53 = k - 54 + 1 by ring, zpow_add_one₀ two_ne_zero]
          ring

end Binary64

end DirectoryAccount
