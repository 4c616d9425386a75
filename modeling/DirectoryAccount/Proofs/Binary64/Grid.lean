import DirectoryAccount.Proofs.Binary64.Nearest

/-!
# Grids of doubles

The integer multiples of a power of two form a grid (`Binary64.OnGrid`), and differences stay on it.
So a difference of doubles is exact as soon as it is not too large for the grid that both lie on:
`Binary64.OnGrid.isDouble`. Which grid that is follows from the size of the number that was rounded,
`Binary64.onGrid_round`.
-/

namespace DirectoryAccount

namespace Binary64

/-- A number is an integer multiple of `2 ^ e`. -/
def OnGrid (e : ℤ) (x : ℚ) : Prop :=
  ∃ m : ℤ, x = m * (2 : ℚ) ^ e

variable {e e' k : ℤ} {x y : ℚ}

/-- A grid contains the coarser ones. -/
theorem OnGrid.of_le (hx : OnGrid e x) (h : e' ≤ e) : OnGrid e' x := by
  obtain ⟨m, rfl⟩ := hx
  obtain ⟨n, rfl⟩ := Int.le.dest h
  refine ⟨m * 2 ^ n, ?_⟩
  rw [zpow_add₀ two_ne_zero, zpow_natCast]
  push_cast
  ring

theorem OnGrid.sub (hx : OnGrid e x) (hy : OnGrid e y) : OnGrid e (x - y) := by
  obtain ⟨m, rfl⟩ := hx
  obtain ⟨n, rfl⟩ := hy
  exact ⟨m - n, by rw [Int.cast_sub, sub_mul]⟩

theorem onGrid_intCast (n : ℤ) (he : e ≤ 0) : OnGrid e n :=
  OnGrid.of_le ⟨n, by rw [zpow_zero, mul_one]⟩ he

theorem onGrid_natCast (n : ℕ) (he : e ≤ 0) : OnGrid e n :=
  onGrid_intCast n he

/-- **A number on a grid is a double** if 53 bits reach it from there. -/
theorem OnGrid.isDouble (hx : OnGrid e x) (he : -1074 ≤ e) (h : |x| ≤ (2 : ℚ) ^ (e + 53)) :
    IsDouble x := by
  obtain ⟨m, rfl⟩ := hx
  refine ⟨m, e, rfl, ?_, he⟩
  have hscale : (0 : ℚ) < 2 ^ e := zpow_pos two_pos e
  rw [abs_mul, abs_of_pos hscale, add_comm, zpow_add₀ two_ne_zero] at h
  exact_mod_cast le_of_mul_le_mul_right h hscale

/-- **The larger a number is, the coarser is the grid** of the double that it rounds to. -/
theorem onGrid_round (h : (2 : ℚ) ^ k ≤ |x|) : OnGrid (k - 52) (round x) := by
  have hx : x ≠ 0 := by
    rintro rfl
    rw [abs_zero] at h
    exact absurd (zpow_pos two_pos k) h.not_gt
  have hexp : k < exponent x + 1 :=
    (zpow_lt_zpow_iff_right₀ one_lt_two).1 (h.trans_lt (exponent_spec hx).2)
  rw [round_of_ne_zero hx, spacing]
  exact OnGrid.of_le ⟨_, rfl⟩ (by omega)

end Binary64

end DirectoryAccount
