import DirectoryAccount.Proofs.Binary64.ErrorBound

/-!
# Rounding is to the nearest double

`Binary64.round` goes by the spacing around the number that it rounds, and does not say which
numbers the doubles are. `Binary64.IsDouble` says it: the integers of up to 53 bits, at any scale
that is not finer than `2 ^ (-1074)`.

**Rounding is correct**: the result is a double (`isDouble_round`), and no double is nearer
(`abs_round_sub_le_abs`), so a double rounds to itself (`round_eq_self`). The multiples of the
spacing around a number are not all the doubles there are, because toward zero the doubles lie
closer. But the way from a number to a double always leads over a multiple,
`exists_mul_spacing_between`, and so the finer doubles are never nearer.

What rounding does to order follows from these two facts and no longer needs the spacing:
`round_mono`, and `round_le` and `le_round`, which say that no double is crossed.
-/

namespace DirectoryAccount

/-! ### The nearest integer -/

/-- **No integer is nearer** than the one that a number rounds to. -/
theorem abs_roundHalfEven_sub_le_abs (x : ℚ) (n : ℤ) : |(roundHalfEven x : ℚ) - x| ≤ |n - x| := by
  rcases lt_or_ge |x - n| (1 / 2) with h | h
  · rw [roundHalfEven_eq_of_abs_sub_lt h]
  · rw [abs_sub_comm x] at h
    exact (abs_roundHalfEven_sub_le x).trans h

@[simp] theorem roundHalfEven_intCast (n : ℤ) : roundHalfEven n = n :=
  roundHalfEven_eq_of_abs_sub_lt (by norm_num)

theorem roundHalfEven_mono {x y : ℚ} (h : x ≤ y) : roundHalfEven x ≤ roundHalfEven y := by
  have hx := abs_le.1 (abs_roundHalfEven_sub_le x)
  have hy := abs_le.1 (abs_roundHalfEven_sub_le y)
  by_contra hlt
  have hstep : (roundHalfEven y : ℚ) + 1 ≤ roundHalfEven x := by exact_mod_cast not_le.1 hlt
  -- Both lie halfway between the same integers, so they are one number.
  have heq : x = y := by linarith
  exact hlt (heq ▸ le_rfl)

/-- Rounding does not cross an integer. -/
theorem roundHalfEven_le {x : ℚ} {n : ℤ} (h : x ≤ n) : roundHalfEven x ≤ n :=
  (roundHalfEven_mono h).trans_eq (roundHalfEven_intCast n)

theorem le_roundHalfEven {x : ℚ} {n : ℤ} (h : (n : ℚ) ≤ x) : n ≤ roundHalfEven x :=
  (roundHalfEven_intCast n).symm.trans_le (roundHalfEven_mono h)

/-- Rounding commutes with adding an even integer, which keeps the parity of the neighbours. -/
theorem roundHalfEven_add_intCast (x : ℚ) {n : ℤ} (hn : Even n) :
    roundHalfEven (x + n) = roundHalfEven x + n := by
  have hexcess : x + n - ((x.floor + n : ℤ) : ℚ) = x - x.floor := by
    push_cast
    ring
  have hparity : (x.floor + n) % 2 = 0 ↔ x.floor % 2 = 0 := by
    obtain ⟨k, rfl⟩ := hn
    omega
  simp only [roundHalfEven, Rat.floor_add_intCast, hexcess, hparity]
  split_ifs <;> ring

/-- **A half goes to the even integer**, so all numbers up to a half away from one round to it. -/
theorem roundHalfEven_eq_iff_of_even {x : ℚ} {n : ℤ} (hn : Even n) :
    roundHalfEven x = n ↔ |x - n| ≤ 1 / 2 := by
  constructor
  · rintro rfl
    rw [abs_sub_comm]
    exact abs_roundHalfEven_sub_le x
  · intro h
    rcases h.lt_or_eq with hlt | hhalf
    · exact roundHalfEven_eq_of_abs_sub_lt hlt
    · have hzero : roundHalfEven (x - n) = 0 := by
        rcases eq_or_eq_neg_of_abs_eq hhalf with h | h <;> rw [h] <;> decide +kernel
      have hsum := roundHalfEven_add_intCast (x - n) hn
      rwa [sub_add_cancel, hzero, zero_add] at hsum

namespace Binary64

/-! ### The doubles -/

/-- A number is a double, if there is no largest: an integer of up to 53 bits at a scale that is not
finer than that of the smallest doubles. -/
def IsDouble (d : ℚ) : Prop :=
  ∃ m e : ℤ, d = m * (2 : ℚ) ^ e ∧ |m| ≤ 2 ^ 53 ∧ -1074 ≤ e

theorem isDouble_intCast {n : ℤ} (h : |n| ≤ 2 ^ 53) : IsDouble n :=
  ⟨n, 0, by rw [zpow_zero, mul_one], h, by decide⟩

theorem isDouble_natCast {n : ℕ} (h : n ≤ 2 ^ 53) : IsDouble n :=
  isDouble_intCast (n := n) (by rw [Nat.abs_cast]; exact_mod_cast h)

theorem isDouble_zero : IsDouble 0 :=
  isDouble_natCast (n := 0) (by decide)

theorem isDouble_two_zpow {k : ℤ} (hk : -1074 ≤ k) : IsDouble ((2 : ℚ) ^ k) :=
  ⟨1, k, by rw [Int.cast_one, one_mul], by decide, hk⟩

theorem IsDouble.neg {d : ℚ} (hd : IsDouble d) : IsDouble (-d) := by
  obtain ⟨m, e, rfl, hm, he⟩ := hd
  exact ⟨-m, e, by rw [Int.cast_neg, neg_mul], by rwa [abs_neg], he⟩

/-! ### The multiples of the spacing -/

@[simp] theorem spacing_neg (x : ℚ) : spacing (-x) = spacing x := by
  simp only [spacing, exponent, abs_eq, abs_neg, Rat.neg_num, Int.natAbs_neg, Rat.neg_den]

/-- Fifty-two bits above the spacing stands the power of two below the number, unless the spacing is
the smallest there is. -/
theorem two_pow_mul_spacing {x : ℚ} (h : -1074 ≤ exponent x - 52) :
    (2 : ℚ) ^ 52 * spacing x = (2 : ℚ) ^ exponent x := by
  rw [spacing, max_eq_left h, ← zpow_natCast, ← zpow_add₀ two_ne_zero]
  congr 1
  push_cast
  ring

/-- A double that is not finer than the spacing is a multiple of it. -/
theorem exists_mul_spacing_eq {x : ℚ} {m e : ℤ} (h : max (exponent x - 52) (-1074) ≤ e) :
    ∃ n : ℤ, (n : ℚ) * spacing x = m * (2 : ℚ) ^ e := by
  obtain ⟨k, hk⟩ := Int.le.dest h
  refine ⟨m * 2 ^ k, ?_⟩
  rw [spacing, ← hk, zpow_add₀ two_ne_zero, zpow_natCast]
  push_cast
  ring

/-- **Before a double comes a multiple of the spacing**, on the way up. -/
theorem exists_mul_spacing_between {x d : ℚ} (hx : x ≠ 0) (hd : IsDouble d) (h : x ≤ d) :
    ∃ n : ℤ, x ≤ n * spacing x ∧ n * spacing x ≤ d := by
  obtain ⟨m, e, rfl, hm, he⟩ := hd
  rcases le_or_gt (max (exponent x - 52) (-1074)) e with hcoarse | hfine
  · obtain ⟨n, hn⟩ := exists_mul_spacing_eq (m := m) hcoarse
    exact ⟨n, by rwa [hn], hn.le⟩
  · -- A finer double is no larger than the power of two below `x`, which is a multiple itself.
    have hexp : e + 53 ≤ exponent x := by omega
    have hpow := two_pow_mul_spacing (x := x) (by omega)
    have hlo := (exponent_spec hx).1
    have hscale : (0 : ℚ) < 2 ^ e := zpow_pos two_pos e
    have hsmall : |(m : ℚ) * (2 : ℚ) ^ e| ≤ (2 : ℚ) ^ exponent x := by
      have hm' : |(m : ℚ)| ≤ 2 ^ 53 := by exact_mod_cast hm
      calc |(m : ℚ) * (2 : ℚ) ^ e| = |(m : ℚ)| * (2 : ℚ) ^ e := by
            rw [abs_mul, abs_of_pos hscale]
        _ ≤ 2 ^ 53 * (2 : ℚ) ^ e := by gcongr
        _ = (2 : ℚ) ^ (e + 53) := by
            rw [zpow_add₀ two_ne_zero, mul_comm]
            rfl
        _ ≤ (2 : ℚ) ^ exponent x := zpow_le_zpow_right₀ one_le_two hexp
    rw [abs_le] at hsmall
    rcases lt_or_gt_of_ne hx with hneg | hpos
    · rw [abs_of_neg hneg] at hlo
      refine ⟨-2 ^ 52, ?_, ?_⟩ <;> push_cast <;> linarith
    · rw [abs_of_pos hpos] at hlo
      refine ⟨2 ^ 52, ?_, ?_⟩ <;> push_cast <;> linarith

/-- No multiple of the spacing is nearer than the one that a number rounds to. -/
theorem abs_round_sub_le_abs_mul_spacing {x : ℚ} (hx : x ≠ 0) (n : ℤ) :
    |round x - x| ≤ |n * spacing x - x| := by
  have hpos := spacing_pos x
  have hscale (k : ℤ) : |k * spacing x - x| = |(k : ℚ) - x / spacing x| * spacing x := by
    rw [← abs_of_pos hpos, ← abs_mul, abs_of_pos hpos, sub_mul, div_mul_cancel₀ x hpos.ne']
  rw [round_of_ne_zero hx, hscale, hscale]
  exact mul_le_mul_of_nonneg_right (abs_roundHalfEven_sub_le_abs _ n) hpos.le

/-! ### Correct rounding -/

/-- **The result of rounding is a double.** -/
theorem isDouble_round (x : ℚ) : IsDouble (round x) := by
  rcases eq_or_ne x 0 with rfl | hx
  · exact isDouble_zero
  · refine ⟨roundHalfEven (x / spacing x), _, round_of_ne_zero hx, ?_, le_max_right _ _⟩
    have hpos := spacing_pos x
    have hfits : |x| ≤ 2 ^ 53 * spacing x := by
      calc |x| ≤ (2 : ℚ) ^ (exponent x + 1) := (exponent_spec hx).2.le
        _ = 2 ^ 53 * (2 : ℚ) ^ (exponent x - 52) := by
            rw [← zpow_natCast, ← zpow_add₀ two_ne_zero]
            congr 1
            push_cast
            ring
        _ ≤ 2 ^ 53 * spacing x := by
            rw [spacing]
            gcongr
            · exact one_le_two
            · exact le_max_left _ _
    rw [abs_le] at hfits ⊢
    refine ⟨le_roundHalfEven ?_, roundHalfEven_le ?_⟩
    · rw [le_div_iff₀ hpos]
      push_cast
      linarith
    · rw [div_le_iff₀ hpos]
      push_cast
      linarith

/-- **No double is nearer** than the one that a number rounds to. -/
theorem abs_round_sub_le_abs {d : ℚ} (hd : IsDouble d) (x : ℚ) : |round x - x| ≤ |d - x| := by
  rcases eq_or_ne x 0 with rfl | hx
  · rw [round_zero, sub_zero, abs_zero]
    exact abs_nonneg _
  · rcases le_total x d with h | h
    · obtain ⟨n, hxn, hnd⟩ := exists_mul_spacing_between hx hd h
      refine (abs_round_sub_le_abs_mul_spacing hx n).trans ?_
      rw [abs_of_nonneg (by linarith), abs_of_nonneg (by linarith)]
      linarith
    · obtain ⟨n, hxn, hnd⟩ := exists_mul_spacing_between (neg_ne_zero.2 hx) hd.neg (neg_le_neg h)
      rw [spacing_neg] at hxn hnd
      refine (abs_round_sub_le_abs_mul_spacing hx (-n)).trans ?_
      push_cast
      rw [abs_of_nonpos (by linarith), abs_of_nonpos (by linarith)]
      linarith

/-- A double rounds to itself. -/
theorem round_eq_self {d : ℚ} (hd : IsDouble d) : round d = d := by
  have h := abs_round_sub_le_abs hd d
  rw [sub_self, abs_zero] at h
  exact sub_eq_zero.1 (abs_nonpos_iff.1 h)

/-- Rounding does not cross a double. -/
theorem round_le {x d : ℚ} (hd : IsDouble d) (h : x ≤ d) : round x ≤ d := by
  have hnear := abs_round_sub_le_abs hd x
  rw [abs_of_nonneg (sub_nonneg.2 h)] at hnear
  linarith [(abs_le.1 hnear).2]

theorem le_round {x d : ℚ} (hd : IsDouble d) (h : d ≤ x) : d ≤ round x := by
  have hnear := abs_round_sub_le_abs hd x
  rw [abs_of_nonpos (sub_nonpos.2 h)] at hnear
  linarith [(abs_le.1 hnear).1]

theorem round_nonneg {x : ℚ} (hx : 0 ≤ x) : 0 ≤ round x :=
  le_round isDouble_zero hx

/-- **Rounding keeps the order.** -/
theorem round_mono {x y : ℚ} (hxy : x ≤ y) : round x ≤ round y := by
  by_contra hlt
  have hlt := not_le.1 hlt
  -- Neither result lies between the two numbers, or one of them would not be crossed.
  have hy : round y < x := by
    by_contra h
    exact hlt.not_ge (round_le (isDouble_round y) (not_lt.1 h))
  have hx : y < round x := by
    by_contra h
    exact hlt.not_ge (le_round (isDouble_round x) (not_lt.1 h))
  -- So each is at least as near to the result of the other, which makes them one number.
  have hnearx := abs_round_sub_le_abs (isDouble_round y) x
  have hneary := abs_round_sub_le_abs (isDouble_round x) y
  rw [abs_of_pos (by linarith), abs_of_neg (by linarith)] at hnearx
  rw [abs_of_neg (by linarith), abs_of_pos (by linarith)] at hneary
  have heq : x = y := by linarith
  exact hlt.ne (heq ▸ rfl)

end Binary64

end DirectoryAccount
