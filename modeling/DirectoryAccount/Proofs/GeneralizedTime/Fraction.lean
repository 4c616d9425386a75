import DirectoryAccount.GeneralizedTime.Reading
import DirectoryAccount.Proofs.Binary64.Nearest
import DirectoryAccount.Proofs.Text.Decimal

/-!
# The microseconds of a fraction

A fraction of a unit of time is read in four steps: the digits become a double, the double becomes
seconds, the seconds fall into whole ones and a part below, and that part becomes microseconds. The
last two steps are `Binary64.microsOfSeconds`. Each step keeps the order, so the whole does:
`WrittenFraction.micros_mono`. And each step but the last moves the number by far less than a
microsecond, which leaves hardly more than the half of the last:
`WrittenFraction.abs_micros_sub_le`.

Where a fraction denotes a whole number of microseconds that is not enough to miss it:
`WrittenFraction.micros_of_toRat`.
-/

namespace DirectoryAccount

/-! ### Digits behind a point -/

namespace Digit

/-- The number of digits behind a point, each of which counts a tenth of the one before. -/
def fraction (ds : List Digit) : ℚ :=
  ds.foldr (fun d rest ↦ (d.val + rest) / 10) 0

theorem value_div_eq_fraction (ds : List Digit) :
    (value ds : ℚ) / 10 ^ ds.length = fraction ds := by
  induction ds with
  | nil => exact zero_div _
  | cons d ds ih =>
    have hvalue : value (d :: ds) = d.val * 10 ^ ds.length + value ds := by
      rw [← List.singleton_append, value_append]
      simp [value]
    rw [fraction, List.foldr_cons, ← fraction, ← ih, hvalue, List.length_cons]
    push_cast
    field_simp
    ring

end Digit

/-! ### From seconds to microseconds -/

namespace Binary64

/-- The microseconds in so many seconds, where the part below a second goes by way of doubles. -/
def microsOfSeconds (s : ℚ) : ℤ :=
  s.floor * 1000000 + roundHalfEven (round ((s - s.floor) * 1000000))

/-- The microseconds lie between those of the whole seconds around. -/
theorem microsOfSeconds_bounds (s : ℚ) :
    s.floor * 1000000 ≤ microsOfSeconds s ∧ microsOfSeconds s ≤ (s.floor + 1) * 1000000 := by
  have hlo : (s.floor : ℚ) ≤ s := Rat.floor_le s
  have hhi : s < s.floor + 1 := by exact_mod_cast Rat.lt_floor_add_one s
  have hmillion : IsDouble ((1000000 : ℤ) : ℚ) := isDouble_intCast (by decide)
  have hrest₀ : 0 ≤ roundHalfEven (round ((s - s.floor) * 1000000)) :=
    le_roundHalfEven (by
      rw [Int.cast_zero]
      exact round_nonneg (by linarith))
  have hrest₁ : roundHalfEven (round ((s - s.floor) * 1000000)) ≤ 1000000 :=
    roundHalfEven_le (round_le hmillion (by push_cast; linarith))
  rw [microsOfSeconds]
  constructor <;> linarith

/-- More seconds are no fewer microseconds, also where the whole seconds change. -/
theorem microsOfSeconds_mono {s t : ℚ} (hst : s ≤ t) : microsOfSeconds s ≤ microsOfSeconds t := by
  rcases (Rat.floor_monotone hst).lt_or_eq with hlt | heq
  · have hs := (microsOfSeconds_bounds s).2
    have ht := (microsOfSeconds_bounds t).1
    linarith
  · rw [microsOfSeconds, microsOfSeconds, heq]
    gcongr
    exact roundHalfEven_mono (round_mono (by linarith))

theorem microsOfSeconds_natCast (n : ℕ) : microsOfSeconds n = n * 1000000 := by
  have hfloor : (n : ℚ).floor = n := Rat.floor_intCast n
  rw [microsOfSeconds, hfloor, Int.cast_natCast, sub_self, zero_mul, round_zero]
  simpa using roundHalfEven_intCast 0

/-- The microseconds are right up to one half and the error of one double. -/
theorem abs_microsOfSeconds_sub_le (s : ℚ) :
    |(microsOfSeconds s : ℚ) - s * 1000000| ≤ 1 / 2 + 1 / 2 ^ 34 := by
  have hlo : (s.floor : ℚ) ≤ s := Rat.floor_le s
  have hhi : s < s.floor + 1 := by exact_mod_cast Rat.lt_floor_add_one s
  have hscaled := abs_round_sub_le_of_abs_lt (x := (s - s.floor) * 1000000) (k := 20) (by norm_num)
    (by rw [abs_of_nonneg (by linarith)]; norm_num; linarith)
  have hinteger := abs_roundHalfEven_sub_le (round ((s - s.floor) * 1000000))
  norm_num at hscaled
  rw [abs_le] at *
  rw [microsOfSeconds]
  push_cast
  constructor <;> linarith

end Binary64

/-- No unit of a clock reading is longer than an hour. -/
theorem WrittenClock.unit_le (c : WrittenClock) : c.unit ≤ 3600 := by
  cases c <;> simp [unit]

namespace WrittenFraction

variable {f g : WrittenFraction} {unit : ℕ}

/-! ### The number of a fraction -/

theorem toRat_nonneg (f : WrittenFraction) : 0 ≤ f.toRat := by
  rw [toRat]
  positivity

theorem toRat_lt_one (f : WrittenFraction) : f.toRat < 1 := by
  rw [toRat, div_lt_one (by positivity)]
  exact_mod_cast Digit.value_lt f.digits

/-- The number of a fraction is that of its digits behind a point. -/
theorem toRat_eq_fraction (f : WrittenFraction) : f.toRat = Digit.fraction f.digits := by
  rw [toRat, Digit.value_div_eq_fraction]

/-- Zeros at the end, and the mark in front, make no difference to the number. -/
theorem toRat_append_zeros (mark : FractionMark) (f : WrittenFraction) (n : ℕ) :
    toRat ⟨mark, f.first, f.others ++ List.replicate n 0⟩ = f.toRat := by
  have hdigits : digits ⟨mark, f.first, f.others ++ List.replicate n 0⟩ =
      f.digits ++ List.replicate n 0 := rfl
  have hzeros : Digit.value (List.replicate n 0) = 0 :=
    Digit.value_eq_zero fun d hd ↦ List.eq_of_mem_replicate hd
  rw [toRat, toRat, hdigits, Digit.value_append, hzeros, List.length_append, List.length_replicate,
    add_zero, pow_add, Nat.cast_mul, Nat.cast_pow]
  exact mul_div_mul_right _ _ (by positivity)

theorem toRat_eq_zero (h : ∀ d ∈ f.digits, d = 0) : f.toRat = 0 := by
  rw [toRat, Digit.value_eq_zero h, Nat.cast_zero, zero_div]

/-! ### The microseconds of a fraction -/

theorem micros_eq (f : WrittenFraction) (unit : ℕ) :
    f.micros unit =
      Binary64.microsOfSeconds (Binary64.round (Binary64.round f.toRat * unit)) := rfl

/-- The microseconds are a matter of the number, not of the digits. -/
theorem micros_congr (h : f.toRat = g.toRat) (unit : ℕ) : f.micros unit = g.micros unit := by
  rw [micros_eq, micros_eq, h]

/-- **A larger fraction is no fewer microseconds.** -/
theorem micros_mono (h : f.toRat ≤ g.toRat) (unit : ℕ) : f.micros unit ≤ g.micros unit := by
  rw [micros_eq, micros_eq]
  refine Binary64.microsOfSeconds_mono (Binary64.round_mono ?_)
  exact mul_le_mul_of_nonneg_right (Binary64.round_mono h) (Nat.cast_nonneg unit)

theorem micros_of_toRat_eq_zero (h : f.toRat = 0) (unit : ℕ) : f.micros unit = 0 := by
  rw [micros_eq, h, Binary64.round_zero, zero_mul, Binary64.round_zero]
  simpa using Binary64.microsOfSeconds_natCast 0

/-- A fraction of a unit is nothing less than nothing and nothing more than the unit. -/
theorem micros_bounds (f : WrittenFraction) (hunit : unit ≤ 3600) :
    0 ≤ f.micros unit ∧ f.micros unit ≤ unit * 1000000 := by
  have hround₀ := Binary64.round_nonneg f.toRat_nonneg
  have hround₁ : Binary64.round f.toRat ≤ 1 := by
    have hone := Binary64.isDouble_natCast (n := 1) (by decide)
    exact_mod_cast Binary64.round_le hone (by exact_mod_cast f.toRat_lt_one.le)
  have hdouble : Binary64.IsDouble unit := Binary64.isDouble_natCast (by omega)
  have hseconds₀ : 0 ≤ Binary64.round (Binary64.round f.toRat * unit) :=
    Binary64.round_nonneg (by positivity)
  have hseconds₁ : Binary64.round (Binary64.round f.toRat * unit) ≤ unit :=
    Binary64.round_le hdouble (mul_le_of_le_one_left (Nat.cast_nonneg unit) hround₁)
  rw [micros_eq]
  constructor
  · simpa using (Binary64.microsOfSeconds_natCast 0).symm.trans_le
      (Binary64.microsOfSeconds_mono (by exact_mod_cast hseconds₀))
  · exact (Binary64.microsOfSeconds_mono hseconds₁).trans_eq
      (Binary64.microsOfSeconds_natCast unit)

/-- **The microseconds are right up to little more than one half.** -/
theorem abs_micros_sub_le (f : WrittenFraction) (hunit : unit ≤ 3600) :
    |(f.micros unit : ℚ) - f.toRat * unit * 1000000| ≤ 500001 / 1000000 := by
  have hf₀ := f.toRat_nonneg
  have hf₁ := f.toRat_lt_one
  have hunit' : (unit : ℚ) ≤ 3600 := by exact_mod_cast hunit
  -- the digits as a double
  have hx := Binary64.abs_round_sub_le_of_abs_lt (x := f.toRat) (k := 0) (by norm_num)
    (by rw [abs_of_nonneg hf₀]; simpa using hf₁)
  have hx₀ := Binary64.round_nonneg hf₀
  rw [micros_eq]
  generalize Binary64.round f.toRat = x at *
  have hscaled : |x * unit - f.toRat * unit| ≤ (2 : ℚ) ^ (0 - 54 : ℤ) * 3600 := by
    rw [← sub_mul, abs_mul, Nat.abs_cast]
    gcongr
  norm_num [abs_le] at hx hscaled
  -- the seconds
  have hy := Binary64.abs_round_sub_le_of_abs_lt (x := x * unit) (k := 12) (by norm_num)
    (by
      rw [abs_of_nonneg (by positivity)]
      calc x * unit ≤ 11 / 10 * 3600 := by gcongr; linarith
        _ < 2 ^ (12 : ℤ) := by norm_num)
  norm_num [abs_le] at hy
  generalize Binary64.round (x * unit) = y at *
  -- the microseconds
  have hz := abs_le.1 (Binary64.abs_microsOfSeconds_sub_le y)
  norm_num at hz
  rw [abs_le]
  constructor <;> linarith

/-- **Whole microseconds are read exactly.** -/
theorem micros_of_toRat {n : ℕ} (hf : f.toRat = n / 1000000) : f.micros 1 = n := by
  have herror := f.abs_micros_sub_le (show 1 ≤ 3600 by decide)
  rw [hf, Nat.cast_one, mul_one, div_mul_cancel₀ _ (by norm_num)] at herror
  have hclose : |((f.micros 1 - n : ℤ) : ℚ)| < 1 := by
    push_cast
    linarith
  have hdist : |f.micros 1 - n| < 1 := by exact_mod_cast hclose
  rw [abs_lt] at hdist
  omega

/-- Milliseconds are read as a thousand microseconds each. -/
theorem elim_micros_ofMillis (n : Fin 1000) :
    ((ofMillis? n).elim 0 fun f ↦ f.micros 1) = ((n.val * 1000 : ℕ) : ℤ) := by
  rw [ofMillis?]
  split
  · rename_i hzero
    rw [hzero]
    rfl
  · refine micros_of_toRat ?_
    have hvalue : Digit.value ((Digit.ofTriple n).1 :: (Digit.ofTriple n).2) = n.val := by
      simp only [Digit.value, Digit.ofTriple, List.foldl]
      omega
    rw [toRat, digits, hvalue, Digit.ofTriple]
    push_cast
    norm_num
    ring

end WrittenFraction

theorem WrittenTime.fractionMicros_eq_elim (w : WrittenTime) :
    w.fractionMicros = w.fraction.elim 0 fun f ↦ f.micros w.clock.unit := by
  rw [WrittenTime.fractionMicros]
  cases w.fraction <;> rfl

end DirectoryAccount
