import DirectoryAccount.Text.Integer
import DirectoryAccount.TwosComplement
import Mathlib.Algebra.Order.Ring.Int
import Mathlib.Tactic.Ring

/-!
# Bits and widths

An integer fits a width if its bits, from that of the sign on, are all the same. Put this way a
width is kept by every operation that goes bit by bit. So it is by `TwosComplement.union`, whatever
the signs: `Integer.fits_union`.

A bit is also the parity of what is left of the integer when the bits below it are divided off
(`TwosComplement.testBit_eq_decide`). Division rounds down, so this holds of both signs.
-/

namespace DirectoryAccount

namespace TwosComplement

/-- An integer is zero unless it has a bit. -/
theorem ne_zero_iff {v : Int} : v ≠ 0 ↔ ∃ i, testBit v i = true := by
  have hzero (i : Nat) : testBit 0 i = false := Nat.zero_testBit i
  constructor
  · intro hne
    by_contra hnone
    refine hne (eq_of_testBit_eq fun i ↦ ?_)
    rw [hzero, Bool.eq_false_iff]
    exact fun hi ↦ hnone ⟨i, hi⟩
  · rintro ⟨i, hi⟩ rfl
    rw [hzero] at hi
    cases hi

/-- A natural is below a power of two if its bits from there on are all zero. -/
theorem lt_one_shiftLeft_iff {k m : Nat} : m < 1 <<< k ↔ ∀ i, k ≤ i → m.testBit i = false := by
  rw [Nat.one_shiftLeft]
  constructor
  · intro h i hi
    exact Nat.testBit_lt_two_pow (h.trans_le (Nat.pow_le_pow_right two_pos hi))
  · exact fun h ↦ Nat.lt_pow_two_of_testBit m h

/-- **An integer fits a width if its bits from the sign on are all the same.** -/
theorem bounds_iff_testBit {k : Nat} {n : Int} :
    -((1 <<< k : Nat) : Int) ≤ n ∧ n < ((1 <<< k : Nat) : Int) ↔
      ∃ sign, ∀ i, k ≤ i → testBit n i = sign := by
  -- Bits of a natural that are all the same from there on are zero, because they are far enough up.
  have hlt {m : Nat} {sign : Bool} (h : ∀ i, k ≤ i → m.testBit i = sign) : m < 1 <<< k := by
    have hsign : sign = false :=
      (h (k + m) (Nat.le_add_right k m)).symm.trans (testBit_eq_false_of_lt (Nat.le_add_left m k))
    exact lt_one_shiftLeft_iff.2 fun i hi ↦ (h i hi).trans hsign
  cases n with
  | ofNat m =>
    rw [Int.ofNat_eq_natCast]
    constructor
    · rintro ⟨-, hhi⟩
      exact ⟨false, lt_one_shiftLeft_iff.1 (Int.ofNat_lt.1 hhi)⟩
    · rintro ⟨sign, h⟩
      have hm : m < 1 <<< k := hlt h
      omega
  | negSucc m =>
    constructor
    · rintro ⟨hlo, -⟩
      have hm : m < 1 <<< k := by omega
      exact ⟨true, fun i hi ↦ by rw [testBit, lt_one_shiftLeft_iff.1 hm i hi, Bool.not_false]⟩
    · rintro ⟨sign, h⟩
      have hm : m < 1 <<< k := hlt fun i hi ↦ Bool.not_eq_eq_eq_not.1 (h i hi)
      omega

/-- **A bit is the parity of the integer without the bits below it.** -/
theorem testBit_eq_decide (v : Int) (i : Nat) : testBit v i = decide (v / 2 ^ i % 2 = 1) := by
  have hcast : ((2 ^ i : Nat) : Int) = 2 ^ i := Nat.cast_pow 2 i
  cases v with
  | ofNat m =>
    have hdiv : (m : Int) / 2 ^ i = ((m / 2 ^ i : Nat) : Int) := by rw [Int.natCast_ediv, hcast]
    rw [testBit, Nat.testBit_eq_decide_div_mod_eq, Int.ofNat_eq_natCast, hdiv]
    exact decide_eq_decide.2 (by omega)
  | negSucc m =>
    have hdiv : Int.negSucc m / 2 ^ i = -(((m / 2 ^ i : Nat) : Int) + 1) := by
      rw [Int.negSucc_ediv m (pow_pos two_pos i), Int.natCast_ediv, hcast]
      rfl
    rw [testBit, Nat.testBit_eq_decide_div_mod_eq, hdiv, ← decide_not]
    exact decide_eq_decide.2 (by omega)

/-- A multiple of a power of two leaves the bits below that power alone. -/
theorem testBit_add_mul_two_pow (v k : Int) {i n : Nat} (h : i < n) :
    testBit (v + k * 2 ^ n) i = testBit v i := by
  obtain ⟨d, rfl⟩ := Nat.exists_eq_add_of_lt h
  have hshift : v + k * 2 ^ (i + d + 1) = v + k * 2 ^ d * 2 * 2 ^ i := by ring
  have hdiv : (v + k * 2 ^ (i + d + 1)) / 2 ^ i = v / 2 ^ i + k * 2 ^ d * 2 := by
    rw [hshift, Int.add_mul_ediv_right _ _ (pow_pos two_pos i).ne']
  rw [testBit_eq_decide, testBit_eq_decide, hdiv, Int.add_mul_emod_self_right]

theorem union_comm (a b : Int) : union a b = union b a :=
  eq_of_testBit_eq fun i ↦ by rw [testBit_union, testBit_union, Bool.or_comm]

end TwosComplement

/-- **The union of two integers of a width is of that width.** -/
theorem Integer.fits_union {bits a b : Int} (ha : Fits bits a) (hb : Fits bits b) :
    Fits bits (TwosComplement.union a b) := by
  obtain ⟨signA, hsignA⟩ := TwosComplement.bounds_iff_testBit.1 ha.2
  obtain ⟨signB, hsignB⟩ := TwosComplement.bounds_iff_testBit.1 hb.2
  refine ⟨ha.1, TwosComplement.bounds_iff_testBit.2 ⟨signA || signB, fun i hi ↦ ?_⟩⟩
  rw [TwosComplement.testBit_union, hsignA i hi, hsignB i hi]

end DirectoryAccount
