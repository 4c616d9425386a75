import DirectoryAccount.ControlFlag

/-!
# Flags and bits

Every flag is one bit, so a control value holds a flag exactly when that bit is set in its two's
complement.
-/

namespace DirectoryAccount

/-- The number with one bit has no other. -/
theorem TwosComplement.testBit_one_shiftLeft (k i : Nat) :
    testBit ((1 <<< k : Nat) : Int) i = decide (k = i) := by
  show (1 <<< k).testBit i = _
  rw [Nat.one_shiftLeft, Nat.testBit_two_pow]

/-- **A value holds a single bit exactly when that bit is set.** -/
theorem hasFlags_one_shiftLeft_iff {value : Option Int} {k : Nat} :
    hasFlags value ((1 <<< k : Nat) : Int) ↔
      ∃ v, value = some v ∧ TwosComplement.testBit v k := by
  cases value with
  | none => simp [hasFlags]
  | some v =>
    simp only [hasFlags, decide_eq_true_eq, Option.some.injEq, exists_eq_left']
    constructor
    · intro h
      have hbit := TwosComplement.testBit_inter v ((1 <<< k : Nat) : Int) k
      rw [h, TwosComplement.testBit_one_shiftLeft] at hbit
      simpa using hbit.symm
    · intro h
      refine TwosComplement.eq_of_testBit_eq fun i ↦ ?_
      rw [TwosComplement.testBit_inter, TwosComplement.testBit_one_shiftLeft]
      by_cases hi : k = i
      · simp [← hi, h]
      · simp [hi]

/-- **A value holds a flag exactly when the bit of the flag is set.** -/
theorem ControlFlag.hasFlags_mask_iff {value : Option Int} {f : ControlFlag} :
    hasFlags value f.mask ↔ ∃ v, value = some v ∧ TwosComplement.testBit v f.bit :=
  hasFlags_one_shiftLeft_iff

end DirectoryAccount
