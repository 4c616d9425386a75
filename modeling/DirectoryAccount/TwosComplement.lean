/-!
# Bits of integers of any size

An integer of either sign read in two's complement, without end: a number that is not negative has
the bits of its value, and `-1 - m` has the opposite of the bits of `m`.

Union and intersection are given through the bitwise operations of the naturals.
`TwosComplement.testBit_union` and `TwosComplement.testBit_inter` say what they do bit by bit, and
`TwosComplement.eq_of_testBit_eq` that nothing else is left to say.
-/

namespace DirectoryAccount

namespace TwosComplement

/-- Bit `i` is set. -/
def testBit : Int → Nat → Bool
  | .ofNat m, i => m.testBit i
  | .negSucc m, i => !m.testBit i

/-- The bits of `m` that `n` does not have. -/
def without (m n : Nat) : Nat :=
  m ^^^ (m &&& n)

theorem testBit_without (m n i : Nat) :
    (without m n).testBit i = (m.testBit i && !n.testBit i) := by
  rw [without, Nat.testBit_xor, Nat.testBit_and]
  cases m.testBit i <;> cases n.testBit i <;> rfl

/-- The bits that either integer has. -/
def union : Int → Int → Int
  | .ofNat m, .ofNat n => .ofNat (m ||| n)
  | .ofNat m, .negSucc n => .negSucc (without n m)
  | .negSucc m, .ofNat n => .negSucc (without m n)
  | .negSucc m, .negSucc n => .negSucc (m &&& n)

/-- The bits that both integers have. -/
def inter : Int → Int → Int
  | .ofNat m, .ofNat n => .ofNat (m &&& n)
  | .ofNat m, .negSucc n => .ofNat (without m n)
  | .negSucc m, .ofNat n => .ofNat (without n m)
  | .negSucc m, .negSucc n => .negSucc (m ||| n)

@[simp] theorem testBit_union (a b : Int) (i : Nat) :
    testBit (union a b) i = (testBit a i || testBit b i) := by
  cases a <;> cases b <;> rename_i m n <;>
    simp only [union, testBit, Nat.testBit_or, Nat.testBit_and, testBit_without] <;>
    cases m.testBit i <;> cases n.testBit i <;> rfl

@[simp] theorem testBit_inter (a b : Int) (i : Nat) :
    testBit (inter a b) i = (testBit a i && testBit b i) := by
  cases a <;> cases b <;> rename_i m n <;>
    simp only [inter, testBit, Nat.testBit_or, Nat.testBit_and, testBit_without] <;>
    cases m.testBit i <;> cases n.testBit i <;> rfl

/-- Far enough up, all bits of a natural are zero. -/
theorem testBit_eq_false_of_lt {m i : Nat} (h : m ≤ i) : m.testBit i = false :=
  Nat.testBit_lt_two_pow (Nat.lt_of_le_of_lt h Nat.lt_two_pow_self)

/-- **The bits determine the integer**, its sign included. -/
theorem eq_of_testBit_eq {a b : Int} (h : ∀ i, testBit a i = testBit b i) : a = b := by
  cases a <;> cases b <;> rename_i m n
  · exact congrArg Int.ofNat (Nat.eq_of_testBit_eq h)
  · have := h (m + n)
    simp [testBit, testBit_eq_false_of_lt] at this
  · have := h (m + n)
    simp [testBit, testBit_eq_false_of_lt] at this
  · exact congrArg Int.negSucc (Nat.eq_of_testBit_eq fun i ↦ by simpa [testBit] using h i)

end TwosComplement

end DirectoryAccount
