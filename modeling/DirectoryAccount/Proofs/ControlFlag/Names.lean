import DirectoryAccount.Proofs.ControlFlag
import DirectoryAccount.Proofs.TwosComplement
import Mathlib.Data.List.Nodup

/-!
# Names of flags

Two helpers look at the flags of a control value in different ways. `ControlFlag.namesIn` lists the
flags that share a bit with it, `hasFlags` asks for every bit of a combination. For a combination of
several flags these are different questions. For one flag they are the same, because a flag is one
bit, and both come down to `TwosComplement.testBit`.

Main statement: `ControlFlag.namesIn_agrees_hasFlags`. What is listed is what can be asked for, and
both follow the bits of the value, whatever its size and its sign.

**Only the lowest 32 bits matter to names** (`ControlFlag.bit_lt`), so a multiple of `2 ^ 32` may be
added: an unsigned value and the signed one of the same 32 bits have the same flags.
-/

namespace DirectoryAccount

open TwosComplement

/-! ### Combinations of flags -/

/-- **A value holds a combination exactly when it has every bit of it.** -/
theorem hasFlags_some_iff {v flags : Int} :
    hasFlags (some v) flags = true ↔ ∀ i, testBit flags i = true → testBit v i = true := by
  rw [hasFlags, decide_eq_true_eq]
  constructor
  · intro h i hi
    rw [← h, testBit_inter, Bool.and_eq_true] at hi
    exact hi.1
  · intro h
    refine eq_of_testBit_eq fun i ↦ ?_
    rw [testBit_inter, Bool.and_eq_right_iff_imp]
    exact h i

/-- Asking for two combinations at once is asking for each. -/
theorem hasFlags_union (value : Option Int) (f g : Int) :
    hasFlags value (union f g) = (hasFlags value f && hasFlags value g) := by
  cases value with
  | none => rfl
  | some v =>
    rw [Bool.eq_iff_iff, Bool.and_eq_true, hasFlags_some_iff, hasFlags_some_iff, hasFlags_some_iff]
    simp only [testBit_union, Bool.or_eq_true, or_imp, forall_and]

namespace ControlFlag

variable {v w : Int} {f : ControlFlag}

/-- Every flag is within the lowest 32 bits. -/
theorem bit_lt (f : ControlFlag) : f.bit < 32 := by
  cases f <;> decide

/-- The flags are listed from the lowest bit up. -/
theorem pairwise_bit_all : all.Pairwise fun f g ↦ f.bit < g.bit := by
  decide

theorem ofName?_name (f : ControlFlag) : ofName? f.name = some f := by
  cases f <;> decide

/-- No two flags share a name. -/
theorem name_injective : Function.Injective name := by
  intro f g h
  rw [← Option.some.injEq, ← ofName?_name f, h, ofName?_name]

theorem hasFlags_some_mask_iff : hasFlags (some v) f.mask = true ↔ testBit v f.bit = true := by
  rw [hasFlags_mask_iff]
  simp only [Option.some.injEq, exists_eq_left']

/-- A value shares a bit with a flag exactly when it has the only one there is to share. -/
theorem inter_mask_ne_zero_iff : inter v f.mask ≠ 0 ↔ testBit v f.bit = true := by
  simp only [ne_zero_iff, testBit_inter, mask, testBit_one_shiftLeft, Bool.and_eq_true,
    decide_eq_true_eq, exists_eq_right']

/-- Of two flags together a value can share a bit without holding both. -/
example : inter 0x10000 (combine [passwordNeverExpires, passwordExpired]) ≠ 0 ∧
    hasFlags (some 0x10000) (combine [passwordNeverExpires, passwordExpired]) = false := by
  decide

/-! ### The flags in a value -/

/-- The flags whose bits are set in a value, from the lowest bit up. -/
def flagsIn (v : Int) : List ControlFlag :=
  all.filter fun f ↦ testBit v f.bit

theorem mem_flagsIn : f ∈ flagsIn v ↔ testBit v f.bit = true := by
  rw [flagsIn, List.mem_filter]
  exact and_iff_right (mem_all f)

theorem pairwise_bit_flagsIn (v : Int) : (flagsIn v).Pairwise fun f g ↦ f.bit < g.bit :=
  pairwise_bit_all.filter _

/-- Values that agree on the lowest 32 bits have the same flags. -/
theorem flagsIn_congr (h : ∀ i < 32, testBit v i = testBit w i) : flagsIn v = flagsIn w :=
  List.filter_congr fun f _ ↦ h f.bit f.bit_lt

theorem namesIn_eq (v : Int) : namesIn v = (flagsIn v).map name := by
  have hfilter : (all.filter fun f ↦ inter v f.mask ≠ 0) = flagsIn v := by
    refine List.filter_congr fun f _ ↦ ?_
    rw [Bool.eq_iff_iff, decide_eq_true_eq]
    exact inter_mask_ne_zero_iff
  rw [namesIn, hfilter]

/-- **A flag is listed by name exactly when its bit is set.** -/
theorem name_mem_namesIn : f.name ∈ namesIn v ↔ testBit v f.bit = true := by
  rw [namesIn_eq, List.mem_map_of_injective name_injective, mem_flagsIn]

/-- What is listed are names of flags. -/
theorem mem_namesIn {flagName : String} :
    flagName ∈ namesIn v ↔ ∃ f : ControlFlag, testBit v f.bit = true ∧ f.name = flagName := by
  rw [namesIn_eq, List.mem_map]
  simp only [mem_flagsIn]

theorem nodup_namesIn (v : Int) : (namesIn v).Nodup := by
  rw [namesIn_eq, List.nodup_map_iff name_injective]
  exact (pairwise_bit_flagsIn v).imp fun h heq ↦ h.ne (congrArg bit heq)

theorem mem_namesIn_union {flagName : String} :
    flagName ∈ namesIn (union v w) ↔ flagName ∈ namesIn v ∨ flagName ∈ namesIn w := by
  simp only [mem_namesIn, testBit_union, Bool.or_eq_true, or_and_right, exists_or]

theorem mem_namesIn_inter {flagName : String} :
    flagName ∈ namesIn (inter v w) ↔ flagName ∈ namesIn v ∧ flagName ∈ namesIn w := by
  constructor
  · intro h
    obtain ⟨f, hf, rfl⟩ := mem_namesIn.1 h
    rw [testBit_inter, Bool.and_eq_true] at hf
    exact ⟨name_mem_namesIn.2 hf.1, name_mem_namesIn.2 hf.2⟩
  · rintro ⟨hv, hw⟩
    -- Both lists name the same flag, because no two flags share a name.
    obtain ⟨f, hf, rfl⟩ := mem_namesIn.1 hv
    rw [name_mem_namesIn, testBit_inter, hf, name_mem_namesIn.1 hw]
    rfl

/-- **The names listed and the flags held agree on every integer.** A flag is listed exactly when
the value holds it, and nothing else is listed. The names come in the order of their bits, none
twice. Those in a union or an intersection are those in either or in both. A value holds two
combinations at once exactly when it holds each, and it holds one exactly when every bit of it is
set in the value, where the bits are those of two's complement without end. A multiple of `2 ^ 32`
makes no difference to any flag. -/
theorem namesIn_agrees_hasFlags (v : Int) :
    (∀ f : ControlFlag, f.name ∈ namesIn v ↔ hasFlags (some v) f.mask = true) ∧
      (∃ flags : List ControlFlag, namesIn v = flags.map name ∧
        flags.Pairwise fun f g ↦ f.bit < g.bit) ∧
      (namesIn v).Nodup ∧
      (∀ w flagName, flagName ∈ namesIn (union v w) ↔
        flagName ∈ namesIn v ∨ flagName ∈ namesIn w) ∧
      (∀ w flagName, flagName ∈ namesIn (inter v w) ↔
        flagName ∈ namesIn v ∧ flagName ∈ namesIn w) ∧
      (∀ f g : Nat, hasFlags (some v) (f ||| g : Nat) =
        (hasFlags (some v) f && hasFlags (some v) g)) ∧
      (∀ f : Nat, hasFlags (some v) f = true ↔
        ∀ i, f.testBit i = true → testBit v i = true) ∧
      (∀ i, testBit v i = true ↔ v / 2 ^ i % 2 = 1) ∧
      ∀ k : Int, namesIn (v + k * 2 ^ 32) = namesIn v ∧
        ∀ f : ControlFlag, hasFlags (some (v + k * 2 ^ 32)) f.mask = hasFlags (some v) f.mask := by
  refine ⟨fun f ↦ name_mem_namesIn.trans hasFlags_some_mask_iff.symm,
    ⟨flagsIn v, namesIn_eq v, pairwise_bit_flagsIn v⟩, nodup_namesIn v,
    fun w flagName ↦ mem_namesIn_union, fun w flagName ↦ mem_namesIn_inter,
    fun f g ↦ hasFlags_union (some v) f g, fun f ↦ hasFlags_some_iff, fun i ↦ ?_, fun k ↦ ?_⟩
  · rw [testBit_eq_decide, decide_eq_true_eq]
  · have hlow (i : Nat) (hi : i < 32) : testBit (v + k * 2 ^ 32) i = testBit v i :=
      testBit_add_mul_two_pow v k hi
    refine ⟨?_, fun f ↦ ?_⟩
    · rw [namesIn_eq, namesIn_eq, flagsIn_congr hlow]
    · rw [Bool.eq_iff_iff, hasFlags_some_mask_iff, hasFlags_some_mask_iff, hlow _ f.bit_lt]

/-- The unsigned and the signed value of the same 32 bits. -/
example : namesIn 0x80800002 = ["ACCOUNTDISABLE", "PASSWORD_EXPIRED"] ∧
    namesIn (0x80800002 - 0x100000000) = ["ACCOUNTDISABLE", "PASSWORD_EXPIRED"] := by
  decide

end ControlFlag

end DirectoryAccount
