import DirectoryAccount.Proofs.Account.Refusal
import DirectoryAccount.Proofs.ControlFlag
import DirectoryAccount.Proofs.Text.IntegerWidth
import DirectoryAccount.Proofs.Traversal
import DirectoryAccount.Proofs.TwosComplement
import Mathlib.Logic.Equiv.Basic

/-!
# The control value as a union

A server keeps some flags of an account and computes others, and a flag counts from wherever it
comes. So the control value has the bits of both attributes and no others, read in two's complement
and without leaving 32 bits, and which attribute holds which of the two values is all the same.

**Only the failure tells the attributes apart.** If both are refused, the failure is that of the
stored one. Exchanged, they are refused again, but in other words.

Main statement: `Bag.controlValue_union`.
-/

namespace DirectoryAccount

/-! ### United values -/

theorem uniteControl_eq_none_iff {stored computed : Option Int} :
    uniteControl stored computed = none ↔ stored = none ∧ computed = none := by
  cases stored <;> cases computed <;> simp [uniteControl]

theorem uniteControl_comm (stored computed : Option Int) :
    uniteControl stored computed = uniteControl computed stored := by
  cases stored <;> cases computed <;> simp [uniteControl, TwosComplement.union_comm]

/-- A bit is set in a union if it is in one of the values. A value that is missing has none. -/
theorem exists_testBit_uniteControl_iff {stored computed : Option Int} {i : Nat} :
    (∃ m, uniteControl stored computed = some m ∧ TwosComplement.testBit m i = true) ↔
      (∃ n, stored = some n ∧ TwosComplement.testBit n i = true) ∨
        ∃ n, computed = some n ∧ TwosComplement.testBit n i = true := by
  cases stored <;> cases computed <;> simp [uniteControl]

/-- A union of values of a width is of that width. -/
theorem fits_uniteControl {bits : Int} {stored computed : Option Int}
    (hstored : ∀ n ∈ stored, Integer.Fits bits n)
    (hcomputed : ∀ n ∈ computed, Integer.Fits bits n) :
    ∀ m ∈ uniteControl stored computed, Integer.Fits bits m := by
  rintro m hm
  cases stored with
  | none => exact hcomputed m hm
  | some a =>
    cases computed with
    | none => exact hstored m hm
    | some b =>
      obtain rfl := Option.some.inj hm
      exact Integer.fits_union (hstored a rfl) (hcomputed b rfl)

/-! ### What the two attributes hold -/

theorem fits_of_readInteger {purpose : Purpose} {name text : String} {bits n : Int}
    (h : readInteger purpose name text bits = .ok n) : Integer.Fits bits n := by
  rcases readInteger_spec purpose name text bits with
    ⟨m, ⟨w, -, -, -, hfits⟩, hread⟩ | ⟨digits, -, hread⟩ | ⟨-, -, expected, hread⟩
  · obtain rfl := Except.ok.inj (hread.symm.trans h)
    exact hfits
  · cases hread.symm.trans h
  · cases hread.symm.trans h

/-- What is read of a text does not depend on what it is read for. -/
theorem toOption_readInteger (purpose : Purpose) (name text : String) (bits : Int) :
    (readInteger purpose name text bits).toOption = (Integer.read bits text).toOption := by
  rw [readInteger]
  cases Integer.read bits text <;> rfl

namespace Bag

/-- The text of a control attribute is there and is accepted as this value. -/
def HoldsControl (bag : Bag) (a : Attribute) (n : Int) : Prop :=
  ∃ text, bag.textOf a = some text ∧ readControl a.name text = .ok n

/-- The text of a control attribute is there and is refused with this failure. -/
def RefusesControl (bag : Bag) (a : Attribute) (f : Failure) : Prop :=
  ∃ text, bag.textOf a = some text ∧ readControl a.name text = .error f

section

variable {bag : Bag} {a : Attribute}

theorem integerOf_eq_some_iff_holdsControl {n : Int} :
    bag.integerOf (controlUse a) = .ok (some n) ↔ bag.HoldsControl a n :=
  mapM_option_eq_some_iff

theorem integerOf_eq_error_iff_refusesControl {f : Failure} :
    bag.integerOf (controlUse a) = .error f ↔ bag.RefusesControl a f :=
  mapM_option_eq_error_iff

/-- A control attribute that is read is not refused. -/
theorem not_refusesControl_of_integerOf {value : Option Int}
    (h : bag.integerOf (controlUse a) = .ok value) (f : Failure) : ¬bag.RefusesControl a f := by
  intro hrefuses
  cases h.symm.trans (integerOf_eq_error_iff_refusesControl.2 hrefuses)

/-- A control value that is read is of 32 bits. -/
theorem fits_of_integerOf {value : Option Int} (h : bag.integerOf (controlUse a) = .ok value) :
    ∀ n ∈ value, Integer.Fits 32 n := by
  rintro n rfl
  obtain ⟨text, -, hread⟩ := integerOf_eq_some_iff_holdsControl.1 h
  exact fits_of_readInteger hread

/-- What some control attribute holds is one of the two values that are read. -/
theorem exists_holdsControl_iff {stored computed : Option Int}
    (hstored : bag.integerOf (controlUse .userAccountControl) = .ok stored)
    (hcomputed : bag.integerOf (controlUse .computedControl) = .ok computed) (p : Int → Prop) :
    (∃ a ∈ controlAttributes, ∃ n, bag.HoldsControl a n ∧ p n) ↔
      (∃ n, stored = some n ∧ p n) ∨ ∃ n, computed = some n ∧ p n := by
  simp [controlAttributes, ← integerOf_eq_some_iff_holdsControl, hstored, hcomputed]

end

end Bag

/-! ### Exchanging the two attributes -/

namespace Table

variable {α : Type}

/-- Puts every value under another name, and no two under the same. -/
def rename (σ : Equiv.Perm String) (t : Table α) : Table α :=
  ⟨t.entries.map fun p ↦ (σ p.1, p.2), by
    have h : (Prod.fst ∘ fun p : String × α ↦ (σ p.1, p.2)) = σ ∘ Prod.fst := rfl
    rw [List.map_map, h, ← List.map_map]
    exact t.nodup.map σ.injective⟩

theorem find?_rename (σ : Equiv.Perm String) (l : List (String × α)) (name : String) :
    find? (σ name) (l.map fun p ↦ (σ p.1, p.2)) = find? name l := by
  induction l with
  | nil => rfl
  | cons p l ih => simp only [List.map_cons, find?, σ.apply_eq_iff_eq, ih]

theorem get?_rename (σ : Equiv.Perm String) (t : Table α) (name : String) :
    (t.rename σ).get? (σ name) = t.get? name :=
  find?_rename σ t.entries name

end Table

namespace Bag

/-- The attributes with the two that hold control values exchanged. -/
def exchangeControls (bag : Bag) : Bag :=
  bag.rename (Equiv.swap Attribute.userAccountControl.name Attribute.computedControl.name)

theorem textOf_exchangeControls (bag : Bag) (a : Attribute) :
    bag.exchangeControls.textOf a =
      bag.textOf (Equiv.swap .userAccountControl .computedControl a) := by
  have hname : a.name = Equiv.swap Attribute.userAccountControl.name Attribute.computedControl.name
      (Equiv.swap Attribute.userAccountControl .computedControl a).name := by
    rw [← Function.Injective.map_swap fun _ _ ↦ Attribute.name_injective, Equiv.swap_apply_self]
  rw [textOf, textOf, reading, reading, hname, exchangeControls, Table.get?_rename]

/-- The other attributes stay where they are. -/
theorem textOf_exchangeControls_of_notMem (bag : Bag) {a : Attribute} (ha : a ∉ controlAttributes) :
    bag.exchangeControls.textOf a = bag.textOf a := by
  simp only [controlAttributes, List.mem_cons, List.not_mem_nil, or_false, not_or] at ha
  rw [textOf_exchangeControls, Equiv.swap_apply_of_ne_of_ne ha.1 ha.2]

/-- Up to the failure, a control attribute is read by its text alone, whichever of the two it is. -/
theorem toOption_integerOf_controlUse (bag : Bag) (a : Attribute) :
    (bag.integerOf (controlUse a)).toOption =
      (bag.textOf a).mapM fun text ↦ (Integer.read 32 text).toOption := by
  rw [integerOf, toOption_mapM_option]
  simp only [toOption_readInteger]
  rfl

/-- **Exchanging the two attributes does not change the control value**, if there is one. -/
theorem toOption_controlValue_exchangeControls (bag : Bag) :
    bag.exchangeControls.controlValue.outcome.toOption = bag.controlValue.outcome.toOption := by
  have hstored : (bag.exchangeControls.integerOf (controlUse .userAccountControl)).toOption =
      (bag.integerOf (controlUse .computedControl)).toOption := by
    rw [toOption_integerOf_controlUse, toOption_integerOf_controlUse, textOf_exchangeControls,
      Equiv.swap_apply_left]
  have hcomputed : (bag.exchangeControls.integerOf (controlUse .computedControl)).toOption =
      (bag.integerOf (controlUse .userAccountControl)).toOption := by
    rw [toOption_integerOf_controlUse, toOption_integerOf_controlUse, textOf_exchangeControls,
      Equiv.swap_apply_right]
  simp only [outcome_controlValue, toOption_bind, toOption_map, hstored, hcomputed]
  cases (bag.integerOf (controlUse .userAccountControl)).toOption <;>
    cases (bag.integerOf (controlUse .computedControl)).toOption <;>
    simp [uniteControl_comm]

/-- Up to the failure, an assessment goes by the control value and the texts of the attributes that
hold none. -/
theorem toOption_assess_congr {bag bag' : Bag}
    (hcontrol : bag'.controlValue.outcome.toOption = bag.controlValue.outcome.toOption)
    (htext : ∀ a, a ∉ controlAttributes → bag'.textOf a = bag.textOf a) (debugging : Bool)
    (now : Instant) (name : Option String) :
    (bag'.assess debugging now name).outcome.toOption =
      (bag.assess debugging now name).outcome.toOption := by
  have hexpires : bag'.expires = bag.expires := by
    rw [expires, expires, htext _ (by decide)]
  simp (disch := decide) only [outcome_assess, toOption_bind, hcontrol, hexpires, enabledRules,
    unexpiredRules, passwordUnexpiredRules, unlockedRules, htext]

end Bag

/-! ### The union -/

namespace Bag

/-- There is no control value exactly if neither attribute has a text. -/
theorem outcome_controlValue_eq_none_iff (bag : Bag) :
    bag.controlValue.outcome = .ok none ↔ ∀ a ∈ controlAttributes, bag.textOf a = none := by
  have hnone (a : Attribute) : bag.integerOf (controlUse a) = .ok none ↔ bag.textOf a = none :=
    mapM_option_eq_none_iff
  have hall : (∀ a ∈ controlAttributes, bag.textOf a = none) ↔
      bag.integerOf (controlUse .userAccountControl) = .ok none ∧
        bag.integerOf (controlUse .computedControl) = .ok none := by
    simp [controlAttributes, hnone]
  rw [hall, outcome_controlValue]
  cases bag.integerOf (controlUse .userAccountControl) with
  | error f => simp [Except.bind]
  | ok stored =>
    cases bag.integerOf (controlUse .computedControl) with
    | error f => simp [Except.bind, Except.map]
    | ok computed => simp [Except.bind, Except.map, uniteControl_eq_none_iff]

/-- Both values are united, or the first that is refused is the failure. -/
theorem outcome_controlValue_cases (bag : Bag) :
    (∃ stored computed, bag.integerOf (controlUse .userAccountControl) = .ok stored ∧
        bag.integerOf (controlUse .computedControl) = .ok computed ∧
        bag.controlValue.outcome = .ok (uniteControl stored computed)) ∨
      ∃ f, bag.controlValue.outcome = .error f ∧
        (bag.RefusesControl .userAccountControl f ∨
          (∀ g, ¬bag.RefusesControl .userAccountControl g) ∧
            bag.RefusesControl .computedControl f) := by
  rw [outcome_controlValue]
  cases hstored : bag.integerOf (controlUse .userAccountControl) with
  | error f => exact .inr ⟨f, rfl, .inl (integerOf_eq_error_iff_refusesControl.1 hstored)⟩
  | ok stored =>
    cases hcomputed : bag.integerOf (controlUse .computedControl) with
    | error f =>
      exact .inr ⟨f, rfl, .inr ⟨not_refusesControl_of_integerOf hstored,
        integerOf_eq_error_iff_refusesControl.1 hcomputed⟩⟩
    | ok computed => exact .inl ⟨stored, computed, rfl, rfl, rfl⟩

/-- **The control value is the union of what the two attributes hold.** There is none exactly if
neither has a text. If a text is refused so is the whole, as the first that is. Otherwise the value
is of 32 bits, and a bit of it is set, and can be asked for as a flag, exactly if it is set in what
one of the attributes holds. Exchanging the two attributes changes neither the value nor an
assessment, and what fails still fails. -/
theorem controlValue_union (bag : Bag) :
    (bag.controlValue.outcome = .ok none ↔ ∀ a ∈ controlAttributes, bag.textOf a = none) ∧
      ((∃ mask, bag.controlValue.outcome = .ok mask ∧
          (∀ a ∈ controlAttributes, ∀ f, ¬bag.RefusesControl a f) ∧
          (∀ m ∈ mask, -2 ^ 31 ≤ m ∧ m ≤ 2 ^ 31 - 1) ∧
          (∀ i, (∃ m ∈ mask, TwosComplement.testBit m i = true) ↔
            ∃ a ∈ controlAttributes, ∃ n, bag.HoldsControl a n ∧
              TwosComplement.testBit n i = true) ∧
          ∀ i : Nat, hasFlags mask ((1 <<< i : Nat) : Int) = true ↔
            ∃ a ∈ controlAttributes, ∃ n, bag.HoldsControl a n ∧
              hasFlags (some n) ((1 <<< i : Nat) : Int) = true) ∨
        ∃ f, bag.controlValue.outcome = .error f ∧
          (bag.RefusesControl .userAccountControl f ∨
            (∀ g, ¬bag.RefusesControl .userAccountControl g) ∧
              bag.RefusesControl .computedControl f)) ∧
      bag.exchangeControls.controlValue.outcome.toOption = bag.controlValue.outcome.toOption ∧
      ∀ debugging now name, (bag.exchangeControls.assess debugging now name).outcome.toOption =
        (bag.assess debugging now name).outcome.toOption := by
  have hexchange := bag.toOption_controlValue_exchangeControls
  refine ⟨bag.outcome_controlValue_eq_none_iff, ?_, hexchange, fun debugging now name ↦
    toOption_assess_congr hexchange (fun _ ↦ bag.textOf_exchangeControls_of_notMem) debugging now
      name⟩
  rcases bag.outcome_controlValue_cases with ⟨stored, computed, hstored, hcomputed, houtcome⟩ | h
  · have hbit (i : Nat) : (∃ m ∈ uniteControl stored computed, TwosComplement.testBit m i = true) ↔
        ∃ a ∈ controlAttributes, ∃ n, bag.HoldsControl a n ∧
          TwosComplement.testBit n i = true := by
      rw [exists_holdsControl_iff hstored hcomputed fun n ↦ TwosComplement.testBit n i = true]
      exact exists_testBit_uniteControl_iff
    refine .inl ⟨_, houtcome, ?_, fun m hm ↦ ?_, hbit, fun i ↦ ?_⟩
    · intro a ha
      simp only [controlAttributes, List.mem_cons, List.not_mem_nil, or_false] at ha
      rcases ha with rfl | rfl
      · exact not_refusesControl_of_integerOf hstored
      · exact not_refusesControl_of_integerOf hcomputed
    · have hfits : Integer.Fits (32 : Nat) m :=
        fits_uniteControl (fits_of_integerOf hstored) (fits_of_integerOf hcomputed) m hm
      exact (Integer.fits_iff (by decide)).1 hfits
    · simp only [hasFlags_one_shiftLeft_iff, Option.some.injEq, exists_eq_left']
      exact hbit i
  · exact .inr h

end Bag

end DirectoryAccount
