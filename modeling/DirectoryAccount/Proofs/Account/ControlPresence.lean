import DirectoryAccount.Proofs.Account.Refusal
import DirectoryAccount.Proofs.ValueText

/-!
# Control values that are there

An account must not pass for a healthy one because its control value is corrupt. Whether a value is
there is a matter of what the client handed over, before any reading: `Bag.first?` is the first
value of an attribute, of whichever kind.

Main statement: `Bag.controlValue_present`. Reading the control value either fails on the text of a
control attribute, and every assessment fails with it, or each control attribute that is there and
has a text is an integer, all of whose bits are set in the result.

**A value without a text passes for absent.** Bytes that encode no text are mentioned to those who
debug and then count as if the attribute were missing. An account with nothing else to its name is
assessed as good: `assess_undecodableControl`.
-/

namespace DirectoryAccount

namespace Bag

/-! ### What is there -/

/-- The first value of an attribute, if there is one with something in it. -/
def first? (bag : Bag) (name : String) : Option Value :=
  (bag.get? name).bind Slot.first?

/-- **An attribute is read as the text of its first value**, and as absent if that has none. -/
theorem textOf_eq_some_iff {bag : Bag} {a : Attribute} {t : String} :
    bag.textOf a = some t ↔ ∃ v, bag.first? a.name = some v ∧ v.HasText t := by
  rw [textOf, Reading.text?_eq_some_iff, reading, first?]
  cases bag.get? a.name with
  | none => simp
  | some slot =>
    rw [Option.bind_some]
    exact Slot.reading_eq_found_iff

/-- Removing an attribute that is read as absent changes nothing about what is read. -/
theorem textOf_erase_of_none {bag : Bag} {a : Attribute} (h : bag.textOf a = none)
    (b : Attribute) : textOf (bag.erase a.name) b = bag.textOf b := by
  rw [textOf_erase]
  by_cases hb : b = a
  · rw [if_pos hb, hb, h]
  · rw [if_neg hb]

/-! ### What is read -/

/-- The control value is a matter of the texts that are read. -/
theorem outcome_controlValue_congr {bag bag' : Bag} (h : ∀ a, bag'.textOf a = bag.textOf a) :
    bag'.controlValue.outcome = bag.controlValue.outcome := by
  have hinteger (u : IntegerUse) : bag'.integerOf u = bag.integerOf u := by
    rw [integerOf, integerOf, h]
  rw [outcome_controlValue, outcome_controlValue, hinteger, hinteger]

/-- **A control value that is there is read or refused, if it has a text.** Either there is a
result: each control attribute that is there is a 32-bit integer whose bits the result has, or else
is a value without a text, and then the result is the same as without the attribute. Or the first
control attribute whose text is no integer is refused, and so is every assessment. -/
theorem controlValue_present (bag : Bag) :
    (∃ mask, bag.controlValue.outcome = .ok mask ∧ ∀ a ∈ controlAttributes, ∀ v,
        bag.first? a.name = some v →
          (∃ text n, v.HasText text ∧ IsInteger 32 text n ∧ HasBits mask n) ∨
            ((∀ text, ¬v.HasText text) ∧
              (controlValue (bag.erase a.name)).outcome = .ok mask)) ∨
      ∃ f, bag.controlValue.outcome = .error f ∧
        bag.RefusesFirst (controlAttributes.map controlUse) f ∧
        ∀ debugging now name, (bag.assess debugging now name).outcome = .error f := by
  rcases bag.outcome_controlValue_spec with ⟨mask, hmask, hbits⟩ | ⟨f, hf, hrefuses⟩
  · refine .inl ⟨mask, hmask, fun a ha v hv ↦ ?_⟩
    cases htext : bag.textOf a with
    | some text =>
      obtain ⟨w, hw, hwtext⟩ := textOf_eq_some_iff.1 htext
      obtain rfl : v = w := Option.some.inj (hv.symm.trans hw)
      obtain ⟨n, hn, hmaskn⟩ := hbits a ha text htext
      exact .inl ⟨text, n, hwtext, hn, hmaskn⟩
    | none =>
      refine .inr ⟨fun text hvtext ↦ ?_, ?_⟩
      · have hsome := textOf_eq_some_iff.2 ⟨v, hv, hvtext⟩
        rw [htext] at hsome
        cases hsome
      · rw [outcome_controlValue_congr (textOf_erase_of_none htext), hmask]
  · refine .inr ⟨f, hf, hrefuses, fun debugging now name ↦ ?_⟩
    rw [outcome_assess, hf]
    rfl

end Bag

/-! ### A value that passes for absent -/

/-- A stored control value of one byte that starts no text. -/
def undecodableControl : Bag :=
  .insert .empty Attribute.userAccountControl.name (.value (.sequence .square [.bytes [0xFF]]))

/-- **A control value that is there can pass for absent.** A byte that encodes no text is no
integer, and yet there is no failure, the control value is none, and every facet is good. -/
theorem assess_undecodableControl :
    undecodableControl.first? Attribute.userAccountControl.name = some (.bytes [0xFF]) ∧
      (∀ text, ¬(Value.bytes [0xFF]).HasText text) ∧
      undecodableControl.controlValue.outcome = .ok none ∧
      ∀ debugging now name,
        (undecodableControl.assess debugging now name).outcome = .ok ⟨true, true, true, true⟩ := by
  -- Not one attribute has a text, so no rule decides anything.
  have hnone : undecodableControl.textOf = fun _ ↦ none := by
    funext a
    cases a <;> rfl
  have hcontrol : undecodableControl.controlValue.outcome = .ok none := by
    rw [Bag.outcome_controlValue, Bag.integerOf_of_none (congrFun hnone _),
      Bag.integerOf_of_none (congrFun hnone _)]
    rfl
  refine ⟨rfl, fun text htext ↦ ?_, hcontrol, fun debugging now name ↦ ?_⟩
  · have hread := Value.reading_eq_found_iff.2 htext
    cases hread
  · rw [Bag.outcome_assess, hcontrol, Bag.expires, hnone]
    rfl

end DirectoryAccount
