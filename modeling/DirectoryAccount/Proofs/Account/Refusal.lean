import DirectoryAccount.Proofs.Account.Expiry
import DirectoryAccount.Proofs.Text.IntegerText

/-!
# How an assessment fails

Three attributes have to be integers where their text is there, the two control values and the
expiry. `integerUses` lists them in the order in which they are read. All other attributes are read
for what they say and nothing about them can fail.

Main statement: `Session.assess_refusals`. An assessment is answered when the three texts are
integers. Otherwise the first that is not is refused, and the failure names the attribute and its
text.

**One failure does neither.** A text of more than `Integer.maxDigits` digits is refused on its
length before its value is looked at, and that failure says no more than the number of digits:
`assess_overlong`. Who expects every failure of an assessment to name an attribute is wrong there.
-/

namespace DirectoryAccount

/-! ### Attributes that have to be integers -/

/-- An attribute whose text has to be an integer of so many bits. -/
structure IntegerUse where
  attr : Attribute
  purpose : Purpose
  bits : Int
  deriving DecidableEq, Repr

/-- The attributes that hold control values. -/
def controlAttributes : List Attribute :=
  [.userAccountControl, .computedControl]

/-- Control values are read at 32 bits. -/
def controlUse (a : Attribute) : IntegerUse := ⟨a, .accountControl, 32⟩

/-- The expiry is read at 64 bits. -/
def expiryUse : IntegerUse := ⟨.accountExpires, .accountExpires, 64⟩

/-- The attributes that have to be integers, in the order in which an assessment reads them. -/
def integerUses : List IntegerUse :=
  controlAttributes.map controlUse ++ [expiryUse]

/-! ### Bits of a control value -/

/-- A control value is there and has all bits of an integer. -/
def HasBits (value : Option Int) (n : Int) : Prop :=
  ∃ m, value = some m ∧
    ∀ i, TwosComplement.testBit n i = true → TwosComplement.testBit m i = true

theorem hasBits_uniteControl_left (n : Int) (computed : Option Int) :
    HasBits (uniteControl (some n) computed) n := by
  cases computed with
  | none => exact ⟨n, rfl, fun _ h ↦ h⟩
  | some m =>
    refine ⟨_, rfl, fun i h ↦ ?_⟩
    rw [TwosComplement.testBit_union, h, Bool.true_or]

theorem hasBits_uniteControl_right (stored : Option Int) (n : Int) :
    HasBits (uniteControl stored (some n)) n := by
  cases stored with
  | none => exact ⟨n, rfl, fun _ h ↦ h⟩
  | some m =>
    refine ⟨_, rfl, fun i h ↦ ?_⟩
    rw [TwosComplement.testBit_union, h, Bool.or_true]

/-! ### Integers of attributes -/

namespace Bag

/-- The integer of an attribute, if its text is there, or why the text is none. -/
def integerOf (bag : Bag) (u : IntegerUse) : Except Failure (Option Int) :=
  (bag.textOf u.attr).mapM fun t ↦ readInteger u.purpose u.attr.name t u.bits

/-- An attribute without a text is no integer and no failure. -/
theorem integerOf_of_none {bag : Bag} {u : IntegerUse} (h : bag.textOf u.attr = none) :
    bag.integerOf u = .ok none := by
  rw [integerOf, h]
  rfl

/-- An attribute with a text is read as that text is. -/
theorem integerOf_of_some {bag : Bag} {u : IntegerUse} {text : String}
    (h : bag.textOf u.attr = some text) :
    bag.integerOf u = (readInteger u.purpose u.attr.name text u.bits).map some := by
  rw [integerOf, h]
  rfl

/-- The control value is united from the integers of its two attributes, the stored one first. -/
theorem outcome_controlValue (bag : Bag) :
    bag.controlValue.outcome =
      (bag.integerOf (controlUse .userAccountControl)).bind fun stored ↦
        (bag.integerOf (controlUse .computedControl)).map fun computed ↦
          uniteControl stored computed := by
  have hread (a : Attribute) (text : Option String) :
      readControl? a text = text.mapM fun t ↦ readInteger .accountControl a.name t 32 := by
    cases text <;> rfl
  -- Both texts are fetched before either is looked at, and fetching never fails.
  rw [controlValue, Check.outcome_bind, outcome_text_name]
  show Check.outcome _ = _
  rw [Check.outcome_bind, outcome_text_name]
  show Check.outcome _ = _
  rw [Check.outcome_bind, Check.ofExcept, hread]
  show (bag.integerOf (controlUse .userAccountControl)).bind _ = _
  congr 1
  funext stored
  rw [Check.outcome_bind_eq_map fun _ ↦ rfl, Check.ofExcept, hread]
  rfl

/-- The text of an attribute is an integer of its width, if it is there. -/
def HoldsInteger (bag : Bag) (u : IntegerUse) : Prop :=
  ∀ text, bag.textOf u.attr = some text → ∃ n, IsInteger u.bits text n

/-- The failure says why the text of an attribute is no integer: it names both, unless the text is
too long. -/
inductive Refuses (bag : Bag) (u : IntegerUse) : Failure → Prop
  | unreadable {text expected : String} (htext : bag.textOf u.attr = some text)
    (hinteger : ∀ n, ¬IsInteger u.bits text n) (hlong : ∀ digits, ¬IsOverlong text digits) :
    Refuses bag u (.unreadable u.purpose u.attr.name text expected)
  | overlong {text : String} {digits : Nat} (htext : bag.textOf u.attr = some text)
    (h : IsOverlong text digits) : Refuses bag u (.tooManyDigits digits)

/-- The failure is that of the first of some attributes that does not hold an integer. -/
inductive RefusesFirst (bag : Bag) : List IntegerUse → Failure → Prop
  | here {u : IntegerUse} {uses : List IntegerUse} {f : Failure} (h : bag.Refuses u f) :
    RefusesFirst bag (u :: uses) f
  | later {u : IntegerUse} {uses : List IntegerUse} {f : Failure} (hu : bag.HoldsInteger u)
    (h : RefusesFirst bag uses f) : RefusesFirst bag (u :: uses) f

/-- What is refused stays so, whatever else there is to read after it. -/
theorem RefusesFirst.append {bag : Bag} {uses : List IntegerUse} {f : Failure}
    (h : bag.RefusesFirst uses f) (rest : List IntegerUse) : bag.RefusesFirst (uses ++ rest) f := by
  induction h with
  | here h => exact .here h
  | later hu _ ih => exact .later hu ih

/-- After integers, the first attribute that holds none is still the first. -/
theorem RefusesFirst.of_forall {bag : Bag} {uses rest : List IntegerUse} {f : Failure}
    (huses : ∀ u ∈ uses, bag.HoldsInteger u) (h : bag.RefusesFirst rest f) :
    bag.RefusesFirst (uses ++ rest) f := by
  induction uses with
  | nil => exact h
  | cons u uses ih =>
    exact .later (huses u List.mem_cons_self) (ih fun w hw ↦ huses w (List.mem_cons_of_mem _ hw))

/-- **The integer of an attribute is read or refused.** -/
theorem integerOf_spec (bag : Bag) (u : IntegerUse) :
    (∃ value, bag.integerOf u = .ok value ∧
        ∀ text, bag.textOf u.attr = some text → ∃ n, value = some n ∧ IsInteger u.bits text n) ∨
      ∃ f, bag.integerOf u = .error f ∧ bag.Refuses u f := by
  cases htext : bag.textOf u.attr with
  | none =>
    refine .inl ⟨none, integerOf_of_none htext, ?_⟩
    rintro text ⟨⟩
  | some text =>
    rw [integerOf_of_some htext]
    rcases readInteger_spec u.purpose u.attr.name text u.bits with
      ⟨n, hn, hread⟩ | ⟨digits, hlong, hread⟩ | ⟨hinteger, hlong, expected, hread⟩
    · refine .inl ⟨some n, by rw [hread]; rfl, ?_⟩
      rintro text' ⟨⟩
      exact ⟨n, rfl, hn⟩
    · exact .inr ⟨_, by rw [hread]; rfl, .overlong htext hlong⟩
    · exact .inr ⟨_, by rw [hread]; rfl, .unreadable htext hinteger hlong⟩

/-- The control value has the bits of all texts that are there, or the first that is no integer is
refused. -/
theorem outcome_controlValue_spec (bag : Bag) :
    (∃ mask, bag.controlValue.outcome = .ok mask ∧ ∀ a ∈ controlAttributes, ∀ text,
        bag.textOf a = some text → ∃ n, IsInteger 32 text n ∧ HasBits mask n) ∨
      ∃ f, bag.controlValue.outcome = .error f ∧
        bag.RefusesFirst (controlAttributes.map controlUse) f := by
  rw [outcome_controlValue]
  -- The stored value comes first: if it is refused, nothing is said of the computed one.
  rcases bag.integerOf_spec (controlUse .userAccountControl) with
    ⟨stored, hstored, hstored'⟩ | ⟨f, hf, hrefuses⟩
  · rw [hstored]
    rcases bag.integerOf_spec (controlUse .computedControl) with
      ⟨computed, hcomputed, hcomputed'⟩ | ⟨f, hf, hrefuses⟩
    · rw [hcomputed]
      refine .inl ⟨_, rfl, fun a ha text htext ↦ ?_⟩
      simp only [controlAttributes, List.mem_cons, List.not_mem_nil, or_false] at ha
      rcases ha with rfl | rfl
      · obtain ⟨n, rfl, hn⟩ := hstored' text htext
        exact ⟨n, hn, hasBits_uniteControl_left n computed⟩
      · obtain ⟨n, rfl, hn⟩ := hcomputed' text htext
        exact ⟨n, hn, hasBits_uniteControl_right stored n⟩
    · have hholds : bag.HoldsInteger (controlUse .userAccountControl) := fun text htext ↦ by
        obtain ⟨n, -, hn⟩ := hstored' text htext
        exact ⟨n, hn⟩
      rw [hf]
      exact .inr ⟨f, rfl, .later hholds (.here hrefuses)⟩
  · rw [hf]
    exact .inr ⟨f, rfl, .here hrefuses⟩

/-- An assessment is made if all three integers are read, and refused as the first that is not. -/
theorem outcome_assess_spec (bag : Bag) (debugging : Bool) (now : Instant) (name : Option String) :
    ((∃ a, (bag.assess debugging now name).outcome = .ok a) ∧
        ∀ u ∈ integerUses, bag.HoldsInteger u) ∨
      ∃ f, (bag.assess debugging now name).outcome = .error f ∧
        bag.RefusesFirst integerUses f := by
  rw [outcome_assess]
  rcases bag.outcome_controlValue_spec with ⟨mask, hmask, hcontrol⟩ | ⟨f, hf, hrefuses⟩
  · have hholds : ∀ u ∈ controlAttributes.map controlUse, bag.HoldsInteger u := by
      intro u hu text htext
      obtain ⟨a, ha, rfl⟩ := List.mem_map.1 hu
      obtain ⟨n, hn, -⟩ := hcontrol a ha text htext
      exact ⟨n, hn⟩
    rw [hmask]
    rcases bag.integerOf_spec expiryUse with ⟨expires, hexpires, hexpires'⟩ | ⟨f, hf, hrefuses⟩
    · rw [show bag.expires = .ok expires from hexpires]
      refine .inl ⟨⟨_, rfl⟩, fun u hu ↦ ?_⟩
      rcases List.mem_append.1 hu with hu | hu
      · exact hholds u hu
      · obtain rfl := List.mem_singleton.1 hu
        intro text htext
        obtain ⟨n, -, hn⟩ := hexpires' text htext
        exact ⟨n, hn⟩
    · rw [show bag.expires = .error f from hf]
      exact .inr ⟨f, rfl, .of_forall hholds (.here hrefuses)⟩
  · rw [hf]
    exact .inr ⟨f, rfl, hrefuses.append [expiryUse]⟩

end Bag

/-! ### Assessments -/

/-- **An assessment is answered or refuses a text.** Whatever the attributes, the clock and the
settings: if the texts of the control values and of the expiry are integers of their widths, an
assessment is answered. Otherwise the failure is that of the first of them that is not. It names the
attribute and shows the text, except for a text of too many digits, of which it gives only the
number. -/
theorem Session.assess_refusals (s : Session) (asked : Option Bag) (name : Option String) :
    ((∃ a, (s.step (.ask (.assess name) asked)).2.outcome = .ok (.assessment a)) ∧
        ∀ u ∈ integerUses, (asked.getD s.bag).HoldsInteger u) ∨
      ∃ f, (s.step (.ask (.assess name) asked)).2.outcome = .error f ∧
        (asked.getD s.bag).RefusesFirst integerUses f := by
  rw [outcome_step_assess]
  rcases (asked.getD s.bag).outcome_assess_spec s.settings.debugEnabled s.clock name with
    ⟨⟨a, ha⟩, hholds⟩ | ⟨f, hf, hrefuses⟩
  · rw [ha]
    exact .inl ⟨⟨a, rfl⟩, hholds⟩
  · rw [hf]
    exact .inr ⟨f, rfl, hrefuses⟩

/-- The text of so many ones. -/
def onesText (n : Nat) : String :=
  String.ofList (List.replicate n '1')

theorem isOverlong_onesText {n : Nat} (h : Integer.maxDigits < n) : IsOverlong (onesText n) n := by
  have hne : List.replicate n (1 : Digit) ≠ [] := by
    rw [Ne, List.replicate_eq_nil_iff]
    omega
  refine ⟨⟨none, List.replicate n 1, hne⟩, ?_, List.length_replicate, h⟩
  rw [onesText, String.toList_ofList, WrittenInteger.text, Digit.text, List.map_replicate]
  rfl

/-- **Not every failure names an attribute.** A control value of 4301 digits is refused without a
word about the attribute or its text. -/
theorem assess_overlong :
    ¬∀ (s : Session) (asked : Option Bag) (name : Option String),
      (∃ a, (s.step (.ask (.assess name) asked)).2.outcome = .ok (.assessment a)) ∨
        ∃ u ∈ integerUses, ∃ text expected,
          (s.step (.ask (.assess name) asked)).2.outcome =
            .error (.unreadable u.purpose u.attr.name text expected) := by
  intro h
  have htext : (Bag.single .userAccountControl (onesText 4301)).textOf .userAccountControl =
      some (onesText 4301) := by
    rw [Bag.textOf_single, if_pos rfl]
  have hread : (Bag.single .userAccountControl (onesText 4301)).integerOf
      (controlUse .userAccountControl) = .error (.tooManyDigits 4301) := by
    rw [Bag.integerOf_of_some htext, readInteger_of_isOverlong (isOverlong_onesText (by decide))]
    rfl
  have houtcome := h ⟨.initial, Filetime.epoch, .empty⟩
    (some (.single .userAccountControl (onesText 4301))) none
  rw [Session.outcome_step_assess, Option.getD_some, Bag.outcome_assess, Bag.outcome_controlValue,
    hread] at houtcome
  rcases houtcome with ⟨a, ha⟩ | ⟨u, -, text, expected, hu⟩
  · cases ha
  · cases hu

end DirectoryAccount
