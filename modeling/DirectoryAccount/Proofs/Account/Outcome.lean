import DirectoryAccount.Account.Assessment
import Mathlib.Data.List.Forall2

/-!
# What checks come to

The outcome of every check, apart from what is said on the way: one equation for each reading, each
rule and each facet. The equations are total, so a failing control value or expiry stands in them as
the failure that it is. On their right sides nobody knows whether debugging is enabled.

Two readings alone can fail, that of the control value and that of the expiry, `Bag.expires`. All
other rules come to a decision or to none.
-/

namespace DirectoryAccount

/-! ### Readings -/

/-- The text that came of a reading, if one did. -/
def Reading.text? : Reading → Option String
  | .found t => some t
  | _ => none

theorem Reading.text?_eq_some_iff {r : Reading} {t : String} :
    r.text? = some t ↔ r = .found t := by
  cases r <;> simp [text?]

/-- The text of an attribute, if it has one that can be read. -/
def Bag.textOf (bag : Bag) (a : Attribute) : Option String :=
  (bag.reading a.name).text?

/-- The instant of an attribute that holds a time, if it is well formed. -/
def Bag.timeOf (bag : Bag) (a : Attribute) : Option Instant :=
  (bag.textOf a).bind fun t ↦ (GeneralizedTime.read t).toOption

/-- The file time of expiry, if there is one, or why it is none. -/
def Bag.expires (bag : Bag) : Except Failure (Option Int) :=
  (bag.textOf .accountExpires).mapM
    fun t ↦ readInteger .accountExpires Attribute.accountExpires.name t 64

theorem Bag.outcome_text (bag : Bag) (name : String) :
    (bag.text name).outcome = .ok (bag.reading name).text? := by
  rw [Bag.text]
  cases bag.reading name <;> rfl

theorem Bag.outcome_text_name (bag : Bag) (a : Attribute) :
    (bag.text a.name).outcome = .ok (bag.textOf a) :=
  bag.outcome_text a.name

theorem Bag.outcome_time (bag : Bag) (a : Attribute) :
    (bag.time a.name).outcome = .ok (bag.timeOf a) := by
  rw [Bag.time, Check.outcome_bind, bag.outcome_text_name, Bag.timeOf]
  show Check.outcome _ = _
  cases bag.textOf a with
  | none => rfl
  | some t =>
    simp only [Option.bind_some]
    cases GeneralizedTime.read t <;> rfl

/-- Without an attribute its text is missing, and the others are as before. -/
theorem Bag.textOf_erase (bag : Bag) (a b : Attribute) :
    textOf (bag.erase a.name) b = if b = a then none else bag.textOf b := by
  rw [textOf, reading, Table.get?_erase]
  by_cases h : b = a
  · rw [if_pos h, if_pos (congrArg Attribute.name h)]
    rfl
  · rw [if_neg h, if_neg fun hname ↦ h (Attribute.name_injective hname)]
    rfl

/-- A check that goes on to no failure fails only where it did before. -/
theorem Check.outcome_bind_eq_map {α β : Type} {c : Check α} {f : α → Check β} {g : α → β}
    (h : ∀ a, (f a).outcome = .ok (g a)) : (c >>= f).outcome = c.outcome.map g := by
  rw [outcome_bind]
  cases c.outcome with
  | error e => rfl
  | ok a => exact h a

/-! ### Rules in order -/

/-- The first decision in a list, and good standing if there is none. -/
def firstDecisive (decisions : List (Option Bool)) : Bool :=
  (decisions.findSome? id).getD true

theorem firstDecisive_cons_some (b : Bool) (rest : List (Option Bool)) :
    firstDecisive (some b :: rest) = b := rfl

theorem firstDecisive_cons_none (rest : List (Option Bool)) :
    firstDecisive (none :: rest) = firstDecisive rest := rfl

namespace Check

/-- Rules that all come to something come to the first decision among them. -/
theorem outcome_firstDecision {rules : List (Check (Option Bool))} {decisions : List (Option Bool)}
    (h : List.Forall₂ (fun rule decision ↦ rule.outcome = .ok decision) rules decisions) :
    (firstDecision true rules).outcome = .ok (firstDecisive decisions) := by
  induction h with
  | nil => rfl
  | @cons rule decision rules decisions hrule _ ih =>
    rw [firstDecision, bind_of_ok hrule]
    cases decision with
    | none => exact ih
    | some b => rfl

/-- If only the first rule can fail, they fail as it does. -/
theorem outcome_firstDecision_cons {α : Type} {rule : Check (Option Bool)}
    {rules : List (Check (Option Bool))} {reading : Except Failure α} {decision : α → Option Bool}
    {decisions : List (Option Bool)} (hrule : rule.outcome = reading.map decision)
    (hrules : List.Forall₂ (fun rule decision ↦ rule.outcome = .ok decision) rules decisions) :
    (firstDecision true (rule :: rules)).outcome =
      reading.map fun a ↦ firstDecisive (decision a :: decisions) := by
  cases reading with
  | error e =>
    rw [firstDecision, bind_of_error hrule]
    rfl
  | ok a => exact outcome_firstDecision (.cons hrule hrules)

end Check

/-! ### The rules -/

namespace Facet

variable (bag : Bag)

theorem outcome_badIfTrue (a : Attribute) :
    (badIfTrue bag a).outcome =
      .ok ((bag.textOf a).map fun t ↦ decide (t.toLower ≠ "true")) := by
  rw [badIfTrue, Check.bind_of_ok (bag.outcome_text_name a)]
  cases bag.textOf a with
  | none => rfl
  | some t =>
    simp only [not_isTrueText]
    rfl

theorem outcome_goodUntil (now : Instant) (a : Attribute) :
    (goodUntil bag now a).outcome = .ok ((bag.timeOf a).map fun t ↦ t.isAfter now) := by
  rw [goodUntil, Check.bind_of_ok (bag.outcome_time a)]
  cases bag.timeOf a <;> rfl

theorem outcome_disabledBySentinel :
    (disabledBySentinel bag).outcome =
      .ok (if bag.textOf .pwdAccountLockedTime = some disabledSentinel then some false
        else none) := by
  rw [disabledBySentinel, Check.bind_of_ok (bag.outcome_text_name .pwdAccountLockedTime)]
  split <;> rfl

theorem outcome_enabledByWord :
    (enabledByWord bag).outcome =
      .ok ((bag.textOf .orclIsEnabled).map fun t ↦ decide (t.toLower = "enabled")) := by
  rw [enabledByWord, Check.bind_of_ok (bag.outcome_text_name .orclIsEnabled)]
  cases bag.textOf .orclIsEnabled with
  | none => rfl
  | some t =>
    simp only [isWord_iff]
    rfl

theorem outcome_expiredBeforeStart (now : Instant) :
    (expiredBeforeStart bag now).outcome =
      .ok ((bag.timeOf .pwdStartTime).bind fun start ↦
        if start.isAfter now then some false else none) := by
  rw [expiredBeforeStart, Check.bind_of_ok (bag.outcome_time .pwdStartTime)]
  cases bag.timeOf .pwdStartTime with
  | none => rfl
  | some start =>
    simp only [Option.bind_some]
    split <;> rfl

theorem outcome_disabledByFlag :
    (disabledByFlag bag).outcome = bag.controlValue.outcome.map fun value ↦
      if hasFlags value ControlFlag.accountDisabled.mask then some false else none := by
  refine Check.outcome_bind_eq_map fun value ↦ ?_
  split <;> rfl

theorem outcome_lockedByFlag :
    (lockedByFlag bag).outcome = bag.controlValue.outcome.map fun value ↦
      if hasFlags value ControlFlag.lockout.mask then some false else none := by
  refine Check.outcome_bind_eq_map fun value ↦ ?_
  split <;> rfl

theorem outcome_passwordByFlags :
    (passwordByFlags bag).outcome = bag.controlValue.outcome.map fun value ↦
      if hasFlags value ControlFlag.passwordNeverExpires.mask then some true
      else if hasFlags value ControlFlag.passwordExpired.mask then some false
      else none := by
  refine Check.outcome_bind_eq_map fun value ↦ ?_
  split
  · rfl
  · split <;> rfl

/-- The rule of the file time fails with the expiry, and decides when there is one. -/
theorem outcome_unexpiredByFiletime (debugging : Bool) (now : Instant) :
    (unexpiredByFiletime bag debugging now).outcome = bag.expires.map fun expires ↦
      expires.map fun n ↦
        if n = 0 ∨ n = Filetime.never then true else decide (Filetime.ofInstant now < n) := by
  rw [unexpiredByFiletime, Check.bind_of_ok (bag.outcome_text_name .accountExpires), Bag.expires]
  cases bag.textOf .accountExpires with
  | none => rfl
  | some t =>
    simp only [Option.mapM_some, Check.outcome_bind, Check.ofExcept]
    cases readInteger .accountExpires Attribute.accountExpires.name t 64 with
    | error e => rfl
    | ok n =>
      simp only [Except.bind]
      split
      · rename_i h
        simp [Functor.map, Except.map, h]
      · rename_i h
        simp [Check.outcome_bind, Functor.map, Except.map, Except.bind, h]

end Facet

end DirectoryAccount
