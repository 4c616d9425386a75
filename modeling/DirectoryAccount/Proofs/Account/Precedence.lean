import DirectoryAccount.Proofs.Account.Outcome
import DirectoryAccount.Proofs.ControlFlag
import DirectoryAccount.Session

/-!
# Precedence

Each facet of an account has one list of rules in order of precedence, a rule for each convention.
Here the lists stand as plain data: from the texts of the attributes, the control value and the
expiry every rule either makes a decision or makes none, and the first decision is the verdict.

Main statement: `Session.assess_eq_ok_iff`. An account is assessed exactly when its control value
and its expiry can be read, and then the four facets are the verdicts of the four lists.
-/

namespace DirectoryAccount

/-! ### The rules as data -/

/-- The control value is there and has the bit of a flag. -/
def controlHas (control : Option Int) (f : ControlFlag) : Bool :=
  control.any fun v ↦ TwosComplement.testBit v f.bit

/-- The instant of a text that is a well-formed generalized time. -/
def wellFormedTime (text : Option String) : Option Instant :=
  text.bind fun t ↦ (GeneralizedTime.read t).toOption

/-- The text denies the facet when it is the word "true" in any case, and affirms it otherwise. -/
def deniedIfTrue (text : Option String) : Option Bool :=
  text.map fun t ↦ decide (t.toLower ≠ "true")

/-- The text affirms the facet when it is a time strictly after now, and denies it when it is a time
up to now. -/
def affirmedUntil (now : Instant) (text : Option String) : Option Bool :=
  (wellFormedTime text).map fun t ↦ decide (now.micros < t.micros)

section Rules

variable (text : Attribute → Option String) (control : Option Int)

/-- The rules on whether an account is enabled. -/
def enabledRules : List (Option Bool) :=
  [if controlHas control .accountDisabled then some false else none,
    deniedIfTrue (text .userAccountDisabled),
    if text .pwdAccountLockedTime = some "000001010000Z" then some false else none,
    deniedIfTrue (text .loginDisabled),
    (text .orclIsEnabled).map fun t ↦ decide (t.toLower = "enabled")]

/-- The rules on whether an account is within its validity. -/
def unexpiredRules (expires : Option Int) (now : Instant) : List (Option Bool) :=
  [expires.map fun n ↦
      if n = 0 ∨ n = 9223372036854775807 then true else decide (Filetime.ofInstant now < n),
    (wellFormedTime (text .pwdStartTime)).bind fun start ↦
      if now.micros < start.micros then some false else none,
    affirmedUntil now (text .pwdEndTime),
    affirmedUntil now (text .loginExpirationTime)]

/-- The rules on whether a password is valid. -/
def passwordUnexpiredRules : List (Option Bool) :=
  [if controlHas control .passwordNeverExpires then some true else none,
    if controlHas control .passwordExpired then some false else none,
    deniedIfTrue (text .userPasswordExpired)]

/-- The rules on whether an account is not locked. -/
def unlockedRules : List (Option Bool) :=
  [if controlHas control .lockout then some false else none,
    deniedIfTrue (text .pwdLockout),
    deniedIfTrue (text .lockedByIntruder)]

end Rules

theorem hasFlags_mask_eq (control : Option Int) (f : ControlFlag) :
    hasFlags control f.mask = controlHas control f := by
  rw [Bool.eq_iff_iff, ControlFlag.hasFlags_mask_iff, controlHas, Option.any_eq_true]

/-! ### The facets -/

namespace Facet

variable (bag : Bag)

/-- An account is enabled as its rules say, once its control value is read. -/
theorem outcome_enabled :
    (enabled bag).outcome = bag.controlValue.outcome.map fun control ↦
      firstDecisive (enabledRules bag.textOf control) := by
  rw [enabled, Check.outcome_firstDecision_cons (outcome_disabledByFlag bag)
    (.cons (outcome_badIfTrue bag _) (.cons (outcome_disabledBySentinel bag)
      (.cons (outcome_badIfTrue bag _) (.cons (outcome_enabledByWord bag) .nil))))]
  simp only [hasFlags_mask_eq]
  rfl

/-- An account is within its validity as its rules say, once its expiry is read. -/
theorem outcome_unexpired (debugging : Bool) (now : Instant) :
    (unexpired bag debugging now).outcome = bag.expires.map fun expires ↦
      firstDecisive (unexpiredRules bag.textOf expires now) := by
  have hstart : (expiredBeforeStart bag now).outcome =
      .ok ((wellFormedTime (bag.textOf .pwdStartTime)).bind fun start ↦
        if now.micros < start.micros then some false else none) := by
    rw [outcome_expiredBeforeStart]
    simp only [Instant.isAfter, decide_eq_true_eq, Instant.lt_def]
    rfl
  exact Check.outcome_firstDecision_cons (outcome_unexpiredByFiletime bag debugging now)
    (.cons hstart (.cons (outcome_goodUntil bag now _) (.cons (outcome_goodUntil bag now _) .nil)))

/-- A password is valid as its rules say, once the control value is read. -/
theorem outcome_passwordUnexpired :
    (passwordUnexpired bag).outcome = bag.controlValue.outcome.map fun control ↦
      firstDecisive (passwordUnexpiredRules bag.textOf control) := by
  rw [passwordUnexpired, Check.outcome_firstDecision_cons (outcome_passwordByFlags bag)
    (.cons (outcome_badIfTrue bag .userPasswordExpired) .nil)]
  -- The code asks both flags in one rule, which decides as two rules in a row do.
  congr 1
  funext control
  simp only [hasFlags_mask_eq, passwordUnexpiredRules]
  cases controlHas control .passwordNeverExpires <;>
    cases controlHas control .passwordExpired <;> rfl

/-- An account is not locked as its rules say, once its control value is read. -/
theorem outcome_unlocked :
    (unlocked bag).outcome = bag.controlValue.outcome.map fun control ↦
      firstDecisive (unlockedRules bag.textOf control) := by
  rw [unlocked, Check.outcome_firstDecision_cons (outcome_lockedByFlag bag)
    (.cons (outcome_badIfTrue bag _) (.cons (outcome_badIfTrue bag _) .nil))]
  simp only [hasFlags_mask_eq]
  rfl

end Facet

/-! ### The assessment -/

/-- Mentioning the control value fails only with it. -/
theorem Bag.outcome_mentionControl (bag : Bag) (debugging : Bool) :
    (bag.mentionControl debugging).outcome = bag.controlValue.outcome.map fun _ ↦ () := by
  refine Check.outcome_bind_eq_map fun control ↦ ?_
  cases control with
  | none => rfl
  | some value => exact Check.outcome_debugIf debugging _

theorem Assessment.outcome_mention (a : Assessment) (name : Option String) :
    (a.mention name).outcome = .ok () := by
  rw [Assessment.mention]
  split <;> rfl

/-- An account is assessed by the four lists of rules, once its control value and its expiry are
read. -/
theorem Bag.outcome_assess (bag : Bag) (debugging : Bool) (now : Instant) (name : Option String) :
    (bag.assess debugging now name).outcome = bag.controlValue.outcome.bind fun control ↦
      bag.expires.map fun expires ↦
        { enabled := firstDecisive (enabledRules bag.textOf control)
          unexpired := firstDecisive (unexpiredRules bag.textOf expires now)
          passwordUnexpired := firstDecisive (passwordUnexpiredRules bag.textOf control)
          unlocked := firstDecisive (unlockedRules bag.textOf control) } := by
  simp only [Bag.assess, Check.outcome_bind, bag.outcome_mentionControl, Facet.outcome_enabled,
    Facet.outcome_unexpired, Facet.outcome_passwordUnexpired, Facet.outcome_unlocked,
    Assessment.outcome_mention, Check.outcome_pure]
  cases bag.controlValue.outcome with
  | error e => rfl
  | ok control =>
    cases bag.expires with
    | error e => rfl
    | ok expires => rfl

namespace Session

/-- Asking for an assessment answers what the check on the bag comes to. -/
theorem outcome_step_assess (s : Session) (asked : Option Bag) (name : Option String) :
    (s.step (.ask (.assess name) asked)).2.outcome =
      ((asked.getD s.bag).assess s.settings.debugEnabled s.clock name).outcome.map .assessment :=
  Check.outcome_bind_eq_map fun _ ↦ rfl

/-- **The first rule that decides is right.** Asking for an assessment, at any clock and under any
settings, answers one exactly when the control value and the expiry can be read, and then each facet
is the first decision in its list of rules. -/
theorem assess_eq_ok_iff (s : Session) (asked : Option Bag) (name : Option String)
    (a : Assessment) :
    (s.step (.ask (.assess name) asked)).2.outcome = .ok (.assessment a) ↔
      ∃ (text : Attribute → Option String) (control expires : Option Int),
        (∀ b : Attribute, ((asked.getD s.bag).text b.name).outcome = .ok (text b)) ∧
          (asked.getD s.bag).controlValue.outcome = .ok control ∧
          (text .accountExpires).mapM (fun t ↦ readInteger .accountExpires "accountExpires" t 64) =
            .ok expires ∧
          a.enabled = firstDecisive (enabledRules text control) ∧
          a.unexpired = firstDecisive (unexpiredRules text expires s.clock) ∧
          a.passwordUnexpired = firstDecisive (passwordUnexpiredRules text control) ∧
          a.unlocked = firstDecisive (unlockedRules text control) := by
  rw [outcome_step_assess, Bag.outcome_assess]
  generalize asked.getD s.bag = bag
  constructor
  · intro h
    cases hcontrol : bag.controlValue.outcome with
    | error e => simp [hcontrol, Except.bind, Except.map] at h
    | ok control =>
      cases hexpires : bag.expires with
      | error e => simp [hcontrol, hexpires, Except.bind, Except.map] at h
      | ok expires =>
        simp only [hcontrol, hexpires, Except.bind, Except.map, Except.ok.injEq,
          Answer.assessment.injEq] at h
        subst h
        exact ⟨bag.textOf, control, expires, bag.outcome_text_name, rfl, hexpires, rfl, rfl, rfl,
          rfl⟩
  · rintro ⟨text, control, expires, htext, hcontrol, hexpires, henabled, hunexpired, hpassword,
      hunlocked⟩
    obtain rfl : bag.textOf = text := funext fun b ↦
      Except.ok.inj ((bag.outcome_text_name b).symm.trans (htext b))
    rw [hcontrol, show bag.expires = .ok expires from hexpires]
    simp only [Except.bind, Except.map, ← henabled, ← hunexpired, ← hpassword, ← hunlocked]

end Session

end DirectoryAccount
