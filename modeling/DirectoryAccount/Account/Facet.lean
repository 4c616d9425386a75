import DirectoryAccount.Account.Control
import DirectoryAccount.Filetime

/-!
# The four facets of an account

Whether an account is enabled, within its validity, with a valid password, and not locked. Each
facet has one list of rules, a rule for each convention by which directories express it, in order of
precedence. The first rule that decides is right, and an account that no rule speaks of is fine.

**Only one facet knows the clock**, that of validity, and it is given it. It is also told whether
debugging is enabled, because only those who debug get to see a file time as an instant.
-/

namespace DirectoryAccount

namespace Facet

/-! ### Rules that several facets share -/

/-- The attribute decides when it is there: its truth is bad for the account. -/
def badIfTrue (bag : Bag) (a : Attribute) : Check (Option Bool) := do
  match ← bag.text a.name with
  | none => pure none
  | some t => pure (some (!isTrueText t))

/-- The attribute decides when it holds a time: it has to come after now. -/
def goodUntil (bag : Bag) (now : Instant) (a : Attribute) : Check (Option Bool) := do
  match ← bag.time a.name with
  | none => pure none
  | some t => pure (some (t.isAfter now))

/-! ### Enabled -/

/-- The text of `pwdAccountLockedTime` that disables an account. Every other time there says since
when an account is locked. -/
def disabledSentinel : String := "000001010000Z"

/-- The flag for disabled accounts decides when it is set. -/
def disabledByFlag (bag : Bag) : Check (Option Bool) := do
  if hasFlags (← bag.controlValue) ControlFlag.accountDisabled.mask then
    Check.debug (Attribute.userAccountControl.name ++ " has " ++ ControlFlag.accountDisabled.name ++
      " set")
    pure (some false)
  else pure none

/-- The time since when an account is locked decides when it is the sentinel. -/
def disabledBySentinel (bag : Bag) : Check (Option Bool) := do
  if (← bag.text Attribute.pwdAccountLockedTime.name) = some disabledSentinel then
    Check.debug (Attribute.pwdAccountLockedTime.name ++ " marks the account as disabled")
    pure (some false)
  else pure none

/-- The word of `orclIsEnabled` decides when it is there. -/
def enabledByWord (bag : Bag) : Check (Option Bool) := do
  match ← bag.text Attribute.orclIsEnabled.name with
  | none => pure none
  | some t => pure (some (decide (IsWord "enabled" t)))

/-- The account is enabled. -/
def enabled (bag : Bag) : Check Bool :=
  Check.firstDecision true
    [disabledByFlag bag, badIfTrue bag .userAccountDisabled, disabledBySentinel bag,
      badIfTrue bag .loginDisabled, enabledByWord bag]

/-! ### Within its validity -/

/-- The file time of expiry decides when it is there. Zero and `Filetime.never` mean no expiry. -/
def unexpiredByFiletime (bag : Bag) (debugging : Bool) (now : Instant) :
    Check (Option Bool) := do
  match ← bag.text Attribute.accountExpires.name with
  | none => pure none
  | some t =>
    let expires ← Check.ofExcept
      (readInteger .accountExpires Attribute.accountExpires.name t 64)
    if expires = 0 ∨ expires = Filetime.never then pure (some true)
    else
      Check.debugIf debugging (Attribute.accountExpires.name ++ " " ++ toString expires ++ " (" ++
        Filetime.text expires ++ ")")
      pure (some (decide (Filetime.ofInstant now < expires)))

/-- The start of validity decides when it lies ahead. -/
def expiredBeforeStart (bag : Bag) (now : Instant) : Check (Option Bool) := do
  match ← bag.time Attribute.pwdStartTime.name with
  | none => pure none
  | some start =>
    if start.isAfter now then
      Check.debug (Attribute.pwdStartTime.name ++ " " ++ GeneralizedTime.write start ++
        " is in the future")
      pure (some false)
    else pure none

/-- The account is within its validity. -/
def unexpired (bag : Bag) (debugging : Bool) (now : Instant) : Check Bool :=
  Check.firstDecision true
    [unexpiredByFiletime bag debugging now, expiredBeforeStart bag now,
      goodUntil bag now .pwdEndTime, goodUntil bag now .loginExpirationTime]

/-! ### With a valid password -/

/-- The two flags for passwords decide when they are set: one that never expires has not expired. -/
def passwordByFlags (bag : Bag) : Check (Option Bool) := do
  let value ← bag.controlValue
  if hasFlags value ControlFlag.passwordNeverExpires.mask then pure (some true)
  else if hasFlags value ControlFlag.passwordExpired.mask then pure (some false)
  else pure none

/-- The password of the account has not expired. -/
def passwordUnexpired (bag : Bag) : Check Bool :=
  Check.firstDecision true [passwordByFlags bag, badIfTrue bag .userPasswordExpired]

/-! ### Not locked -/

/-- The flag for locked accounts decides when it is set. -/
def lockedByFlag (bag : Bag) : Check (Option Bool) := do
  if hasFlags (← bag.controlValue) ControlFlag.lockout.mask then pure (some false)
  else pure none

/-- The account is not locked. -/
def unlocked (bag : Bag) : Check Bool :=
  Check.firstDecision true
    [lockedByFlag bag, badIfTrue bag .pwdLockout, badIfTrue bag .lockedByIntruder]

end Facet

end DirectoryAccount
