/-!
# The attributes that say how an account stands

Directory products keep the state of an account under different names. `Attribute` lists the names
that the checks of this library read, in the order in which a search should ask for them.
-/

namespace DirectoryAccount

/-- An attribute of a user entry that a check reads. -/
inductive Attribute where
  /-- The control value that is stored. -/
  | userAccountControl
  /-- The control value that the server derives from policy. -/
  | computedControl
  | userAccountDisabled
  | userPasswordExpired
  | accountExpires
  | loginDisabled
  | orclIsEnabled
  | pwdAccountLockedTime
  | pwdStartTime
  | pwdEndTime
  | loginExpirationTime
  | pwdLockout
  | lockedByIntruder
  deriving DecidableEq, Repr

namespace Attribute

/-- The name of an attribute in the directory. -/
def name : Attribute → String
  | userAccountControl => "userAccountControl"
  | computedControl => "msDS-User-Account-Control-Computed"
  | userAccountDisabled => "msDS-UserAccountDisabled"
  | userPasswordExpired => "msDS-UserPasswordExpired"
  | accountExpires => "accountExpires"
  | loginDisabled => "loginDisabled"
  | orclIsEnabled => "orclIsEnabled"
  | pwdAccountLockedTime => "pwdAccountLockedTime"
  | pwdStartTime => "pwdStartTime"
  | pwdEndTime => "pwdEndTime"
  | loginExpirationTime => "loginExpirationTime"
  | pwdLockout => "pwdLockout"
  | lockedByIntruder => "lockedByIntruder"

/-- The attributes in the order in which to ask for them. -/
def all : List Attribute :=
  [userAccountControl, computedControl, userAccountDisabled, userPasswordExpired, accountExpires,
    loginDisabled, orclIsEnabled, pwdAccountLockedTime, pwdStartTime, pwdEndTime,
    loginExpirationTime, pwdLockout, lockedByIntruder]

/-- Every attribute is listed. -/
theorem mem_all (a : Attribute) : a ∈ all := by
  cases a <;> decide

/-- No two attributes share a name. -/
theorem name_injective {a b : Attribute} (h : a.name = b.name) : a = b := by
  revert h
  cases a <;> cases b <;> decide

/-- The names to ask for. -/
def names : List String :=
  all.map name

example : names =
    ["userAccountControl", "msDS-User-Account-Control-Computed", "msDS-UserAccountDisabled",
      "msDS-UserPasswordExpired", "accountExpires", "loginDisabled", "orclIsEnabled",
      "pwdAccountLockedTime", "pwdStartTime", "pwdEndTime", "loginExpirationTime", "pwdLockout",
      "lockedByIntruder"] := rfl

end Attribute

end DirectoryAccount
