import DirectoryAccount.TwosComplement

/-!
# Account control flags

A control value is an integer whose bits switch properties of an account. Servers write it as a
signed number, so its bits are those of its two's complement.

Two questions are asked of a value. `ControlFlag.namesIn` lists the flags that share a bit with it;
`hasFlags` asks whether it holds every bit of a combination. They agree on single flags, because
each flag is one bit.
-/

namespace DirectoryAccount

/-- A property of an account that one bit of its control value switches. -/
inductive ControlFlag where
  | script
  | accountDisabled
  | homeDirectoryRequired
  | lockout
  | passwordNotRequired
  | passwordCannotChange
  | encryptedTextPasswordAllowed
  | temporaryDuplicateAccount
  | normalAccount
  | interdomainTrustAccount
  | workstationTrustAccount
  | serverTrustAccount
  | passwordNeverExpires
  | majorityNodeSetLogonAccount
  | smartcardRequired
  | trustedForDelegation
  | notDelegated
  | useDesKeyOnly
  | preauthenticationNotRequired
  | passwordExpired
  | trustedToAuthenticateForDelegation
  | partialSecretsAccount
  deriving DecidableEq, Repr

namespace ControlFlag

/-- The flags from the lowest bit up. -/
def all : List ControlFlag :=
  [script, accountDisabled, homeDirectoryRequired, lockout, passwordNotRequired,
    passwordCannotChange, encryptedTextPasswordAllowed, temporaryDuplicateAccount, normalAccount,
    interdomainTrustAccount, workstationTrustAccount, serverTrustAccount, passwordNeverExpires,
    majorityNodeSetLogonAccount, smartcardRequired, trustedForDelegation, notDelegated,
    useDesKeyOnly, preauthenticationNotRequired, passwordExpired,
    trustedToAuthenticateForDelegation, partialSecretsAccount]

/-- Every flag is listed. -/
theorem mem_all (f : ControlFlag) : f ∈ all := by
  cases f <;> decide

/-- The name of a flag in directory schemas. -/
def name : ControlFlag → String
  | script => "SCRIPT"
  | accountDisabled => "ACCOUNTDISABLE"
  | homeDirectoryRequired => "HOMEDIR_REQUIRED"
  | lockout => "LOCKOUT"
  | passwordNotRequired => "PASSWD_NOTREQD"
  | passwordCannotChange => "PASSWD_CANT_CHANGE"
  | encryptedTextPasswordAllowed => "ENCRYPTED_TEXT_PASSWORD_ALLOWED"
  | temporaryDuplicateAccount => "TEMP_DUPLICATE_ACCOUNT"
  | normalAccount => "NORMAL_ACCOUNT"
  | interdomainTrustAccount => "INTERDOMAIN_TRUST_ACCOUNT"
  | workstationTrustAccount => "WORKSTATION_TRUST_ACCOUNT"
  | serverTrustAccount => "SERVER_TRUST_ACCOUNT"
  | passwordNeverExpires => "DONT_EXPIRE_PASSWORD"
  | majorityNodeSetLogonAccount => "MNS_LOGON_ACCOUNT"
  | smartcardRequired => "SMARTCARD_REQUIRED"
  | trustedForDelegation => "TRUSTED_FOR_DELEGATION"
  | notDelegated => "NOT_DELEGATED"
  | useDesKeyOnly => "USE_DES_KEY_ONLY"
  | preauthenticationNotRequired => "DONT_REQUIRE_PREAUTH"
  | passwordExpired => "PASSWORD_EXPIRED"
  | trustedToAuthenticateForDelegation => "TRUSTED_TO_AUTHENTICATE_FOR_DELEGATION"
  | partialSecretsAccount => "PARTIAL_SECRETS_ACCOUNT"

/-- The bit of a flag. -/
def bit : ControlFlag → Nat
  | script => 0
  | accountDisabled => 1
  | homeDirectoryRequired => 3
  | lockout => 4
  | passwordNotRequired => 5
  | passwordCannotChange => 6
  | encryptedTextPasswordAllowed => 7
  | temporaryDuplicateAccount => 8
  | normalAccount => 9
  | interdomainTrustAccount => 11
  | workstationTrustAccount => 12
  | serverTrustAccount => 13
  | passwordNeverExpires => 16
  | majorityNodeSetLogonAccount => 17
  | smartcardRequired => 18
  | trustedForDelegation => 19
  | notDelegated => 20
  | useDesKeyOnly => 21
  | preauthenticationNotRequired => 22
  | passwordExpired => 23
  | trustedToAuthenticateForDelegation => 24
  | partialSecretsAccount => 26

/-- The number with only the bit of a flag. -/
def mask (f : ControlFlag) : Nat :=
  1 <<< f.bit

/-- The numbers in directory schemas. -/
example : all.map mask =
    [0x1, 0x2, 0x8, 0x10, 0x20, 0x40, 0x80, 0x100, 0x200, 0x800, 0x1000, 0x2000, 0x10000, 0x20000,
      0x40000, 0x80000, 0x100000, 0x200000, 0x400000, 0x800000, 0x1000000, 0x4000000] := by
  decide

/-- The number with exactly the bits of the given flags. -/
def combine (flags : List ControlFlag) : Nat :=
  flags.foldr (fun f m ↦ f.mask ||| m) 0

/-- The flag with the given name. -/
def ofName? (name : String) : Option ControlFlag :=
  all.find? fun f ↦ f.name = name

/-- The names of the flags that share a bit with a control value. -/
def namesIn (value : Int) : List String :=
  (all.filter fun f ↦ TwosComplement.inter value f.mask ≠ 0).map name

end ControlFlag

/-- A control value is there and has every bit of `flags`. -/
def hasFlags (value : Option Int) (flags : Int) : Bool :=
  match value with
  | none => false
  | some v => TwosComplement.inter v flags = flags

/-- An integer in lower-case hexadecimal, with the usual mark and a minus in front of it. -/
def hexText (n : Int) : String :=
  (if n < 0 then "-" else "") ++ "0x" ++ String.ofList (Nat.toDigits 16 n.natAbs)

end DirectoryAccount
