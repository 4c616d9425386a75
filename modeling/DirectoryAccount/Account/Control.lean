import DirectoryAccount.Account.Reading
import DirectoryAccount.Attribute
import DirectoryAccount.ControlFlag

/-!
# The control value of an account

`Bag.controlValue` unites the bits of the stored and of the computed control value, where present.

**A control value that is malformed does not count as absent**, unlike other attributes: if either
text is not a 32-bit integer the reading fails. An account must not pass for enabled because its
control value is corrupt.
-/

namespace DirectoryAccount

/-- The bits of a control value. -/
def controlBits : Int := 32

/-- The control value that the text of an attribute denotes. -/
def readControl (name text : String) : Except Failure Int :=
  readInteger .accountControl name text controlBits

/-- The control value of an attribute, if its text is there. -/
def readControl? (a : Attribute) : Option String → Except Failure (Option Int)
  | none => .ok none
  | some text => (readControl a.name text).map some

/-- The bits of two control values, each of which may be missing. -/
def uniteControl : Option Int → Option Int → Option Int
  | some a, some b => some (TwosComplement.union a b)
  | some a, none => some a
  | none, b => b

/-- The control value of an account: the bits that are stored and those that the server computes. -/
def Bag.controlValue (bag : Bag) : Check (Option Int) := do
  let storedText ← bag.text Attribute.userAccountControl.name
  let computedText ← bag.text Attribute.computedControl.name
  let stored ← Check.ofExcept (readControl? .userAccountControl storedText)
  let computed ← Check.ofExcept (readControl? .computedControl computedText)
  pure (uniteControl stored computed)

end DirectoryAccount
