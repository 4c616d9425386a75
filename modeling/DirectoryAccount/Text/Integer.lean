/-!
# Integers of a given width in text

A decimal integer is an optional sign and at least one ASCII digit. Reading it at a width of so many
bits accepts the signed numbers of that width, in two's complement.

**The number of digits is limited.** A text with more than `Integer.maxDigits` digits is refused on
its length alone, leading zeros included, and whatever the width.
-/

namespace DirectoryAccount

namespace Integer

/-- Why a text is no integer of a given width. -/
inductive Fault where
  | notDecimal
  | tooManyDigits (digits : Nat)
  | tooWide
  deriving DecidableEq, Repr

/-- The most digits that are converted between text and number. -/
def maxDigits : Nat :=
  4300

/-- The sign at the front of a text, whether it is a minus, and what follows it. -/
def splitSign : List Char → Bool × List Char
  | '+' :: rest => (false, rest)
  | '-' :: rest => (true, rest)
  | rest => (false, rest)

/-- A text is at least one digit, and digits only. -/
def AllDigits (ds : List Char) : Prop :=
  ds ≠ [] ∧ ∀ c ∈ ds, c.isDigit

-- The second instance is named so that only the characters of the text are tried. Search may find
-- one that tries every character there is.
instance (ds : List Char) : Decidable (AllDigits ds) :=
  @instDecidableAnd _ _ _ (List.decidableBAll (fun c ↦ c.isDigit) ds)

/-- A number lies in the signed range of a width. No number has no bits, or fewer. -/
def Fits (bits n : Int) : Prop :=
  0 < bits ∧ -((1 <<< (bits.toNat - 1) : Nat) : Int) ≤ n ∧
    n < ((1 <<< (bits.toNat - 1) : Nat) : Int)

instance (bits n : Int) : Decidable (Fits bits n) :=
  inferInstanceAs (Decidable (_ ∧ _))

/-- The number with the given sign and digits. -/
def signed (negative : Bool) (ds : List Char) : Int :=
  if negative then -(Nat.ofDigitChars 10 ds 0 : Int) else Nat.ofDigitChars 10 ds 0

/-- The integer of the given width that a text denotes. -/
def read (bits : Int) (text : String) : Except Fault Int :=
  let (negative, ds) := splitSign text.toList
  if ¬AllDigits ds then .error .notDecimal
  else if maxDigits < ds.length then .error (.tooManyDigits ds.length)
  else if Fits bits (signed negative ds) then .ok (signed negative ds)
  else .error .tooWide

/-- The decimal text of an integer, if it does not have too many digits. -/
def text? (n : Int) : Option String :=
  if maxDigits < (Nat.toDigits 10 n.natAbs).length then none else some (toString n)

end Integer

end DirectoryAccount
