import DirectoryAccount.GeneralizedTime.Reading
import DirectoryAccount.Text.Integer
import DirectoryAccount.Text.Quoted

/-!
# What can fail

`Failure` lists the causes for which a reading or a conversion gives up, with what is known about
each. The wording is `Failure.message`. Callers who do not care for the exact cause go by
`Failure.Category`, and a cause can belong to several of them.
-/

namespace DirectoryAccount

/-- What an attribute is read as when its value is refused. -/
inductive Purpose where
  | general
  | accountControl
  | accountExpires
  deriving DecidableEq, Repr

/-- Why a reading or a conversion gives up. -/
inductive Failure where
  /-- A failure that says no more than the parts of its message. -/
  | general (parts : List String)
  /-- A value is not a generalized time. -/
  | malformedTime (value reason : String)
  /-- An attribute is present and cannot be read as what is expected of it. -/
  | unreadable (purpose : Purpose) (name value expected : String)
  /-- A number has too many digits to be converted. -/
  | tooManyDigits (digits : Nat)
  /-- A value has no text to be named by. -/
  | unshowable (reason : String)
  /-- A moment lies outside the years 1 to 9999. -/
  | momentOutOfRange
  /-- Bytes of a search result are not UTF-8. -/
  | undecodable
  deriving DecidableEq, Repr

namespace Failure

/-- The reason that is given when nothing is known but that a time is malformed. -/
def defaultReason : String :=
  TimeFault.unrecognized.reason

/-- The wording of a failure. -/
def message : Failure → String
  | general [] => ""
  | general [part] => part
  | general parts => Brackets.round.listing (parts.map Quoted.quote)
  | malformedTime value reason => "Malformed generalized time '" ++ value ++ "': " ++ reason
  | unreadable _ name value expected =>
    "Attribute " ++ name ++ " has value '" ++ value ++ "', expected " ++ expected
  | tooManyDigits digits =>
    "Exceeds the limit (" ++ toString Integer.maxDigits ++
      " digits) for integer string conversion: value has " ++ toString digits ++
      " digits; use sys.set_int_max_str_digits() to increase the limit"
  | unshowable reason => reason
  | momentOutOfRange => TimeFault.range.reason
  | undecodable => ""

/-- A sort of failure to handle as one. -/
inductive Category where
  /-- Any failure of this library's own. -/
  | own
  /-- An attribute that cannot be read, whatever it is read as. -/
  | unreadable
  | accountControl
  | accountExpires
  | malformedTime
  /-- A value that is not of the form that is asked for. -/
  | value
  deriving DecidableEq, Repr

/-- The categories, from the widest. -/
def Category.all : List Category :=
  [own, unreadable, accountControl, accountExpires, malformedTime, value]

/-- A failure belongs to a category. -/
def isA : Failure → Category → Bool
  | general _, c => c = .own
  | malformedTime _ _, c => c = .own || c = .malformedTime || c = .value
  | unreadable purpose _ _ _, c =>
    c = .own || c = .unreadable || c = .value ||
      (purpose = .accountControl && c = .accountControl) ||
      (purpose = .accountExpires && c = .accountExpires)
  | tooManyDigits _, c => c = .value
  | unshowable _, c => c = .value
  | momentOutOfRange, _ => false
  | undecodable, c => c = .value

end Failure

/-! ### Readings that can fail -/

/-- The instant of a generalized time. -/
def readTime (text : String) : Except Failure Instant :=
  (GeneralizedTime.read text).mapError fun fault ↦ .malformedTime text fault.reason

/-- The instants of several generalized times in ascending order, or the failure of the first that
is malformed. -/
def readTimesSorted (texts : List String) : Except Failure (List Instant) :=
  (texts.mapM readTime).map Instant.sort

/-- The instant that calendar fields name at an offset of so many microseconds east of Greenwich, or
in universal time if they have none. -/
def instantOfLocal (t : CivilTime) (offset : Option Int) : Except Failure Instant :=
  match Instant.ofLocal? t offset with
  | some a => .ok a
  | none => .error .momentOutOfRange

/-- The integer of so many bits that the text of an attribute denotes. -/
def readInteger (purpose : Purpose) (name text : String) (bits : Int) : Except Failure Int :=
  (Integer.read bits text).mapError fun
    | .notDecimal => .unreadable purpose name text "a decimal integer"
    | .tooManyDigits digits => .tooManyDigits digits
    | .tooWide => .unreadable purpose name text ("a " ++ toString bits ++ "-bit integer")

end DirectoryAccount
