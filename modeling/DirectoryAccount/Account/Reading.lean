import DirectoryAccount.Check
import DirectoryAccount.Value

/-!
# Reading the attributes of an account

Reading an attribute never fails. What cannot be read is mentioned to those who debug and counts as
absent, and a time that is malformed counts as absent too, with a warning.
-/

namespace DirectoryAccount

/-- The text of the attribute with the given name. -/
def Bag.text (bag : Bag) (name : String) : Check (Option String) :=
  match bag.reading name with
  | .absent => pure none
  | .found t => pure (some t)
  | .failed reason => do
    Check.debug ("Could not read attribute " ++ name ++ ": " ++ reason)
    pure none

/-- The instant that the attribute with the given name holds as a generalized time. -/
def Bag.time (bag : Bag) (name : String) : Check (Option Instant) := do
  match ← bag.text name with
  | none => pure none
  | some t =>
    match GeneralizedTime.read t with
    | .ok a => pure (some a)
    | .error fault =>
      Check.say (.warning
        ("Invalid format found parsing generalized time attribute " ++ name ++ " with value '" ++
          t ++ "': " ++ fault.reason) false)
      pure none

end DirectoryAccount
