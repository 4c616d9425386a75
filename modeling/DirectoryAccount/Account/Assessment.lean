import DirectoryAccount.Account.Facet

/-!
# How an account stands

An assessment holds the four facets of an account, each of them good or bad. `Bag.assess` finds them
in order and fails as the first of them does. It names the problems to the reporter, if there are
any, and while debugging is enabled also the control value that it went by.
-/

namespace DirectoryAccount

/-- The four facets of an account. -/
structure Assessment where
  enabled : Bool := true
  unexpired : Bool := true
  passwordUnexpired : Bool := true
  unlocked : Bool := true
  deriving DecidableEq, Repr

namespace Assessment

/-- The names of the facets that are bad, in order. -/
def problems (a : Assessment) : List String :=
  (if a.enabled then [] else ["disabled"]) ++
    (if a.unexpired then [] else ["account expired"]) ++
    (if a.passwordUnexpired then [] else ["credentials expired"]) ++
    (if a.unlocked then [] else ["locked"])

/-- No facet is bad. -/
def good (a : Assessment) : Bool :=
  a.problems.isEmpty

end Assessment

/-- A control value and its flags in words. -/
def controlText (value : Int) : String :=
  let names := ControlFlag.namesIn value
  "Effective " ++ Attribute.userAccountControl.name ++ " " ++ hexText value ++ ": " ++
    if names = [] then "no flags" else String.intercalate ", " names

/-- Mentions the control value of an account, if it has one and debugging is enabled. -/
def Bag.mentionControl (bag : Bag) (debugging : Bool) : Check Unit := do
  match ← bag.controlValue with
  | none => pure ()
  | some value => Check.debugIf debugging (controlText value)

/-- The name of an account for messages. -/
def accountLabel : Option String → String
  | none => "Account"
  | some name => if name = "" then "Account" else name

/-- Mentions the problems of an account, if it has any. -/
def Assessment.mention (a : Assessment) (name : Option String) : Check Unit :=
  if a.good then pure ()
  else Check.say (.info (accountLabel name ++ ": " ++ String.intercalate ", " a.problems))

/-- How the account with these attributes stands at a moment. Whether debugging is enabled and the
name are for messages only. -/
def Bag.assess (bag : Bag) (debugging : Bool) (now : Instant) (name : Option String) :
    Check Assessment := do
  bag.mentionControl debugging
  let enabled ← Facet.enabled bag
  let unexpired ← Facet.unexpired bag debugging now
  let passwordUnexpired ← Facet.passwordUnexpired bag
  let unlocked ← Facet.unlocked bag
  let assessment : Assessment := ⟨enabled, unexpired, passwordUnexpired, unlocked⟩
  assessment.mention name
  pure assessment

end DirectoryAccount
