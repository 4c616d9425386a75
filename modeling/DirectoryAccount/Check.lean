import DirectoryAccount.Diagnostics
import DirectoryAccount.Failure

/-!
# Checks

A check comes to a result or a failure, and says things to the reporter on the way. `Check` keeps
both apart: what is said is a list of messages, and whether any of it shows is decided afterwards,
by `Check.lines`, from the settings.

Of the settings a check is told at most whether debugging is enabled. Where a message takes some
working out, `Check.debugIf` leaves it unsaid if nobody is to see it.

**What was said before a failure stays said.**

A facet of an account is checked by rules in order of precedence. `Check.firstDecision` asks them in
turn and stops at the first that decides; rules behind that one are not asked, so they neither say
anything nor fail.
-/

namespace DirectoryAccount

/-- A result or a failure, and what was said on the way to it. -/
structure Check (α : Type) where
  messages : List Message
  outcome : Except Failure α

namespace Check

variable {α β : Type}

/-- The lines that the messages of a check come to. -/
def lines (s : Settings) (c : Check α) : List Line :=
  c.messages.flatMap (Message.lines s)

/-- Continues with the result of a check, if it has one. -/
def andThen (c : Check α) (f : α → Check β) : Check β :=
  match c.outcome with
  | .error e => ⟨c.messages, .error e⟩
  | .ok a => ⟨c.messages ++ (f a).messages, (f a).outcome⟩

instance : Monad Check where
  pure a := ⟨[], .ok a⟩
  bind := andThen

/-- Says something. -/
def say (m : Message) : Check Unit :=
  ⟨[m], .ok ()⟩

/-- Says something for debugging. -/
def debug (text : String) : Check Unit :=
  say (.debug text false)

/-- Says something for debugging, if debugging is enabled. -/
def debugIf (debugging : Bool) (text : String) : Check Unit :=
  if debugging then debug text else pure ()

/-- A reading that says nothing. -/
def ofExcept (outcome : Except Failure α) : Check α :=
  ⟨[], outcome⟩

@[simp] theorem messages_pure (a : α) : (pure a : Check α).messages = [] := rfl

@[simp] theorem outcome_pure (a : α) : (pure a : Check α).outcome = .ok a := rfl

@[simp] theorem outcome_debugIf (debugging : Bool) (text : String) :
    (debugIf debugging text).outcome = .ok () := by
  cases debugging <;> rfl

theorem bind_of_ok {c : Check α} {a : α} (h : c.outcome = .ok a) (f : α → Check β) :
    c >>= f = ⟨c.messages ++ (f a).messages, (f a).outcome⟩ := by
  simp only [bind, andThen, h]

theorem bind_of_error {c : Check α} {e : Failure} (h : c.outcome = .error e) (f : α → Check β) :
    c >>= f = ⟨c.messages, .error e⟩ := by
  simp only [bind, andThen, h]

/-- The outcome of one check after another does not depend on what was said. -/
theorem outcome_bind (c : Check α) (f : α → Check β) :
    (c >>= f).outcome = c.outcome.bind fun a ↦ (f a).outcome := by
  cases h : c.outcome with
  | error e => rw [bind_of_error h]; rfl
  | ok a => rw [bind_of_ok h]; rfl

/-! ### Rules in order of precedence -/

/-- The decision of the first rule that decides, and `otherwise` if none does. -/
def firstDecision (otherwise : Bool) : List (Check (Option Bool)) → Check Bool
  | [] => pure otherwise
  | rule :: rest => do
    match ← rule with
    | some decision => pure decision
    | none => firstDecision otherwise rest

end Check

end DirectoryAccount
