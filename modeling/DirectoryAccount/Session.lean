import DirectoryAccount.Account.Assessment
import DirectoryAccount.SearchResult

/-!
# Sessions

A session is a run of actions on shared state: the settings of the diagnostics, a clock, and the
attributes of one entry. `Session.step` performs one action and says what it answered and printed;
`Session.run` performs several, and a failing action does not end the run.

**Only settings change settings.** A check may fail and a message may print, but neither leaves
anything behind.
-/

namespace DirectoryAccount

/-- The state that the actions of a session share. -/
structure Session where
  settings : Settings
  clock : Instant
  bag : Bag

/-- A question about the attributes of an entry. -/
inductive Query where
  | text (name : String)
  | time (name : String)
  | controlValue
  | enabled
  | unexpired
  | passwordUnexpired
  | unlocked
  | assess (name : Option String)
  deriving DecidableEq, Repr

/-- Something to do in a session. -/
inductive Action where
  | setAttribute (name : String) (slot : Slot)
  | deleteAttribute (name : String)
  | setClock (now : Instant)
  | setVerbosity (layer : Layer) (verbosity : Verbosity)
  | setVariable (name : String) (value : Option String)
  | sayToTerminal (message : TerminalMessage)
  | say (message : Message)
  /-- Asks about the given attributes, or about those of the session. -/
  | ask (query : Query) (bag : Option Bag)

/-- What an action answers. -/
inductive Answer where
  | nothing
  | text (text : Option String)
  | time (instant : Option Instant)
  | controlValue (value : Option Int)
  | verdict (good : Bool)
  | assessment (assessment : Assessment)

/-- The check that answers a question. -/
def Query.check (debugging : Bool) (now : Instant) (bag : Bag) : Query → Check Answer
  | text name => do pure (.text (← bag.text name))
  | time name => do pure (.time (← bag.time name))
  | controlValue => do pure (.controlValue (← bag.controlValue))
  | enabled => do pure (.verdict (← Facet.enabled bag))
  | unexpired => do pure (.verdict (← Facet.unexpired bag debugging now))
  | passwordUnexpired => do pure (.verdict (← Facet.passwordUnexpired bag))
  | unlocked => do pure (.verdict (← Facet.unlocked bag))
  | assess name => do pure (.assessment (← bag.assess debugging now name))

/-- What an action came to. -/
structure Reply where
  outcome : Except Failure Answer
  lines : List Line

namespace Session

/-- Performs an action that answers nothing. -/
def silently (s : Session) (lines : List Line) : Session × Reply :=
  (s, ⟨.ok .nothing, lines⟩)

/-- Performs one action. -/
def step (s : Session) : Action → Session × Reply
  | .setAttribute name slot => { s with bag := s.bag.insert name slot }.silently []
  | .deleteAttribute name => { s with bag := s.bag.erase name }.silently []
  | .setClock now => { s with clock := now }.silently []
  | .setVerbosity layer verbosity =>
    { s with settings := s.settings.setVerbosity verbosity layer }.silently []
  | .setVariable name value =>
    { s with settings := s.settings.setVariable name value }.silently []
  | .sayToTerminal message => s.silently (message.lines s.settings.terminal)
  | .say message => s.silently (message.lines s.settings)
  | .ask query bag =>
    let check := query.check s.settings.debugEnabled s.clock (bag.getD s.bag)
    (s, ⟨check.outcome, check.lines s.settings⟩)

/-- Performs actions one after the other. -/
def run (s : Session) : List Action → Session × List Reply
  | [] => (s, [])
  | action :: rest =>
    let (s', reply) := s.step action
    let (s'', replies) := s'.run rest
    (s'', reply :: replies)

/-- What a session answers and prints when it is asked about the attributes that it holds. -/
def reply (s : Session) (query : Query) : Reply :=
  (s.step (.ask query none)).2

end Session

end DirectoryAccount
