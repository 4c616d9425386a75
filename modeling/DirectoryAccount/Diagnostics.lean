import DirectoryAccount.Table
import DirectoryAccount.Text.Markup

/-!
# Diagnostics

Messages for people pass through two layers. The terminal writes lines with a coloured mark in front
and the message escaped behind it. The reporter stands before the terminal and decides what to hand
on; the checks speak to the reporter only. Each layer has its own verbosity, and the reporter
watches two environment variables besides.

**Verbosity flows one way.** Setting the reporter's sets the terminal's as well, setting the
terminal's leaves the reporter alone, and the environment is asked anew for every message.

`TerminalMessage.lines` and `Message.lines` say what comes of one message; nothing else prints.
-/

namespace DirectoryAccount

/-- How much a layer says. -/
structure Verbosity where
  verbose : Bool
  debug : Bool
  deriving DecidableEq, Repr

namespace Verbosity

/-- Nothing beyond the ordinary. -/
def quiet : Verbosity := ⟨false, false⟩

/-- Whether messages for verbose operation show; debugging implies it. -/
def showsVerbose (v : Verbosity) : Bool :=
  v.verbose || v.debug

end Verbosity

/-- The two layers that messages pass through. -/
inductive Layer where
  | reporter
  | terminal
  deriving DecidableEq, Repr

/-- All that decides what is printed. -/
structure Settings where
  reporter : Verbosity
  terminal : Verbosity
  /-- The environment variables that are set. -/
  environment : Table String

namespace Settings

/-- Both layers quiet and no environment variable set. -/
def initial : Settings := ⟨.quiet, .quiet, .empty⟩

/-- The environment variables that switch debugging on. -/
def debugVariables : List String :=
  ["DEBUG", "LDAPSTANDING_DEBUG"]

/-- An environment variable is set to something. Set to the empty text it counts as off. -/
def switchedOn (s : Settings) (variableName : String) : Bool :=
  match s.environment.get? variableName with
  | none => false
  | some text => text ≠ ""

/-- The reporter hands on debug messages. -/
def debugEnabled (s : Settings) : Bool :=
  s.reporter.debug || debugVariables.any s.switchedOn

/-- Sets the verbosity of a layer, and of those behind it. -/
def setVerbosity (s : Settings) (v : Verbosity) : Layer → Settings
  | .reporter => { s with reporter := v, terminal := v }
  | .terminal => { s with terminal := v }

/-- Sets an environment variable, or removes it. -/
def setVariable (s : Settings) (variableName : String) : Option String → Settings
  | some text => { s with environment := s.environment.insert variableName text }
  | none => { s with environment := s.environment.erase variableName }

end Settings

/-- What the terminal is made to show. -/
inductive Line where
  /-- A line with markup. -/
  | print (markup : String)
  /-- An account of the failure that is being dealt with. -/
  | trace
  deriving DecidableEq, Repr

namespace Line

/-- The mark in front of warnings. -/
def warningMark : String := "[yellow][!][/] "

/-- The mark in front of information. -/
def infoMark : String := "[blue][*][/] "

/-- The mark in front of debug messages. -/
def debugMark : String := "[dim][DEBUG][/] "

/-- A marked line. The message cannot bring markup of its own. -/
def marked (mark message : String) : Line :=
  print (mark ++ Markup.escape message)

end Line

/-! ### Messages -/

/-- A message to the terminal. -/
inductive TerminalMessage where
  | warning (text : String) (verboseOnly : Bool)
  | info (text : String) (verboseOnly : Bool)
  /-- A debug message, followed by a trace if asked for, and shown at any verbosity if forced. -/
  | debug (text : String) (withTrace forced : Bool)
  deriving DecidableEq, Repr

/-- The lines that a message comes to at the terminal's verbosity. -/
def TerminalMessage.lines (v : Verbosity) : TerminalMessage → List Line
  | warning text verboseOnly =>
    if verboseOnly && !v.showsVerbose then [] else [.marked Line.warningMark text]
  | info text verboseOnly =>
    if verboseOnly && !v.showsVerbose then [] else [.marked Line.infoMark text]
  | debug text withTrace forced =>
    if forced || v.debug then
      .marked Line.debugMark text :: if withTrace then [.trace] else []
    else []

/-- A message to the reporter. -/
inductive Message where
  | warning (text : String) (verboseOnly : Bool)
  | info (text : String)
  | debug (text : String) (withTrace : Bool)
  deriving DecidableEq, Repr

namespace Message

/-- What the reporter hands on to the terminal. Debug messages are forced there, because the
reporter has decided already. -/
def handedOn (s : Settings) : Message → Option TerminalMessage
  | warning text verboseOnly => some (.warning text verboseOnly)
  | info text =>
    if s.reporter.verbose || s.debugEnabled then some (.info text false) else none
  | debug text withTrace => if s.debugEnabled then some (.debug text withTrace true) else none

/-- The lines that a message comes to under the settings. -/
def lines (s : Settings) (m : Message) : List Line :=
  match m.handedOn s with
  | none => []
  | some t => t.lines s.terminal

end Message

end DirectoryAccount
