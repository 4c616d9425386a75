import DirectoryAccount.Proofs.Session
import Mathlib.Data.List.Basic

/-!
# Verbosity over a run

Each of the two layers keeps a verbosity of its own. Setting the reporter's sets the terminal's too,
setting the terminal's leaves the reporter alone, and the environment switches debugging besides.
Whether a message shows depends on all three.

Main statement: `Session.verbosity_over_runs`. After any history of a session the verbosity of each
layer and every environment variable are as they were last set (`lastVerbosity`, `lastVariable`),
and from these alone can be read off whether the next message shows
(`TerminalMessage.ShownAt`, `Message.ShownUnder`).

**Nothing else matters.** Messages, failures and assessments in between leave no trace. One look at
each action says so (`Session.verbosity_step`, `Session.variable_step`), and
`Session.register_run` makes it a statement on runs.
-/

namespace DirectoryAccount

/-! ### What was set last -/

namespace Action

/-- The verbosity that an action sets for a layer, if it does. Setting the reporter's sets the
terminal's as well. -/
def setsVerbosity? : Layer → Action → Option Verbosity
  | .reporter, setVerbosity .reporter v => some v
  | .terminal, setVerbosity _ v => some v
  | _, _ => none

/-- What an action makes of an environment variable, if it touches it. -/
def setsVariable? (variableName : String) : Action → Option (Option String)
  | setVariable name value => if variableName = name then some value else none
  | _ => none

theorem setsVerbosity?_eq_none {action : Action} (h : ∀ layer v, action ≠ setVerbosity layer v)
    (layer : Layer) : action.setsVerbosity? layer = none := by
  cases action with
  | setVerbosity l v => exact absurd rfl (h l v)
  | setAttribute | deleteAttribute | setClock | setVariable | sayToTerminal | say | ask =>
    cases layer <;> rfl

/-- The layers differ only in what is set for the terminal alone. -/
theorem setsVerbosity?_terminal_eq {action : Action} (h : ∀ v, action ≠ setVerbosity .terminal v) :
    action.setsVerbosity? .terminal = action.setsVerbosity? .reporter := by
  cases action with
  | setVerbosity layer v =>
    cases layer with
    | reporter => rfl
    | terminal => exact absurd rfl (h v)
  | setAttribute | deleteAttribute | setClock | setVariable | sayToTerminal | say | ask => rfl

end Action

/-- The verbosity last set for a layer in a history, at the beginning of which both are quiet. -/
def lastVerbosity (layer : Layer) (history : List Action) : Verbosity :=
  (history.filterMap (Action.setsVerbosity? layer)).getLastD .quiet

/-- What a history last made of an environment variable. One that it does not touch is as it was in
the environment at the beginning. -/
def lastVariable (environment : Table String) (variableName : String) (history : List Action) :
    Option String :=
  (history.filterMap (Action.setsVariable? variableName)).getLastD (environment.get? variableName)

/-! ### When messages show -/

theorem Verbosity.showsVerbose_eq_false_iff {v : Verbosity} :
    v.showsVerbose = false ↔ v = .quiet := by
  obtain ⟨verbose, debug⟩ := v
  rw [showsVerbose, Bool.or_eq_false_iff, quiet, mk.injEq]

/-- The terminal shows a message: one for verbose operation only unless both its flags are off, a
debug message if it is forced or the debug flag is on. -/
def TerminalMessage.ShownAt (v : Verbosity) : TerminalMessage → Prop
  | warning _ verboseOnly | info _ verboseOnly => ¬(verboseOnly = true ∧ v = .quiet)
  | debug _ _ forced => forced = true ∨ v.debug = true

/-- The reporter hands a message on and the terminal shows it. Only for warnings does the verbosity
of the terminal matter. -/
def Message.ShownUnder (s : Settings) : Message → Prop
  | warning _ verboseOnly => ¬(verboseOnly = true ∧ s.terminal = .quiet)
  | info _ => s.reporter.verbose = true ∨ s.debugEnabled = true
  | debug _ _ => s.debugEnabled = true

instance (v : Verbosity) : DecidablePred (TerminalMessage.ShownAt v)
  | .warning _ verboseOnly | .info _ verboseOnly =>
    inferInstanceAs (Decidable ¬(verboseOnly = true ∧ v = .quiet))
  | .debug _ _ forced => inferInstanceAs (Decidable (forced = true ∨ v.debug = true))

instance (s : Settings) : DecidablePred (Message.ShownUnder s)
  | .warning _ verboseOnly =>
    inferInstanceAs (Decidable ¬(verboseOnly = true ∧ s.terminal = .quiet))
  | .info _ => inferInstanceAs (Decidable (s.reporter.verbose = true ∨ s.debugEnabled = true))
  | .debug _ _ => inferInstanceAs (Decidable (s.debugEnabled = true))

theorem TerminalMessage.lines_ne_nil_iff {m : TerminalMessage} {v : Verbosity} :
    m.lines v ≠ [] ↔ m.ShownAt v := by
  cases m with
  | warning text verboseOnly | info text verboseOnly =>
    rw [lines, ShownAt, ← Verbosity.showsVerbose_eq_false_iff]
    cases verboseOnly <;> cases v.showsVerbose <;> simp
  | debug text withTrace forced =>
    rw [lines, ShownAt]
    cases forced <;> cases v.debug <;> simp

theorem Message.lines_ne_nil_iff {m : Message} {s : Settings} :
    m.lines s ≠ [] ↔ m.ShownUnder s := by
  cases m with
  | warning text verboseOnly =>
    exact TerminalMessage.lines_ne_nil_iff (m := .warning text verboseOnly)
  | info text =>
    rw [lines, handedOn, ShownUnder]
    cases s.reporter.verbose <;> cases s.debugEnabled <;> simp [TerminalMessage.lines]
  | debug text withTrace =>
    rw [lines, handedOn, ShownUnder]
    cases s.debugEnabled <;> simp [TerminalMessage.lines]

namespace Settings

/-- The verbosity of a layer. -/
def verbosity (s : Settings) : Layer → Verbosity
  | .reporter => s.reporter
  | .terminal => s.terminal

/-- Setting a variable, or removing it, makes of it what was given and leaves the others alone. -/
theorem get?_setVariable (s : Settings) (name n : String) (value : Option String) :
    (s.setVariable name value).environment.get? n =
      if n = name then value else s.environment.get? n := by
  cases value with
  | none => exact Table.get?_erase _ _ _
  | some text => exact Table.get?_insert _ _ _ _

theorem switchedOn_iff {s : Settings} {variableName : String} :
    s.switchedOn variableName = true ↔
      ∃ text, s.environment.get? variableName = some text ∧ text ≠ "" := by
  rw [switchedOn]
  cases s.environment.get? variableName <;> simp

/-- Debugging is enabled for the reporter or by a variable that is set to something. -/
theorem debugEnabled_iff {s : Settings} : s.debugEnabled = true ↔
    s.reporter.debug = true ∨ ∃ variableName ∈ debugVariables,
      ∃ text, s.environment.get? variableName = some text ∧ text ≠ "" := by
  rw [debugEnabled, Bool.or_eq_true, List.any_eq_true]
  simp only [switchedOn_iff]

end Settings

namespace Session

variable (s : Session) (history : List Action)

/-! ### Single actions -/

theorem verbosity_step (layer : Layer) (action : Action) :
    (s.step action).1.settings.verbosity layer =
      (action.setsVerbosity? layer).getD (s.settings.verbosity layer) := by
  cases action with
  | setVerbosity l v => cases l <;> cases layer <;> rfl
  | setVariable name value => cases value <;> cases layer <;> rfl
  | setAttribute | deleteAttribute | setClock | sayToTerminal | say | ask => cases layer <;> rfl

theorem variable_step (variableName : String) (action : Action) :
    (s.step action).1.settings.environment.get? variableName =
      (action.setsVariable? variableName).getD (s.settings.environment.get? variableName) := by
  cases action with
  | setVariable name value =>
    refine (s.settings.get?_setVariable name variableName value).trans ?_
    rw [Action.setsVariable?]
    split <;> rfl
  | setVerbosity layer v => cases layer <;> rfl
  | setAttribute | deleteAttribute | setClock | sayToTerminal | say | ask => rfl

/-! ### Runs -/

/-- The settings that a session has come to after a history. -/
def settingsAfter : Settings :=
  (s.run history).1.settings

/-- In the run of a history, an action and the rest, the action prints something. -/
def Prints (action : Action) (rest : List Action) : Prop :=
  ∃ reply, (s.run (history ++ action :: rest)).2[history.length]? = some reply ∧ reply.lines ≠ []

theorem prints_iff {action : Action} {rest : List Action} :
    s.Prints history action rest ↔ ((s.run history).1.step action).2.lines ≠ [] := by
  rw [Prints, getElem?_run_append_cons]
  simp only [Option.some.injEq, exists_eq_left']

theorem settingsAfter_append_singleton (action : Action) :
    s.settingsAfter (history ++ [action]) = ((s.run history).1.step action).1.settings := by
  rw [settingsAfter, run_append]
  rfl

/-- **The verbosity of a layer is the one last set for it.** -/
theorem verbosity_settingsAfter {layer : Layer} (hquiet : s.settings.verbosity layer = .quiet) :
    (s.settingsAfter history).verbosity layer = lastVerbosity layer history := by
  rw [lastVerbosity, ← hquiet]
  exact s.register_run history (·.settings.verbosity layer) _
    fun s action ↦ s.verbosity_step layer action

/-- **An environment variable is what was last made of it.** -/
theorem variable_settingsAfter (variableName : String) :
    (s.settingsAfter history).environment.get? variableName =
      lastVariable s.settings.environment variableName history :=
  s.register_run history (·.settings.environment.get? variableName) _
    fun s action ↦ s.variable_step variableName action

/-- **What shows depends on what was last set.** From quiet layers, after any history, the verbosity
of a layer is the one last set for it, where what is set for the reporter is set for the terminal
too, and environment variables are as last set. No other action changes a verbosity, whether it
fails or not. Debugging is enabled if the reporter's debug flag is on or one of two variables is set
to something. In every run the next message then shows just as these say, whatever comes after it.
While nothing is set for the terminal alone, the two layers agree. -/
theorem verbosity_over_runs (hquiet : ∀ layer, s.settings.verbosity layer = .quiet) :
    (∀ layer, (s.settingsAfter history).verbosity layer = lastVerbosity layer history) ∧
      (∀ variableName, (s.settingsAfter history).environment.get? variableName =
        lastVariable s.settings.environment variableName history) ∧
      (∀ action, (∀ layer v, action ≠ .setVerbosity layer v) → ∀ layer,
        (s.settingsAfter (history ++ [action])).verbosity layer =
          (s.settingsAfter history).verbosity layer) ∧
      ((s.settingsAfter history).debugEnabled = true ↔
        (s.settingsAfter history).reporter.debug = true ∨
          ∃ variableName ∈ ["DEBUG", "LDAPSTANDING_DEBUG"], ∃ text,
            (s.settingsAfter history).environment.get? variableName = some text ∧ text ≠ "") ∧
      (∀ m rest, s.Prints history (.say m) rest ↔ m.ShownUnder (s.settingsAfter history)) ∧
      (∀ m rest, s.Prints history (.sayToTerminal m) rest ↔
        m.ShownAt (s.settingsAfter history).terminal) ∧
      ((∀ v, .setVerbosity .terminal v ∉ history) →
        (s.settingsAfter history).terminal = (s.settingsAfter history).reporter) := by
  have hlast (layer : Layer) := s.verbosity_settingsAfter history (hquiet layer)
  refine ⟨hlast, s.variable_settingsAfter history, fun action haction layer ↦ ?_,
    Settings.debugEnabled_iff, fun m rest ↦ ?_, fun m rest ↦ ?_, fun hdirect ↦ ?_⟩
  · rw [settingsAfter_append_singleton, verbosity_step, Action.setsVerbosity?_eq_none haction]
    rfl
  · exact (s.prints_iff history).trans Message.lines_ne_nil_iff
  · exact (s.prints_iff history).trans TerminalMessage.lines_ne_nil_iff
  · have hsame (a : Action) (ha : a ∈ history) :
        a.setsVerbosity? .terminal = a.setsVerbosity? .reporter :=
      Action.setsVerbosity?_terminal_eq fun v hv ↦ hdirect v (hv ▸ ha)
    calc (s.settingsAfter history).terminal = lastVerbosity .terminal history := hlast .terminal
      _ = lastVerbosity .reporter history := by
        rw [lastVerbosity, List.filterMap_congr hsame, lastVerbosity]
      _ = (s.settingsAfter history).reporter := (hlast .reporter).symm

/-- A session on an entry whose control value is no integer, so that every assessment fails. -/
def ofCorruptControl : Session where
  settings := .initial
  clock := Filetime.epoch
  bag := .insert .empty Attribute.userAccountControl.name (.value (.text "disabled"))

/-- Verbose operation, and debugging by the environment. -/
def debuggingByEnvironment : List Action :=
  [.setVerbosity .reporter ⟨true, false⟩, .setVariable "DEBUG" (some "1")]

/-- A failing assessment leaves both layers verbose, and debug messages show through the reporter
only. -/
theorem verbosity_over_runs_corruptControl :
    (∀ layer, ofCorruptControl.settings.verbosity layer = .quiet) ∧
      (∃ f, ((ofCorruptControl.run debuggingByEnvironment).1.step
        (.ask (.assess none) none)).2.outcome = .error f) ∧
      (∀ layer, (ofCorruptControl.settingsAfter
        (debuggingByEnvironment ++ [.ask (.assess none) none])).verbosity layer = ⟨true, false⟩) ∧
      (∀ v, .setVerbosity .terminal v ∉ debuggingByEnvironment) ∧
      (ofCorruptControl.settingsAfter debuggingByEnvironment).terminal =
        (ofCorruptControl.settingsAfter debuggingByEnvironment).reporter ∧
      ofCorruptControl.Prints debuggingByEnvironment (.say (.debug "text" false)) [] ∧
      ¬ofCorruptControl.Prints debuggingByEnvironment
        (.sayToTerminal (.debug "text" false false)) [] := by
  have hquiet : ∀ layer, ofCorruptControl.settings.verbosity layer = .quiet := by
    intro layer
    cases layer <;> rfl
  have hdirect : ∀ v, .setVerbosity .terminal v ∉ debuggingByEnvironment := by
    intro v
    simp [debuggingByEnvironment]
  obtain ⟨hlast, -, hother, -, hsay, hterminal, hagree⟩ :=
    ofCorruptControl.verbosity_over_runs debuggingByEnvironment hquiet
  refine ⟨hquiet, ⟨_, rfl⟩, fun layer ↦ ?_, hdirect, hagree hdirect, ?_, ?_⟩
  · rw [hother _ (by simp), hlast]
    cases layer <;> rfl
  · rw [hsay]
    decide
  · rw [hterminal]
    decide

end Session

end DirectoryAccount
