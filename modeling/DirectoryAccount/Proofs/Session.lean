import DirectoryAccount.Session

/-!
# Runs of a session

A run is taken apart at any of its actions. What comes before the action is a history, and it leads
the session to a state. The reply to the action is that of one step from this state
(`Session.getElem?_run_append_cons`), and what comes after makes no difference to it.

**A register holds what was set last.** If every action either sets some part of the session or
leaves it alone, then after any history this part is as the last action that sets it has set it, and
as it was at first if none does: `Session.register_run`. So one look at the single actions settles
all runs.
-/

namespace DirectoryAccount

namespace Session

variable (s : Session) (history rest : List Action) (action : Action)

theorem run_cons : s.run (action :: rest) =
    (((s.step action).1.run rest).1, (s.step action).2 :: ((s.step action).1.run rest).2) := rfl

/-- A run goes on from where its first part has come to. -/
theorem run_append : s.run (history ++ rest) =
    (((s.run history).1.run rest).1, (s.run history).2 ++ ((s.run history).1.run rest).2) := by
  induction history generalizing s with
  | nil => rfl
  | cons a history ih => rw [List.cons_append, run_cons, ih, run_cons, List.cons_append]

/-- Every action has a reply, whether it fails or not. -/
theorem length_replies : (s.run history).2.length = history.length := by
  induction history generalizing s with
  | nil => rfl
  | cons a history ih => exact congrArg Nat.succ (ih _)

/-- **The reply to an action of a run is that of one step** from the state that the history before
it leads to. -/
theorem getElem?_run_append_cons : (s.run (history ++ action :: rest)).2[history.length]? =
    some ((s.run history).1.step action).2 := by
  rw [run_append, ← s.length_replies history, List.getElem?_append_right (Nat.le_refl _),
    Nat.sub_self]
  rfl

/-- **A register holds what was set last**, and what it held at first if nothing was set. -/
theorem register_run {β : Type} (register : Session → β) (sets? : Action → Option β)
    (hstep : ∀ s action, register (s.step action).1 = (sets? action).getD (register s)) :
    register (s.run history).1 = (history.filterMap sets?).getLastD (register s) := by
  -- The front of the history goes first, so the state that the rest starts from varies.
  induction history generalizing s with
  | nil => rfl
  | cons a history ih =>
    show register ((s.step a).1.run history).1 = _
    rw [ih, hstep]
    cases ha : sets? a with
    | none => rw [List.filterMap_cons_none ha, Option.getD_none]
    | some b => rw [List.filterMap_cons_some ha, List.getLastD_cons, Option.getD_some]

end Session

end DirectoryAccount
