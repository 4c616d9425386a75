import DirectoryAccount.Check
import Mathlib.Data.List.Forall2

/-!
# Reasoning about checks

Three ways to speak of a check that are kept by putting checks together, so that what holds of the
readings holds of every facet and of the whole assessment:

* `Check.Says P c`: all messages of the check have a property.
* `Check.ClosesWith P final c`: so do all but the last of them, which are those that the result
  calls for.
* `Check.Alike s c c'`: nobody can tell two checks apart under the settings, neither by what they
  come to nor by what they print.

Each has a lemma for a check after a check and one for rules in order of precedence, the latter by
induction on the rules.
-/

namespace DirectoryAccount

namespace Check

variable {α β : Type}

/-- A check after another comes to a result only if both do. -/
theorem exists_of_bind_eq_ok {c : Check α} {f : α → Check β} {b : β}
    (h : (c >>= f).outcome = .ok b) : ∃ a, c.outcome = .ok a ∧ (f a).outcome = .ok b := by
  cases hc : c.outcome with
  | error e =>
    rw [bind_of_error hc] at h
    cases h
  | ok a =>
    rw [bind_of_ok hc] at h
    exact ⟨a, rfl, h⟩

/-- A check after another prints after it. -/
theorem lines_bind_of_ok {c : Check α} {a : α} (h : c.outcome = .ok a) (f : α → Check β)
    (s : Settings) : (c >>= f).lines s = c.lines s ++ (f a).lines s := by
  rw [bind_of_ok h]
  exact List.flatMap_append

/-- Nothing more is printed after a failure. -/
theorem lines_bind_of_error {c : Check α} {e : Failure} (h : c.outcome = .error e)
    (f : α → Check β) (s : Settings) : (c >>= f).lines s = c.lines s := by
  rw [bind_of_error h]
  rfl

/-- Putting a result into another form prints nothing. -/
theorem lines_bind_pure (c : Check α) (g : α → β) (s : Settings) :
    (c >>= fun a ↦ pure (g a)).lines s = c.lines s := by
  cases h : c.outcome with
  | error e => exact lines_bind_of_error h _ s
  | ok a => exact (lines_bind_of_ok h _ s).trans (List.append_nil _)

/-- Rules in order print what the first of them prints, and then what the others do if the first
comes to no decision. -/
theorem lines_firstDecision_cons {rule : Check (Option Bool)} {p : Prop} [Decidable p]
    (h : rule.outcome = .ok none ↔ p) (otherwise : Bool) (rest : List (Check (Option Bool)))
    (s : Settings) : (firstDecision otherwise (rule :: rest)).lines s =
      rule.lines s ++ if p then (firstDecision otherwise rest).lines s else [] := by
  rw [firstDecision]
  cases hrule : rule.outcome with
  | error e =>
    have hp : ¬p := fun hp ↦ by cases hrule.symm.trans (h.2 hp)
    rw [lines_bind_of_error hrule, if_neg hp, List.append_nil]
  | ok decision =>
    rw [lines_bind_of_ok hrule]
    cases decision with
    | none => rw [if_pos (h.1 hrule)]
    | some b =>
      have hp : ¬p := fun hp ↦ by cases hrule.symm.trans (h.2 hp)
      rw [if_neg hp]
      rfl

/-! ### What a check says -/

/-- All messages of a check have a property. -/
def Says (P : Message → Prop) (c : Check α) : Prop :=
  ∀ m ∈ c.messages, P m

variable {P : Message → Prop}

theorem says_pure (a : α) : (pure a : Check α).Says P := by
  intro m hm
  cases hm

theorem says_ofExcept (outcome : Except Failure α) : (ofExcept outcome).Says P := by
  intro m hm
  cases hm

theorem says_say {m : Message} (h : P m) : (say m).Says P := by
  intro n hn
  obtain rfl := List.mem_singleton.1 hn
  exact h

theorem Says.bind {c : Check α} {f : α → Check β} (hc : c.Says P) (hf : ∀ a, (f a).Says P) :
    (c >>= f).Says P := by
  cases h : c.outcome with
  | error e =>
    rw [bind_of_error h]
    exact hc
  | ok a =>
    rw [bind_of_ok h]
    intro m hm
    exact (List.mem_append.1 hm).elim (hc m) (hf a m)

theorem Says.mono {Q : Message → Prop} {c : Check α} (hc : c.Says P) (h : ∀ m, P m → Q m) :
    c.Says Q :=
  fun m hm ↦ h m (hc m hm)

/-- Rules in order say what the rules say. -/
theorem says_firstDecision {rules : List (Check (Option Bool))}
    (h : ∀ rule ∈ rules, rule.Says P) (otherwise : Bool) :
    (firstDecision otherwise rules).Says P := by
  induction rules with
  | nil => exact says_pure otherwise
  | cons rule rules ih =>
    refine (h rule List.mem_cons_self).bind fun decision ↦ ?_
    cases decision with
    | some b => exact says_pure b
    | none => exact ih fun r hr ↦ h r (List.mem_cons_of_mem rule hr)

/-! ### What a check says last -/

/-- The messages that a result calls for. A failure calls for none. -/
def closing (final : α → List Message) : Except Failure α → List Message
  | .error _ => []
  | .ok a => final a

/-- A check says things that have a property, and last what its result calls for. -/
def ClosesWith (P : Message → Prop) (final : α → List Message) (c : Check α) : Prop :=
  ∃ earlier, (∀ m ∈ earlier, P m) ∧ c.messages = earlier ++ closing final c.outcome

theorem Says.bind_closesWith {c : Check α} {f : α → Check β} {final : β → List Message}
    (hc : c.Says P) (hf : ∀ a, (f a).ClosesWith P final) : (c >>= f).ClosesWith P final := by
  cases h : c.outcome with
  | error e =>
    rw [bind_of_error h]
    exact ⟨c.messages, hc, (List.append_nil _).symm⟩
  | ok a =>
    rw [bind_of_ok h]
    obtain ⟨earlier, hearlier, hmessages⟩ := hf a
    refine ⟨c.messages ++ earlier, ?_, ?_⟩
    · intro m hm
      exact (List.mem_append.1 hm).elim (hc m) (hearlier m)
    · rw [hmessages, List.append_assoc]

/-! ### Checks that cannot be told apart -/

/-- Two checks come to the same and print the same under the settings. -/
def Alike (s : Settings) (c c' : Check α) : Prop :=
  c.outcome = c'.outcome ∧ c.lines s = c'.lines s

variable {s : Settings}

theorem Alike.refl (c : Check α) : c.Alike s c :=
  ⟨rfl, rfl⟩

theorem Alike.bind {c c' : Check α} {f f' : α → Check β} (hc : c.Alike s c')
    (hf : ∀ a, (f a).Alike s (f' a)) : (c >>= f).Alike s (c' >>= f') := by
  cases h : c.outcome with
  | error e =>
    have h' : c'.outcome = .error e := hc.1.symm.trans h
    refine ⟨?_, ?_⟩
    · rw [bind_of_error h, bind_of_error h']
    · rw [lines_bind_of_error h, lines_bind_of_error h', hc.2]
  | ok a =>
    have h' : c'.outcome = .ok a := hc.1.symm.trans h
    refine ⟨?_, ?_⟩
    · rw [bind_of_ok h, bind_of_ok h']
      exact (hf a).1
    · rw [lines_bind_of_ok h, lines_bind_of_ok h', hc.2, (hf a).2]

/-- Going on in the same way keeps two checks alike. -/
theorem Alike.bind_right {c c' : Check α} (hc : c.Alike s c') (f : α → Check β) :
    (c >>= f).Alike s (c' >>= f) :=
  hc.bind fun a ↦ .refl (f a)

/-- Rules that are alike one by one are alike in order. -/
theorem alike_firstDecision {rules rules' : List (Check (Option Bool))}
    (h : List.Forall₂ (Alike s) rules rules') (otherwise : Bool) :
    (firstDecision otherwise rules).Alike s (firstDecision otherwise rules') := by
  induction h with
  | nil => exact .refl _
  | @cons rule rule' rules rules' hrule _ ih =>
    refine hrule.bind fun decision ↦ ?_
    cases decision with
    | some b => exact .refl _
    | none => exact ih

end Check

end DirectoryAccount
