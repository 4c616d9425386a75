import DirectoryAccount.Proofs.Account.Precedence

/-!
# Validity over time

How the verdict on an account moves with the clock. The attributes fix a `Window`, which is the
moments from a start up to, but not including, an end, where either may be missing. An account is
within its validity at exactly the moments of its window: `Facet.outcome_unexpired_eq_window`.

A file time compares in whole milliseconds and a generalized time in microseconds, but both only
ever ask whether the clock is before a bound. So a file time is a bound in microseconds as well,
`Filetime.endMicros`, and it is rounded up.

Main statement: `Session.validity_over_time`. An account that has left its validity does not come
back to it, and nothing but this one facet looks at the clock.
-/

namespace DirectoryAccount

/-! ### Windows -/

/-- The moments from a start up to, but not including, an end, both in microseconds since the start
of year 1. Without a start or an end the window is open on that side. -/
structure Window where
  start : Option Int
  stop : Option Int
  deriving DecidableEq, Repr

namespace Window

/-- A moment lies in a window. -/
def Contains (w : Window) (now : Instant) : Prop :=
  (∀ a ∈ w.start, a ≤ now.micros) ∧ ∀ b ∈ w.stop, (now.micros : Int) < b

instance (w : Window) (now : Instant) : Decidable (w.Contains now) :=
  inferInstanceAs (Decidable (_ ∧ _))

/-- A window between instants holds the moments from the one and before the other. -/
theorem contains_map_micros_iff {start stop : Option Instant} {now : Instant} :
    Contains ⟨start.map fun t ↦ t.micros, stop.map fun t ↦ t.micros⟩ now ↔
      (∀ t ∈ start, t ≤ now) ∧ ∀ t ∈ stop, now < t := by
  simp [Contains, Instant.le_def, Instant.lt_def]

variable {w : Window} {t₁ t₂ t₃ : Instant}

/-- **A window has no gaps.** -/
theorem contains_of_between (h₁ : w.Contains t₁) (h₃ : w.Contains t₃) (h₁₂ : t₁ ≤ t₂)
    (h₂₃ : t₂ ≤ t₃) : w.Contains t₂ := by
  rw [Instant.le_def] at h₁₂ h₂₃
  refine ⟨fun a ha ↦ ?_, fun b hb ↦ ?_⟩
  · have := h₁.1 a ha
    omega
  · have := h₃.2 b hb
    omega

/-- A window without a start is left once and for all. -/
theorem not_contains_of_le (hstart : w.start = none) (h₁ : ¬w.Contains t₁) (h₁₂ : t₁ ≤ t₂) :
    ¬w.Contains t₂ := by
  rw [Instant.le_def] at h₁₂
  intro h₂
  refine h₁ ⟨fun a ha ↦ ?_, fun b hb ↦ ?_⟩
  · rw [hstart] at ha
    cases ha
  · have := h₂.2 b hb
    omega

end Window

/-! ### The window of an account -/

/-- The first microsecond at which a file time is no longer ahead, counted from the start of
year 1: the ticks rounded up to the millisecond. -/
def Filetime.endMicros (ticks : Int) : Int :=
  epochMicros - -ticks / 10000 * 1000

/-- The clock in ticks is before a file time as long as the clock itself is before its end. -/
theorem Filetime.ofInstant_lt_iff_micros_lt {now : Instant} {ticks : Int} :
    ofInstant now < ticks ↔ (now.micros : Int) < endMicros ticks := by
  rw [ofInstant, ofMicros, endMicros]
  omega

namespace Bag

/-- The window in which an account is within its validity, given its expiry. Without an expiry the
times of the password policy and, after them, of the login count. -/
def window (bag : Bag) : Option Int → Window
  | some ticks =>
    ⟨none, if ticks = 0 ∨ ticks = Filetime.never then none else some (Filetime.endMicros ticks)⟩
  | none =>
    ⟨(bag.timeOf .pwdStartTime).map fun t ↦ t.micros,
      ((bag.timeOf .pwdEndTime).or (bag.timeOf .loginExpirationTime)).map fun t ↦ t.micros⟩

/-- The window has no start if an expiry decides or if there is no time to start from. -/
theorem start_window {bag : Bag} {expires : Option Int}
    (h : expires ≠ none ∨ bag.timeOf .pwdStartTime = none) : (bag.window expires).start = none := by
  cases expires with
  | some ticks => rfl
  | none =>
    have hstart := h.resolve_left fun hne ↦ hne rfl
    rw [window, hstart]
    rfl

end Bag

/-- Of two ends the first that is a time counts, and without any there is no end. -/
theorem firstDecisive_affirmedUntil_iff {first second : Option String} {now : Instant} :
    firstDecisive [affirmedUntil now first, affirmedUntil now second] = true ↔
      ∀ t ∈ (wellFormedTime first).or (wellFormedTime second), now < t := by
  rw [affirmedUntil, affirmedUntil]
  rcases wellFormedTime first with - | t
  · rcases wellFormedTime second with - | t
    · simp [firstDecisive]
    · simp [firstDecisive_cons_none, firstDecisive_cons_some, Instant.lt_def]
  · simp [firstDecisive_cons_some, Instant.lt_def]

/-- The rules on validity ask whether the clock is in the window. -/
theorem firstDecisive_unexpiredRules (bag : Bag) (expires : Option Int) (now : Instant) :
    firstDecisive (unexpiredRules bag.textOf expires now) =
      decide ((bag.window expires).Contains now) := by
  rw [Bool.eq_iff_iff, decide_eq_true_iff, unexpiredRules]
  cases expires with
  | some ticks =>
    show (if ticks = 0 ∨ ticks = Filetime.never then true
      else decide (Filetime.ofInstant now < ticks)) = true ↔ _
    by_cases hmark : ticks = 0 ∨ ticks = Filetime.never
    · simp [Bag.window, Window.Contains, hmark]
    · simp [Bag.window, Window.Contains, hmark, Filetime.ofInstant_lt_iff_micros_lt]
  | none =>
    rw [Bag.window, Window.contains_map_micros_iff, Option.map_none, firstDecisive_cons_none]
    have hends : firstDecisive [affirmedUntil now (bag.textOf .pwdEndTime),
        affirmedUntil now (bag.textOf .loginExpirationTime)] = true ↔
        ∀ t ∈ (bag.timeOf .pwdEndTime).or (bag.timeOf .loginExpirationTime), now < t :=
      firstDecisive_affirmedUntil_iff
    -- Before its start an account is denied outright, so the ends count only from there on.
    rw [show wellFormedTime (bag.textOf .pwdStartTime) = bag.timeOf .pwdStartTime from rfl]
    rcases bag.timeOf .pwdStartTime with - | start
    · rw [Option.bind_none, firstDecisive_cons_none, hends]
      simp
    · rw [Option.bind_some]
      by_cases hahead : now.micros < start.micros
      · have hlate : ¬start ≤ now := Nat.not_le.2 hahead
        rw [if_pos hahead, firstDecisive_cons_some]
        simp [hlate]
      · have hbegun : start ≤ now := Nat.not_lt.1 hahead
        rw [if_neg hahead, firstDecisive_cons_none, hends]
        simp [hbegun]

/-- **An account is within its validity at the moments of its window**, once its expiry is read. -/
theorem Facet.outcome_unexpired_eq_window (bag : Bag) (debugging : Bool) (now : Instant) :
    (unexpired bag debugging now).outcome = bag.expires.map fun expires ↦
      decide ((bag.window expires).Contains now) := by
  rw [outcome_unexpired]
  simp only [firstDecisive_unexpiredRules]

/-! ### Verdicts at different moments -/

/-- An account whose expiry is read has one, if its attribute has a text. -/
theorem Bag.ne_none_of_expires_eq_ok {bag : Bag} {expires : Option Int}
    (hread : bag.expires = .ok expires) (h : bag.textOf .accountExpires ≠ none) :
    expires ≠ none := by
  obtain ⟨text, htext⟩ := Option.ne_none_iff_exists'.1 h
  rw [Bag.expires, htext, Option.mapM_some] at hread
  cases hinteger : readInteger .accountExpires Attribute.accountExpires.name text 64 with
  | error f =>
    rw [hinteger] at hread
    cases hread
  | ok n =>
    rw [hinteger] at hread
    cases hread
    exact Option.some_ne_none n

namespace Session

theorem outcome_reply_unexpired (s : Session) :
    (s.reply .unexpired).outcome =
      (Facet.unexpired s.bag s.settings.debugEnabled s.clock).outcome.map .verdict :=
  Check.outcome_bind_eq_map fun _ ↦ rfl

/-- What a session would answer if its clock showed the given moment. -/
def answerAt (s : Session) (now : Instant) (query : Query) : Except Failure Answer :=
  ({ s with clock := now }.reply query).outcome

theorem answerAt_unexpired (s : Session) (now : Instant) :
    s.answerAt now .unexpired = s.bag.expires.map fun expires ↦
      .verdict (decide ((s.bag.window expires).Contains now)) := by
  have houtcome : s.answerAt now .unexpired =
      (Facet.unexpired s.bag s.settings.debugEnabled now).outcome.map .verdict :=
    outcome_reply_unexpired { s with clock := now }
  rw [houtcome, Facet.outcome_unexpired_eq_window]
  cases s.bag.expires <;> rfl

theorem answerAt_assess (s : Session) (now : Instant) (name : Option String) :
    s.answerAt now (.assess name) =
      (s.bag.assess s.settings.debugEnabled now name).outcome.map .assessment :=
  outcome_step_assess { s with clock := now } none name

/-- Once the expiry is read, the verdict on validity is whether the moment lies in the window. -/
theorem answerAt_unexpired_eq_ok_iff {s : Session} {expires : Option Int}
    (hread : s.bag.expires = .ok expires) {now : Instant} {good : Bool} :
    s.answerAt now .unexpired = .ok (.verdict good) ↔
      decide ((s.bag.window expires).Contains now) = good := by
  rw [answerAt_unexpired, hread]
  simp only [Except.map, Except.ok.injEq, Answer.verdict.injEq]

/-- An assessment fails at all moments or at none, and only the facet of validity differs between
two moments. -/
theorem answerAt_assess_spec (s : Session) (name : Option String) :
    (∃ f, ∀ t, s.answerAt t (.assess name) = .error f) ∨
      ∃ a : Assessment, ∀ t, ∃ good, s.answerAt t .unexpired = .ok (.verdict good) ∧
        s.answerAt t (.assess name) = .ok (.assessment { a with unexpired := good }) := by
  simp only [answerAt_assess, Bag.outcome_assess]
  cases s.bag.controlValue.outcome with
  | error f => exact .inl ⟨f, fun _ ↦ rfl⟩
  | ok control =>
    cases hread : s.bag.expires with
    | error f => exact .inl ⟨f, fun _ ↦ rfl⟩
    | ok expires =>
      refine .inr ⟨⟨firstDecisive (enabledRules s.bag.textOf control), true,
        firstDecisive (passwordUnexpiredRules s.bag.textOf control),
        firstDecisive (unlockedRules s.bag.textOf control)⟩, fun t ↦ ⟨_,
        (answerAt_unexpired_eq_ok_iff hread).2 rfl, ?_⟩⟩
      rw [← firstDecisive_unexpiredRules]
      rfl

/-- **Validity is one interval of time.** Asked whether an account is within its validity, a session
fails in the same way at all moments, or answers at all of them, and then says yes at every moment
between two at which it says yes. If no start of validity counts, then once it says no it says no
ever after. The other three facets do not look at the clock, and neither do the failures of an
assessment: only the one facet moves. -/
theorem validity_over_time (s : Session) :
    ((∃ f, ∀ t, s.answerAt t .unexpired = .error f) ∨
      (∀ t, ∃ good, s.answerAt t .unexpired = .ok (.verdict good)) ∧
        ∀ t₁ t₂ t₃, t₁ ≤ t₂ → t₂ ≤ t₃ →
          s.answerAt t₁ .unexpired = .ok (.verdict true) →
            s.answerAt t₃ .unexpired = .ok (.verdict true) →
              s.answerAt t₂ .unexpired = .ok (.verdict true)) ∧
      ((s.bag.text Attribute.accountExpires.name).outcome ≠ .ok none ∨
          (s.bag.time Attribute.pwdStartTime.name).outcome = .ok none →
        ∀ t₁ t₂, t₁ ≤ t₂ → s.answerAt t₁ .unexpired = .ok (.verdict false) →
          s.answerAt t₂ .unexpired = .ok (.verdict false)) ∧
      (∀ q ∈ [Query.enabled, .passwordUnexpired, .unlocked], ∀ t₁ t₂,
        s.answerAt t₁ q = s.answerAt t₂ q) ∧
      ∀ name, (∃ f, ∀ t, s.answerAt t (.assess name) = .error f) ∨
        ∃ a : Assessment, ∀ t, ∃ good, s.answerAt t .unexpired = .ok (.verdict good) ∧
          s.answerAt t (.assess name) = .ok (.assessment { a with unexpired := good }) := by
  refine ⟨?_, fun hstart t₁ t₂ h₁₂ h₁ ↦ ?_, fun q hq t₁ t₂ ↦ ?_, s.answerAt_assess_spec⟩
  · cases hread : s.bag.expires with
    | error f =>
      refine .inl ⟨f, fun t ↦ ?_⟩
      rw [answerAt_unexpired, hread]
      rfl
    | ok expires =>
      refine .inr ⟨fun t ↦ ⟨_, (answerAt_unexpired_eq_ok_iff hread).2 rfl⟩, ?_⟩
      simp only [answerAt_unexpired_eq_ok_iff hread, decide_eq_true_eq]
      intro t₁ t₂ t₃ h₁₂ h₂₃ h₁ h₃
      exact Window.contains_of_between h₁ h₃ h₁₂ h₂₃
  · cases hread : s.bag.expires with
    | error f =>
      rw [answerAt_unexpired, hread] at h₁
      cases h₁
    | ok expires =>
      -- What the hypothesis says of the readings is that the window has no start.
      have hopen : (s.bag.window expires).start = none := by
        rw [Bag.outcome_text_name, Bag.outcome_time] at hstart
        refine Bag.start_window (hstart.imp (fun htext ↦ ?_) Except.ok.inj)
        exact Bag.ne_none_of_expires_eq_ok hread fun hnone ↦ htext (congrArg Except.ok hnone)
      rw [answerAt_unexpired_eq_ok_iff hread, decide_eq_false_iff_not] at h₁ ⊢
      exact Window.not_contains_of_le hopen h₁ h₁₂
  · simp only [List.mem_cons, List.not_mem_nil, or_false] at hq
    rcases hq with rfl | rfl | rfl <;> rfl

/-- A session on an account that is valid for the year 2000. -/
def ofYear2000 : Session where
  settings := .initial
  clock := Filetime.epoch
  bag := .ofList [(Attribute.pwdStartTime.name, .value (.text "20000101000000Z")),
    (Attribute.pwdEndTime.name, .value (.text "20010101000000Z"))]

/-- The first moment of a month. -/
def startOfMonth (year month : Nat) (h : (CivilTime.mk year month 1 0 0 0 0).Valid) : Instant :=
  .ofCivil ⟨year, month, 1, 0, 0, 0, 0⟩ h

/-- The account of the year 2000 is valid from its first moment to its last month, so in June. It
is not valid before that, which is why the start has to play no part for a no to be final. -/
theorem validity_over_time_year_2000 :
    ofYear2000.answerAt (startOfMonth 1999 12 (by decide)) .unexpired = .ok (.verdict false) ∧
      ofYear2000.answerAt (startOfMonth 2000 1 (by decide)) .unexpired = .ok (.verdict true) ∧
      ofYear2000.answerAt (startOfMonth 2000 6 (by decide)) .unexpired = .ok (.verdict true) ∧
      ofYear2000.answerAt (startOfMonth 2000 12 (by decide)) .unexpired = .ok (.verdict true) := by
  have hread : ofYear2000.bag.expires = .ok none := rfl
  have hjanuary : ofYear2000.answerAt (startOfMonth 2000 1 (by decide)) .unexpired =
      .ok (.verdict true) := (answerAt_unexpired_eq_ok_iff hread).2 (by decide +kernel)
  have hdecember : ofYear2000.answerAt (startOfMonth 2000 12 (by decide)) .unexpired =
      .ok (.verdict true) := (answerAt_unexpired_eq_ok_iff hread).2 (by decide +kernel)
  refine ⟨(answerAt_unexpired_eq_ok_iff hread).2 (by decide +kernel), hjanuary, ?_, hdecember⟩
  rcases ofYear2000.validity_over_time.1 with ⟨f, hf⟩ | ⟨-, hbetween⟩
  · rw [hf] at hjanuary
    cases hjanuary
  · exact hbetween _ _ _ (by decide) (by decide) hjanuary hdecember

end Session

end DirectoryAccount
