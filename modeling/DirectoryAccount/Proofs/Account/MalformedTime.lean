import DirectoryAccount.Proofs.Account.Log
import DirectoryAccount.Proofs.Account.Validity

/-!
# Malformed times

Three attributes bound the validity of an account by times. A text there that is no generalized time
must not decide anything, and the people who run the directory should hear of it.

Main statement: `Session.unexpired_malformed_times`. The verdict is the one without the malformed
attributes, `Bag.withoutMalformed`. Each of them that the check comes to ask for (`Bag.Reaches`) is
warned of once, in the order of asking, and while debugging is off nothing else is printed.

**What is asked depends on what was decided before.** So a malformed end of the login is passed over
in silence if the password policy has an end, and all three are if there is an expiry.
-/

namespace DirectoryAccount

open Check Message

/-! ### Times that bound validity -/

/-- The attributes whose times bound the validity of an account, in the order in which they are
asked. -/
def Attribute.validityTimes : List Attribute :=
  [pwdStartTime, pwdEndTime, loginExpirationTime]

/-- The line that warns of a text that is no generalized time. -/
def Line.malformedTime (a : Attribute) (text : String) (fault : TimeFault) : Line :=
  marked warningMark ("Invalid format found parsing generalized time attribute " ++ a.name ++
    " with value '" ++ text ++ "': " ++ fault.reason)

namespace Bag

/-- The text of an attribute that is no generalized time, and why it is none. -/
def malformed? (bag : Bag) (a : Attribute) : Option (String × TimeFault) :=
  (bag.textOf a).bind fun t ↦
    match GeneralizedTime.read t with
    | .ok _ => none
    | .error fault => some (t, fault)

/-- The warning of an attribute, if its text is no generalized time. -/
def warning? (bag : Bag) (a : Attribute) : Option Line :=
  (bag.malformed? a).map fun p ↦ .malformedTime a p.1 p.2

/-- No well-formed start of validity lies ahead. -/
def HasBegun (bag : Bag) (now : Instant) : Prop :=
  ∀ start ∈ bag.timeOf .pwdStartTime, start ≤ now

instance (bag : Bag) (now : Instant) : Decidable (bag.HasBegun now) :=
  inferInstanceAs (Decidable (∀ start ∈ bag.timeOf .pwdStartTime, start ≤ now))

/-- The check of validity comes to ask for an attribute: for none if there is an expiry, for the
ends only after the start, and for that of the login only if the password policy has no end. -/
def Reaches (bag : Bag) (now : Instant) (a : Attribute) : Prop :=
  bag.textOf .accountExpires = none ∧ (a ≠ .pwdStartTime → bag.HasBegun now) ∧
    (a = .loginExpirationTime → bag.timeOf .pwdEndTime = none)

instance (bag : Bag) (now : Instant) : DecidablePred (bag.Reaches now) :=
  fun _ ↦ inferInstanceAs (Decidable (_ ∧ _))

/-- The attributes without those whose texts should be times and are none. -/
def withoutMalformed (bag : Bag) : Bag :=
  (Attribute.validityTimes.filter fun a ↦ (bag.malformed? a).isSome).foldl
    (fun rest a ↦ rest.erase a.name) bag

variable (bag : Bag)

/-! ### Leaving out what is malformed -/

/-- A text is a time or malformed, and not both. -/
theorem malformed?_eq_none_of_timeOf {a : Attribute} {t : Instant} (h : bag.timeOf a = some t) :
    bag.malformed? a = none := by
  rw [timeOf] at h
  obtain ⟨text, htext, ht⟩ := Option.bind_eq_some_iff.1 h
  rw [malformed?, htext, Option.bind_some]
  cases hread : GeneralizedTime.read text with
  | ok a => rfl
  | error fault =>
    rw [hread] at ht
    cases ht

theorem timeOf_eq_none_of_malformed? {a : Attribute} (h : (bag.malformed? a).isSome) :
    bag.timeOf a = none := by
  cases htime : bag.timeOf a with
  | none => rfl
  | some t =>
    rw [bag.malformed?_eq_none_of_timeOf htime] at h
    cases h

theorem textOf_foldl_erase (as : List Attribute) (b : Attribute) :
    textOf (as.foldl (fun rest a ↦ rest.erase a.name) bag) b =
      if b ∈ as then none else bag.textOf b := by
  induction as generalizing bag with
  | nil => simp
  | cons a as ih =>
    rw [List.foldl_cons, ih, textOf_erase]
    by_cases h : b = a <;> simp [h]

theorem timeOf_withoutMalformed (b : Attribute) :
    bag.withoutMalformed.timeOf b = bag.timeOf b := by
  rw [timeOf, withoutMalformed, textOf_foldl_erase]
  split
  · rename_i hmem
    rw [bag.timeOf_eq_none_of_malformed? (List.mem_filter.1 hmem).2]
    rfl
  · rfl

theorem expires_withoutMalformed : bag.withoutMalformed.expires = bag.expires := by
  have hother : ¬Attribute.accountExpires ∈ Attribute.validityTimes := by decide
  rw [expires, withoutMalformed, textOf_foldl_erase,
    if_neg fun hmem ↦ hother (List.mem_filter.1 hmem).1]
  rfl

end Bag

/-- The verdict on validity does without malformed times. -/
theorem Facet.outcome_unexpired_withoutMalformed (bag : Bag) (debugging : Bool) (now : Instant) :
    (unexpired bag.withoutMalformed debugging now).outcome =
      (unexpired bag debugging now).outcome := by
  have hwindow : bag.withoutMalformed.window = bag.window := by
    funext expires
    cases expires with
    | none => simp only [Bag.window, bag.timeOf_withoutMalformed]
    | some ticks => rfl
  rw [outcome_unexpired_eq_window, outcome_unexpired_eq_window, bag.expires_withoutMalformed,
    hwindow]

/-! ### What is asked for -/

/-- The attributes that are asked for, in order. -/
theorem Bag.filter_reaches (bag : Bag) (now : Instant) :
    (Attribute.validityTimes.filter fun a ↦ bag.Reaches now a) =
      if bag.textOf .accountExpires = none then
        .pwdStartTime :: if bag.HasBegun now then
          .pwdEndTime :: if bag.timeOf .pwdEndTime = none then [.loginExpirationTime] else []
        else []
      else [] := by
  by_cases haccount : bag.textOf .accountExpires = none
  · by_cases hbegun : bag.HasBegun now
    · by_cases hend : bag.timeOf .pwdEndTime = none
      · simp [Attribute.validityTimes, Bag.Reaches, haccount, hbegun, hend]
      · simp [Attribute.validityTimes, Bag.Reaches, haccount, hbegun, hend]
    · simp [Attribute.validityTimes, Bag.Reaches, haccount, hbegun]
  · simp [Attribute.validityTimes, Bag.Reaches, haccount]

namespace Facet

variable (bag : Bag) (now : Instant)

theorem outcome_unexpiredByFiletime_eq_none_iff (debugging : Bool) :
    (unexpiredByFiletime bag debugging now).outcome = .ok none ↔
      bag.textOf .accountExpires = none := by
  rw [outcome_unexpiredByFiletime]
  constructor
  · intro h
    by_contra htext
    -- An expiry that is there is refused, or it decides.
    cases hread : bag.expires with
    | error f =>
      rw [hread] at h
      cases h
    | ok expires =>
      obtain ⟨n, rfl⟩ := Option.ne_none_iff_exists'.1 (Bag.ne_none_of_expires_eq_ok hread htext)
      rw [hread] at h
      cases h
  · intro htext
    rw [Bag.expires, htext]
    rfl

theorem outcome_expiredBeforeStart_eq_none_iff :
    (expiredBeforeStart bag now).outcome = .ok none ↔ bag.HasBegun now := by
  rw [outcome_expiredBeforeStart, Bag.HasBegun]
  cases bag.timeOf .pwdStartTime with
  | none => simp
  | some start => simp [← Instant.isAfter_eq_false_iff]

theorem outcome_goodUntil_eq_none_iff (a : Attribute) :
    (goodUntil bag now a).outcome = .ok none ↔ bag.timeOf a = none := by
  rw [outcome_goodUntil, Except.ok.injEq, Option.map_eq_none_iff]

end Facet

/-! ### What is printed -/

section Log

variable {s : Settings} (hdebug : s.debugEnabled = false) (bag : Bag)

include hdebug

theorem Bag.lines_time (a : Attribute) :
    (bag.time a.name).lines s = (bag.warning? a).toList := by
  rw [Bag.time, lines_bind_of_ok (bag.outcome_text_name a),
    lines_eq_nil_of_says_debug (bag.says_text _) hdebug, List.nil_append, warning?, malformed?]
  cases bag.textOf a with
  | none => rfl
  | some t =>
    rw [Option.bind_some]
    dsimp only
    cases GeneralizedTime.read t with
    | ok a => rfl
    | error fault => exact (lines_bind_pure _ _ s).trans (lines_say_warning _ s)

namespace Facet

theorem lines_expiredBeforeStart (now : Instant) :
    (expiredBeforeStart bag now).lines s = (bag.warning? .pwdStartTime).toList := by
  refine (lines_bind_of_says_debug (fun time ↦ ?_) hdebug).trans (bag.lines_time hdebug _)
  cases time with
  | none => exact says_pure none
  | some start =>
    dsimp only
    split
    · exact (says_debug _).bind fun _ ↦ says_pure _
    · exact says_pure none

theorem lines_goodUntil (now : Instant) (a : Attribute) :
    (goodUntil bag now a).lines s = (bag.warning? a).toList := by
  refine (lines_bind_of_says_debug (fun time ↦ ?_) hdebug).trans (bag.lines_time hdebug a)
  cases time <;> exact says_pure _

/-- What validity prints follows its rules: the warning of the start comes first, and each further
one only if nothing before it decides. -/
theorem lines_unexpired_eq_ite (debugging : Bool) (now : Instant) :
    (unexpired bag debugging now).lines s =
    if bag.textOf .accountExpires = none then
      (bag.warning? .pwdStartTime).toList ++
        if bag.HasBegun now then
          (bag.warning? .pwdEndTime).toList ++
            if bag.timeOf .pwdEndTime = none then (bag.warning? .loginExpirationTime).toList else []
        else []
    else [] := by
  -- Behind the last rule nothing is printed, whether it decides or not.
  have hlast : (firstDecision true []).lines s = [] := rfl
  rw [unexpired,
    lines_firstDecision_cons (outcome_unexpiredByFiletime_eq_none_iff bag now debugging),
    lines_firstDecision_cons (outcome_expiredBeforeStart_eq_none_iff bag now),
    lines_firstDecision_cons (outcome_goodUntil_eq_none_iff bag now _),
    lines_firstDecision_cons (outcome_goodUntil_eq_none_iff bag now _),
    lines_eq_nil_of_says_debug (says_unexpiredByFiletime bag debugging now) hdebug,
    lines_expiredBeforeStart hdebug, lines_goodUntil hdebug, lines_goodUntil hdebug, hlast,
    ite_self, List.append_nil, List.nil_append]

/-- **Validity warns of the malformed times that it comes to ask for**, and prints nothing else. -/
theorem lines_unexpired (debugging : Bool) (now : Instant) : (unexpired bag debugging now).lines s =
    (Attribute.validityTimes.filter fun a ↦ bag.Reaches now a).filterMap bag.warning? := by
  rw [lines_unexpired_eq_ite hdebug, bag.filter_reaches, List.filterMap_eq_flatMap_toList]
  split_ifs
  all_goals simp

end Facet

end Log

/-! ### Asking a session -/

namespace Session

/-- What validity prints does not depend on what is left unsaid. -/
theorem lines_reply_unexpired (s : Session) :
    (s.reply .unexpired).lines = (Facet.unexpired s.bag true s.clock).lines s.settings :=
  (lines_bind_pure _ _ _).trans (Facet.alike_unexpired s.bag s.settings s.clock).2

/-- **A malformed time counts as absent, and is warned of once.** Asked whether an account is within
its validity, a session answers as it would without the attributes whose texts are malformed times.
Of these it warns of those that it comes to ask for, each with its name, its text and the reason, in
the order of asking. Under all settings there are no other warnings, and unless debugging is enabled
there are no other lines. -/
theorem unexpired_malformed_times (s : Session) :
    ({ s with bag := s.bag.withoutMalformed }.reply .unexpired).outcome =
        (s.reply .unexpired).outcome ∧
      (s.settings.debugEnabled = false → (s.reply .unexpired).lines =
        (Attribute.validityTimes.filter fun a ↦ s.bag.Reaches s.clock a).filterMap
          s.bag.warning?) ∧
      (s.reply .unexpired).lines.filter (fun l ↦ l.HasMark Line.warningMark) =
        (Attribute.validityTimes.filter fun a ↦ s.bag.Reaches s.clock a).filterMap
          s.bag.warning? := by
  rw [lines_reply_unexpired]
  refine ⟨?_, fun hdebug ↦ Facet.lines_unexpired hdebug s.bag true s.clock, ?_⟩
  · rw [outcome_reply_unexpired, outcome_reply_unexpired,
      Facet.outcome_unexpired_withoutMalformed]
  -- The warnings are the same under all settings, and quiet ones print nothing else.
  · rw [filter_warning_lines ((Facet.says_unexpired s.bag true s.clock).mono fun _ ↦ .inl)
      s.settings .initial, Facet.lines_unexpired rfl, List.filter_eq_self]
    intro l hl
    obtain ⟨a, -, ha⟩ := List.mem_filterMap.1 hl
    obtain ⟨p, -, rfl⟩ := Option.map_eq_some_iff.1 ha
    exact decide_eq_true ((Line.hasMark_marked_iff (by decide) (by decide) _).2 rfl)

/-- A session on an account whose validity starts in a month that does not exist and ends at no
time. Its login expires at the start of 2020. -/
def ofMalformedTimes : Session where
  settings := .initial
  clock := .ofCivil ⟨2024, 1, 1, 0, 0, 0, 0⟩ (by decide)
  bag := .ofList [(Attribute.pwdStartTime.name, .value (.text "20231301000000Z")),
    (Attribute.pwdEndTime.name, .value (.text "not-a-time")),
    (Attribute.loginExpirationTime.name, .value (.text "20200101000000Z"))]

/-- The end of the login decides, as if it were alone, and the other two are warned of. -/
theorem unexpired_malformed_times_both :
    (ofMalformedTimes.reply .unexpired).outcome = .ok (.verdict false) ∧
      ({ ofMalformedTimes with bag := ofMalformedTimes.bag.withoutMalformed }.reply
        .unexpired).outcome = .ok (.verdict false) ∧
      (ofMalformedTimes.reply .unexpired).lines =
        [.malformedTime .pwdStartTime "20231301000000Z" .month,
          .malformedTime .pwdEndTime "not-a-time" .unrecognized] := by
  obtain ⟨hverdict, hlines, -⟩ := ofMalformedTimes.unexpired_malformed_times
  have hexpired : (Facet.unexpired ofMalformedTimes.bag ofMalformedTimes.settings.debugEnabled
      ofMalformedTimes.clock).outcome = .ok false := by decide +kernel
  have hreached : (Attribute.validityTimes.filter fun a ↦
      ofMalformedTimes.bag.Reaches ofMalformedTimes.clock a) = Attribute.validityTimes := by
    decide +kernel
  have hstart : ofMalformedTimes.bag.malformed? .pwdStartTime =
      some ("20231301000000Z", .month) := by decide +kernel
  have hend : ofMalformedTimes.bag.malformed? .pwdEndTime =
      some ("not-a-time", .unrecognized) := by decide +kernel
  have hlogin : ofMalformedTimes.bag.malformed? .loginExpirationTime = none := by decide +kernel
  rw [outcome_reply_unexpired ofMalformedTimes, hexpired] at hverdict
  refine ⟨?_, hverdict, (hlines rfl).trans ?_⟩
  · rw [outcome_reply_unexpired, hexpired]
    rfl
  · rw [hreached]
    simp [Attribute.validityTimes, Bag.warning?, hstart, hend, hlogin]

end Session

end DirectoryAccount
