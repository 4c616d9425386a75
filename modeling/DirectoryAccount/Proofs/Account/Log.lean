import DirectoryAccount.Proofs.Account.Precedence
import DirectoryAccount.Proofs.Check

/-!
# What an assessment prints

The checks speak in passing of what they do: debug messages, and warnings about times that are
malformed (`Message.IsRemark`). An assessment says one thing more, and says it last: the problems of
the account, as information, if it has any. Each facet is looked through once for what it says, and
the rest follows from the closure lemmas of `Check.Says` and `Check.ClosesWith`.

Main statement: `Session.assess_log`. The settings of the diagnostics decide how much of this
shows. The answer is the same under all settings, and so are the warnings.

**What is left unsaid would not have shown.** Two debug messages are said only while debugging is
enabled, and so a check is not the same under all settings. But under the settings that it looks at
nobody can tell it from the check that says everything (`Bag.alike_assess`), and that one knows of
no settings.

**A line is told by its mark**, the text at its front (`Line.HasMark`). The three marks tell the
three sorts of message apart whatever the message says, because none of them begins another.
-/

namespace DirectoryAccount

/-! ### Lines by their marks -/

namespace Line

/-- A printed line begins with a mark. -/
def HasMark (mark : String) : Line → Prop
  | print markup => mark.toList <+: markup.toList
  | trace => False

instance (mark : String) : DecidablePred (HasMark mark)
  | print markup => inferInstanceAs (Decidable (mark.toList <+: markup.toList))
  | trace => inferInstanceAs (Decidable False)

/-- The marks of the three sorts of message. -/
def marks : List String :=
  [warningMark, infoMark, debugMark]

theorem eq_of_marks_prefix :
    ∀ mark ∈ marks, ∀ mark' ∈ marks,
      mark.toList <+: mark'.toList ∨ mark'.toList <+: mark.toList → mark = mark' := by
  decide

/-- **A marked line has its own mark and no other**, whatever the message is. -/
theorem hasMark_marked_iff {mark mark' : String} (h : mark ∈ marks) (h' : mark' ∈ marks)
    (text : String) : (marked mark' text).HasMark mark ↔ mark = mark' := by
  rw [marked, HasMark, String.toList_append]
  constructor
  · intro hprefix
    exact eq_of_marks_prefix mark h mark' h'
      (List.prefix_or_prefix_of_prefix hprefix (List.prefix_append _ _))
  · rintro rfl
    exact List.prefix_append _ _

/-- A line with another mark is no line with this one. -/
theorem filter_other_mark {mark mark' : String} (h : mark ∈ marks) (h' : mark' ∈ marks)
    (hne : mark ≠ mark') (shown : Bool) (text : String) :
    (if shown then [marked mark' text] else []).filter (fun l ↦ l.HasMark mark) = [] := by
  cases shown with
  | false => rfl
  | true => simp [hasMark_marked_iff h h', hne]

end Line

/-! ### Sorts of messages -/

namespace Message

/-- A message for those who debug, without a trace. -/
def IsDebug (m : Message) : Prop :=
  ∃ text, m = .debug text false

/-- A message made in passing: one for those who debug, or a warning that always shows. -/
def IsRemark (m : Message) : Prop :=
  m.IsDebug ∨ ∃ text, m = .warning text false

/-- A remark, or information. -/
def IsPlain (m : Message) : Prop :=
  m.IsRemark ∨ ∃ text, m = .info text

theorem lines_debug (s : Settings) (text : String) :
    lines s (.debug text false) =
      if s.debugEnabled then [.marked Line.debugMark text] else [] := by
  cases h : s.debugEnabled <;> simp [lines, handedOn, TerminalMessage.lines, h]

theorem lines_warning (s : Settings) (text : String) :
    lines s (.warning text false) = [.marked Line.warningMark text] := rfl

theorem lines_info (s : Settings) (text : String) :
    lines s (.info text) =
      if s.reporter.verbose || s.debugEnabled then [.marked Line.infoMark text] else [] := by
  cases h : s.reporter.verbose || s.debugEnabled <;>
    simp [lines, handedOn, TerminalMessage.lines, h]

/-- The lines of a plain message do not depend on the terminal's verbosity. -/
theorem lines_congr {m : Message} (hm : m.IsPlain) {s s' : Settings}
    (hverbose : s.reporter.verbose = s'.reporter.verbose)
    (hdebug : s.debugEnabled = s'.debugEnabled) : m.lines s = m.lines s' := by
  rcases hm with (⟨text, rfl⟩ | ⟨text, rfl⟩) | ⟨text, rfl⟩
  · rw [lines_debug, lines_debug, hdebug]
  · rw [lines_warning, lines_warning]
  · rw [lines_info, lines_info, hverbose, hdebug]

/-- The warnings among the lines of a plain message do not depend on the settings at all. -/
theorem filter_warning_lines {m : Message} (hm : m.IsPlain) (s s' : Settings) :
    (m.lines s).filter (fun l ↦ l.HasMark Line.warningMark) =
      (m.lines s').filter (fun l ↦ l.HasMark Line.warningMark) := by
  have hother {mark : String} (hmark : mark ∈ Line.marks) (hne : Line.warningMark ≠ mark) :=
    Line.filter_other_mark (by decide : Line.warningMark ∈ Line.marks) hmark hne
  rcases hm with (⟨text, rfl⟩ | ⟨text, rfl⟩) | ⟨text, rfl⟩
  · rw [lines_debug, lines_debug, hother (by decide) (by decide), hother (by decide) (by decide)]
  · rw [lines_warning, lines_warning]
  · rw [lines_info, lines_info, hother (by decide) (by decide), hother (by decide) (by decide)]

/-- What a remark comes to is a warning, or it is a debug line and debugging is enabled. -/
theorem IsRemark.exists_of_mem_lines {m : Message} (hm : m.IsRemark) {s : Settings} {l : Line}
    (hl : l ∈ m.lines s) :
    (∃ text, l = .marked Line.warningMark text) ∨
      s.debugEnabled = true ∧ ∃ text, l = .marked Line.debugMark text := by
  rcases hm with ⟨text, rfl⟩ | ⟨text, rfl⟩
  · rw [lines_debug, List.mem_ite_nil_right] at hl
    exact .inr ⟨hl.1, text, List.mem_singleton.1 hl.2⟩
  · rw [lines_warning] at hl
    exact .inl ⟨text, List.mem_singleton.1 hl⟩

/-- What a plain message comes to is a warning, or it is a line of a sort that the settings let
through. -/
theorem IsPlain.exists_of_mem_lines {m : Message} (hm : m.IsPlain) {s : Settings} {l : Line}
    (hl : l ∈ m.lines s) :
    (∃ text, l = .marked Line.warningMark text) ∨
      (s.debugEnabled = true ∧ ∃ text, l = .marked Line.debugMark text) ∨
        (s.reporter.verbose || s.debugEnabled) = true ∧ ∃ text, l = .marked Line.infoMark text := by
  rcases hm with hremark | ⟨text, rfl⟩
  · exact (hremark.exists_of_mem_lines hl).imp_right .inl
  · rw [lines_info, List.mem_ite_nil_right] at hl
    exact .inr (.inr ⟨hl.1, text, List.mem_singleton.1 hl.2⟩)

end Message

open Check Message

/-! ### Lines of checks -/

namespace Check

variable {α : Type} {c : Check α}

theorem says_debug (text : String) : (debug text).Says IsDebug :=
  says_say ⟨text, rfl⟩

theorem says_debugIf (debugging : Bool) (text : String) :
    (debugIf debugging text).Says IsDebug := by
  cases debugging with
  | false => exact says_pure ()
  | true => exact says_debug text

theorem lines_say_warning (text : String) (s : Settings) :
    (say (.warning text false)).lines s = [.marked Line.warningMark text] :=
  List.flatMap_singleton _ _

/-- Debug messages are remarks. -/
theorem Says.remark (hc : c.Says IsDebug) : c.Says IsRemark :=
  hc.mono fun _ ↦ .inl

/-- The warnings of a check with plain messages do not depend on the settings. -/
theorem filter_warning_lines (hc : c.Says IsPlain) (s s' : Settings) :
    (c.lines s).filter (fun l ↦ l.HasMark Line.warningMark) =
      (c.lines s').filter (fun l ↦ l.HasMark Line.warningMark) := by
  rw [lines, lines, List.filter_flatMap, List.filter_flatMap]
  exact List.flatMap_congr fun m hm ↦ Message.filter_warning_lines (hc m hm) s s'

/-- What a check with plain messages prints are warnings, and lines of the sorts that the settings
let through. -/
theorem exists_of_mem_lines (hc : c.Says IsPlain) {s : Settings} {l : Line} (hl : l ∈ c.lines s) :
    (∃ text, l = .marked Line.warningMark text) ∨
      (s.debugEnabled = true ∧ ∃ text, l = .marked Line.debugMark text) ∨
        (s.reporter.verbose || s.debugEnabled) = true ∧
          ∃ text, l = .marked Line.infoMark text := by
  obtain ⟨m, hm, hl⟩ := List.mem_flatMap.1 hl
  exact (hc m hm).exists_of_mem_lines hl

/-- Debug messages come to no warning and to no information. -/
theorem not_hasMark_of_says_debug (hc : c.Says IsDebug) {s : Settings} {l : Line}
    (hl : l ∈ c.lines s) : ¬l.HasMark Line.warningMark ∧ ¬l.HasMark Line.infoMark := by
  obtain ⟨m, hm, hl⟩ := List.mem_flatMap.1 hl
  obtain ⟨text, rfl⟩ := hc m hm
  rw [lines_debug, List.mem_ite_nil_right] at hl
  obtain rfl := List.mem_singleton.1 hl.2
  rw [Line.hasMark_marked_iff (by decide) (by decide),
    Line.hasMark_marked_iff (by decide) (by decide)]
  decide

/-- While debugging is not enabled, debug messages print nothing. -/
theorem lines_eq_nil_of_says_debug (hc : c.Says IsDebug) {s : Settings}
    (hoff : s.debugEnabled = false) : c.lines s = [] := by
  rw [lines, List.flatMap_eq_nil_iff]
  intro m hm
  obtain ⟨text, rfl⟩ := hc m hm
  rw [lines_debug, hoff]
  rfl

/-- Going on with debug messages alone prints nothing more while debugging is off. -/
theorem lines_bind_of_says_debug {β : Type} {f : α → Check β} (hf : ∀ a, (f a).Says IsDebug)
    {s : Settings} (hoff : s.debugEnabled = false) : (c >>= f).lines s = c.lines s := by
  cases h : c.outcome with
  | error e => exact lines_bind_of_error h f s
  | ok a => rw [lines_bind_of_ok h, lines_eq_nil_of_says_debug (hf a) hoff, List.append_nil]

/-- What a check with plain messages prints does not depend on the terminal's verbosity. -/
theorem lines_congr (hc : c.Says IsPlain) {s s' : Settings}
    (hreporter : s.reporter = s'.reporter) (henvironment : s.environment = s'.environment) :
    c.lines s = c.lines s' := by
  obtain ⟨reporter, terminal, environment⟩ := s
  obtain rfl : reporter = s'.reporter := hreporter
  obtain rfl : environment = s'.environment := henvironment
  exact List.flatMap_congr fun m hm ↦ Message.lines_congr (hc m hm) rfl rfl

/-- A message that would not show need not be said. -/
theorem alike_debugIf (s : Settings) (text : String) :
    (debugIf s.debugEnabled text).Alike s (debugIf true text) := by
  cases h : s.debugEnabled with
  | true => exact .refl _
  | false => exact ⟨rfl, (lines_eq_nil_of_says_debug (says_debug text) h).symm⟩

end Check

/-! ### What the checks say -/

namespace Bag

variable (bag : Bag)

theorem says_text (name : String) : (bag.text name).Says IsDebug := by
  rw [Bag.text]
  cases bag.reading name with
  | absent => exact says_pure none
  | found t => exact says_pure (some t)
  | failed reason => exact (says_debug _).bind fun _ ↦ says_pure none

theorem says_time (name : String) : (bag.time name).Says IsRemark := by
  refine (bag.says_text name).remark.bind fun text ↦ ?_
  cases text with
  | none => exact says_pure none
  | some t =>
    dsimp only
    cases GeneralizedTime.read t with
    | ok a => exact says_pure (some a)
    | error fault => exact (says_say (.inr ⟨_, rfl⟩)).bind fun _ ↦ says_pure none

theorem says_controlValue : bag.controlValue.Says IsDebug := by
  refine (bag.says_text _).bind fun storedText ↦ (bag.says_text _).bind fun computedText ↦ ?_
  exact (says_ofExcept _).bind fun stored ↦ (says_ofExcept _).bind fun computed ↦ says_pure _

theorem says_mentionControl (debugging : Bool) : (bag.mentionControl debugging).Says IsDebug := by
  refine bag.says_controlValue.bind fun control ↦ ?_
  cases control with
  | none => exact says_pure ()
  | some value => exact says_debugIf debugging _

end Bag

namespace Facet

variable (bag : Bag)

theorem says_badIfTrue (a : Attribute) : (badIfTrue bag a).Says IsDebug := by
  refine (bag.says_text _).bind fun text ↦ ?_
  cases text <;> exact says_pure _

theorem says_goodUntil (now : Instant) (a : Attribute) : (goodUntil bag now a).Says IsRemark := by
  refine (bag.says_time _).bind fun time ↦ ?_
  cases time <;> exact says_pure _

theorem says_disabledByFlag : (disabledByFlag bag).Says IsDebug := by
  refine bag.says_controlValue.bind fun control ↦ ?_
  split
  · exact (says_debug _).bind fun _ ↦ says_pure _
  · exact says_pure none

theorem says_disabledBySentinel : (disabledBySentinel bag).Says IsDebug := by
  refine (bag.says_text _).bind fun text ↦ ?_
  split
  · exact (says_debug _).bind fun _ ↦ says_pure _
  · exact says_pure none

theorem says_enabledByWord : (enabledByWord bag).Says IsDebug := by
  refine (bag.says_text _).bind fun text ↦ ?_
  cases text <;> exact says_pure _

theorem says_enabled : (enabled bag).Says IsDebug := by
  refine says_firstDecision (fun rule hrule ↦ ?_) true
  simp only [List.mem_cons, List.not_mem_nil, or_false] at hrule
  rcases hrule with rfl | rfl | rfl | rfl | rfl
  · exact says_disabledByFlag bag
  · exact says_badIfTrue bag _
  · exact says_disabledBySentinel bag
  · exact says_badIfTrue bag _
  · exact says_enabledByWord bag

theorem says_unexpiredByFiletime (debugging : Bool) (now : Instant) :
    (unexpiredByFiletime bag debugging now).Says IsDebug := by
  refine (bag.says_text _).bind fun text ↦ ?_
  cases text with
  | none => exact says_pure none
  | some t =>
    refine (says_ofExcept _).bind fun expires ↦ ?_
    split
    · exact says_pure _
    · exact (says_debugIf debugging _).bind fun _ ↦ says_pure _

theorem says_expiredBeforeStart (now : Instant) :
    (expiredBeforeStart bag now).Says IsRemark := by
  refine (bag.says_time _).bind fun time ↦ ?_
  cases time with
  | none => exact says_pure none
  | some start =>
    dsimp only
    split
    · exact (says_debug _).remark.bind fun _ ↦ says_pure _
    · exact says_pure none

theorem says_unexpired (debugging : Bool) (now : Instant) :
    (unexpired bag debugging now).Says IsRemark := by
  refine says_firstDecision (fun rule hrule ↦ ?_) true
  simp only [List.mem_cons, List.not_mem_nil, or_false] at hrule
  rcases hrule with rfl | rfl | rfl | rfl
  · exact (says_unexpiredByFiletime bag debugging now).remark
  · exact says_expiredBeforeStart bag now
  · exact says_goodUntil bag now _
  · exact says_goodUntil bag now _

theorem says_passwordByFlags : (passwordByFlags bag).Says IsDebug := by
  refine bag.says_controlValue.bind fun control ↦ ?_
  split
  · exact says_pure _
  · split <;> exact says_pure _

theorem says_passwordUnexpired : (passwordUnexpired bag).Says IsDebug := by
  refine says_firstDecision (fun rule hrule ↦ ?_) true
  simp only [List.mem_cons, List.not_mem_nil, or_false] at hrule
  rcases hrule with rfl | rfl
  · exact says_passwordByFlags bag
  · exact says_badIfTrue bag _

theorem says_lockedByFlag : (lockedByFlag bag).Says IsDebug := by
  refine bag.says_controlValue.bind fun control ↦ ?_
  split <;> exact says_pure _

theorem says_unlocked : (unlocked bag).Says IsDebug := by
  refine says_firstDecision (fun rule hrule ↦ ?_) true
  simp only [List.mem_cons, List.not_mem_nil, or_false] at hrule
  rcases hrule with rfl | rfl | rfl
  · exact says_lockedByFlag bag
  · exact says_badIfTrue bag _
  · exact says_badIfTrue bag _

end Facet

/-! ### What is left unsaid -/

theorem Bag.alike_mentionControl (bag : Bag) (s : Settings) :
    (bag.mentionControl s.debugEnabled).Alike s (bag.mentionControl true) := by
  refine (Alike.refl _).bind fun control ↦ ?_
  cases control with
  | none => exact .refl _
  | some value => exact alike_debugIf s _

theorem Facet.alike_unexpiredByFiletime (bag : Bag) (s : Settings) (now : Instant) :
    (unexpiredByFiletime bag s.debugEnabled now).Alike s (unexpiredByFiletime bag true now) := by
  refine (Alike.refl _).bind fun text ↦ ?_
  cases text with
  | none => exact .refl _
  | some t =>
    refine (Alike.refl _).bind fun expires ↦ ?_
    split
    · exact .refl _
    · exact (alike_debugIf s _).bind_right _

theorem Facet.alike_unexpired (bag : Bag) (s : Settings) (now : Instant) :
    (unexpired bag s.debugEnabled now).Alike s (unexpired bag true now) :=
  alike_firstDecision (.cons (alike_unexpiredByFiletime bag s now)
    (.cons (.refl _) (.cons (.refl _) (.cons (.refl _) .nil)))) true

/-- **An assessment prints as if it said everything.** -/
theorem Bag.alike_assess (bag : Bag) (s : Settings) (now : Instant) (name : Option String) :
    (bag.assess s.debugEnabled now name).Alike s (bag.assess true now name) :=
  (bag.alike_mentionControl s).bind fun _ ↦ (Alike.refl _).bind fun _ ↦
    (Facet.alike_unexpired bag s now).bind_right _

/-! ### What an assessment says -/

/-- An assessment is good if all four facets are. -/
theorem Assessment.good_iff {a : Assessment} :
    a.good = true ↔ a.enabled = true ∧ a.unexpired = true ∧ a.passwordUnexpired = true ∧
      a.unlocked = true := by
  obtain ⟨enabled, unexpired, passwordUnexpired, unlocked⟩ := a
  revert enabled unexpired passwordUnexpired unlocked
  decide

/-- An account without problems is not mentioned, and one with problems is with all of them. -/
theorem Assessment.messages_mention (a : Assessment) (name : Option String) :
    (a.mention name).messages =
      if a.good then [] else
        [.info (accountLabel name ++ ": " ++ String.intercalate ", " a.problems)] := by
  rw [mention]
  split <;> rfl

namespace Bag

variable (bag : Bag)

/-- **An assessment makes remarks, and closes with the problems.** -/
theorem closesWith_assess (debugging : Bool) (now : Instant) (name : Option String) :
    (bag.assess debugging now name).ClosesWith IsRemark fun a ↦ (a.mention name).messages := by
  refine (bag.says_mentionControl debugging).remark.bind_closesWith fun _ ↦
    (Facet.says_enabled bag).remark.bind_closesWith fun enabled ↦
    (Facet.says_unexpired bag debugging now).bind_closesWith fun unexpired ↦
    (Facet.says_passwordUnexpired bag).remark.bind_closesWith fun passwordUnexpired ↦
    (Facet.says_unlocked bag).remark.bind_closesWith fun unlocked ↦ ?_
  refine ⟨[], fun m hm ↦ ?_, ?_⟩
  · cases hm
  · rw [bind_of_ok (Assessment.outcome_mention _ name), messages_pure, List.append_nil]
    rfl

/-- The messages of an assessment that was made are remarks and, if there are problems, the
information of them. -/
theorem exists_messages_assess (debugging : Bool) (now : Instant) (name : Option String) :
    ∃ earlier last, (∀ m ∈ earlier, m.IsRemark) ∧
      (bag.assess debugging now name).messages = earlier ++ last ∧
        ((last = [] ∧ ∀ a, (bag.assess debugging now name).outcome = .ok a → a.good = true) ∨
          ∃ text a, last = [.info text] ∧ (bag.assess debugging now name).outcome = .ok a ∧
            ¬a.good = true) := by
  obtain ⟨earlier, hearlier, hmessages⟩ := bag.closesWith_assess debugging now name
  refine ⟨earlier, _, hearlier, hmessages, ?_⟩
  cases houtcome : (bag.assess debugging now name).outcome with
  | error f =>
    refine .inl ⟨rfl, fun a ha ↦ ?_⟩
    cases ha
  | ok a =>
    rw [closing, Assessment.messages_mention]
    by_cases hgood : a.good = true
    · refine .inl ⟨if_pos hgood, fun b hb ↦ ?_⟩
      obtain rfl := Except.ok.inj hb
      exact hgood
    · exact .inr ⟨_, a, if_neg hgood, rfl, hgood⟩

theorem says_assess (debugging : Bool) (now : Instant) (name : Option String) :
    (bag.assess debugging now name).Says IsPlain := by
  obtain ⟨earlier, last, hearlier, hmessages, hlast⟩ :=
    bag.exists_messages_assess debugging now name
  intro m hm
  rw [hmessages] at hm
  rcases List.mem_append.1 hm with hm | hm
  · exact .inl (hearlier m hm)
  · rcases hlast with ⟨rfl, -⟩ | ⟨text, a, rfl, -, -⟩
    · cases hm
    · exact .inr ⟨text, List.mem_singleton.1 hm⟩

end Bag

/-- **The information of the problems comes last.** What an assessment prints falls into lines that
are no information and at most one that is, which is there just if there are problems and the
settings let information through. -/
theorem Bag.exists_lines_assess (bag : Bag) (debugging : Bool) (now : Instant)
    (name : Option String) (s : Settings) :
    ∃ earlier last, (bag.assess debugging now name).lines s = earlier ++ last ∧
      (∀ l ∈ earlier, ¬l.HasMark Line.infoMark) ∧
      (last = [] ∨ ∃ text, last = [.marked Line.infoMark text]) ∧
      (last ≠ [] ↔ (∃ a, (bag.assess debugging now name).outcome = .ok a ∧ ¬a.good = true) ∧
        (s.reporter.verbose = true ∨ s.debugEnabled = true)) := by
  obtain ⟨earlier, last, hearlier, hmessages, hlast⟩ :=
    bag.exists_messages_assess debugging now name
  refine ⟨earlier.flatMap (Message.lines s), last.flatMap (Message.lines s), ?_,
    fun l hl hinfo ↦ ?_, ?_⟩
  · rw [Check.lines, hmessages, List.flatMap_append]
  · obtain ⟨m, hm, hl⟩ := List.mem_flatMap.1 hl
    rcases (hearlier m hm).exists_of_mem_lines hl with ⟨text, rfl⟩ | ⟨-, text, rfl⟩
    · exact absurd ((Line.hasMark_marked_iff (by decide) (by decide) text).1 hinfo) (by decide)
    · exact absurd ((Line.hasMark_marked_iff (by decide) (by decide) text).1 hinfo) (by decide)
  · rcases hlast with ⟨rfl, hgood⟩ | ⟨text, a, rfl, houtcome, hbad⟩
    · refine ⟨.inl rfl, fun hne ↦ absurd rfl hne, ?_⟩
      rintro ⟨⟨a, ha, hbad⟩, -⟩
      exact absurd (hgood a ha) hbad
    · rw [List.flatMap_singleton, lines_info]
      by_cases hshown : (s.reporter.verbose || s.debugEnabled) = true
      · rw [if_pos hshown]
        exact ⟨.inr ⟨text, rfl⟩, fun _ ↦ ⟨⟨a, houtcome, hbad⟩, Bool.or_eq_true_iff.1 hshown⟩,
          fun _ ↦ List.cons_ne_nil _ _⟩
      · rw [if_neg hshown]
        exact ⟨.inl rfl, fun hne ↦ absurd rfl hne,
          fun hboth ↦ absurd (Bool.or_eq_true_iff.2 hboth.2) hshown⟩

namespace Session

theorem outcome_reply_assess (s : Session) (name : Option String) :
    (s.reply (.assess name)).outcome =
      (s.bag.assess s.settings.debugEnabled s.clock name).outcome.map .assessment :=
  outcome_step_assess s none name

/-- Asking for an assessment answers the assessment that the check comes to. -/
theorem reply_assess_eq_ok_iff {s : Session} {name : Option String} {a : Assessment} :
    (s.reply (.assess name)).outcome = .ok (.assessment a) ↔
      (s.bag.assess s.settings.debugEnabled s.clock name).outcome = .ok a := by
  rw [outcome_reply_assess]
  cases (s.bag.assess s.settings.debugEnabled s.clock name).outcome <;> simp [Except.map]

theorem lines_reply_assess (s : Session) (name : Option String) :
    (s.reply (.assess name)).lines =
      (s.bag.assess s.settings.debugEnabled s.clock name).lines s.settings :=
  lines_bind_pure _ _ _

/-- The log of an assessment is that of the one that says everything. -/
theorem lines_reply_assess_unguarded (s : Session) (name : Option String) :
    (s.reply (.assess name)).lines = (s.bag.assess true s.clock name).lines s.settings :=
  (s.lines_reply_assess name).trans (s.bag.alike_assess s.settings s.clock name).2

/-- The answer does not depend on the settings. -/
theorem outcome_reply_assess_congr (s : Session) (σ : Settings) (name : Option String) :
    ({ s with settings := σ }.reply (.assess name)).outcome =
      (s.reply (.assess name)).outcome := by
  rw [outcome_reply_assess, outcome_reply_assess, Bag.outcome_assess, Bag.outcome_assess]

/-- **The diagnostics never influence the answer.** Under any other settings an assessment has the
same outcome and the same warnings in its log, and the verbosity of the terminal makes no difference
to the log at all. A quiet reporter prints nothing but warnings, and debug lines only show while
debugging is enabled. The information of the problems is the last line, and it is there just if
some facet is bad and the reporter is verbose or debugging is enabled. -/
theorem assess_log (s : Session) (name : Option String) :
    (∀ σ : Settings,
        ({ s with settings := σ }.reply (.assess name)).outcome =
            (s.reply (.assess name)).outcome ∧
          ({ s with settings := σ }.reply (.assess name)).lines.filter
              (fun l ↦ l.HasMark Line.warningMark) =
            (s.reply (.assess name)).lines.filter (fun l ↦ l.HasMark Line.warningMark) ∧
          (σ.reporter = s.settings.reporter → σ.environment = s.settings.environment →
            { s with settings := σ }.reply (.assess name) = s.reply (.assess name))) ∧
      (s.settings.reporter.verbose = false → s.settings.debugEnabled = false →
        ∀ l ∈ (s.reply (.assess name)).lines, l.HasMark Line.warningMark) ∧
      (∀ l ∈ (s.reply (.assess name)).lines, l.HasMark Line.debugMark →
        s.settings.debugEnabled = true) ∧
      ∃ earlier last, (s.reply (.assess name)).lines = earlier ++ last ∧
        (∀ l ∈ earlier, ¬l.HasMark Line.infoMark) ∧
        (last = [] ∨ ∃ text, last = [.marked Line.infoMark text]) ∧
        (last ≠ [] ↔
          (∃ a, (s.reply (.assess name)).outcome = .ok (.assessment a) ∧
              ¬(a.enabled = true ∧ a.unexpired = true ∧ a.passwordUnexpired = true ∧
                a.unlocked = true)) ∧
            (s.settings.reporter.verbose = true ∨ s.settings.debugEnabled = true)) := by
  have hplain (debugging : Bool) := s.bag.says_assess debugging s.clock name
  have hmark {mark mark' text : String} (h : mark ∈ Line.marks) (h' : mark' ∈ Line.marks) :=
    Line.hasMark_marked_iff h h' text
  refine ⟨fun σ ↦ ⟨s.outcome_reply_assess_congr σ name, ?_, fun hreporter henvironment ↦ ?_⟩, ?_⟩
  -- Two settings are compared by way of the assessment that says everything, which is one for both.
  · rw [lines_reply_assess_unguarded, lines_reply_assess_unguarded]
    exact filter_warning_lines (hplain true) σ s.settings
  · have hlines : ({ s with settings := σ }.reply (.assess name)).lines =
        (s.reply (.assess name)).lines := by
      rw [lines_reply_assess_unguarded, lines_reply_assess_unguarded]
      exact lines_congr (hplain true) hreporter henvironment
    exact (Reply.mk.injEq ..).mpr ⟨s.outcome_reply_assess_congr σ name, hlines⟩
  rw [lines_reply_assess]
  refine ⟨fun hverbose hdebug l hl ↦ ?_, fun l hl hl' ↦ ?_, ?_⟩
  · rcases exists_of_mem_lines (hplain _) hl with ⟨text, rfl⟩ | ⟨hon, -⟩ | ⟨hon, -⟩
    · exact (hmark (by decide) (by decide)).2 rfl
    · simp [hdebug] at hon
    · simp [hverbose, hdebug] at hon
  · rcases exists_of_mem_lines (hplain _) hl with ⟨text, rfl⟩ | ⟨hon, -⟩ | ⟨-, text, rfl⟩
    · exact absurd ((hmark (by decide) (by decide)).1 hl') (by decide)
    · exact hon
    · exact absurd ((hmark (by decide) (by decide)).1 hl') (by decide)
  · simp only [reply_assess_eq_ok_iff, ← Assessment.good_iff]
    exact s.bag.exists_lines_assess s.settings.debugEnabled s.clock name s.settings

end Session

end DirectoryAccount
