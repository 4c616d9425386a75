import DirectoryAccount.Proofs.Account.TextReading
import DirectoryAccount.Proofs.Text.Markup

/-!
# Printed messages

What the terminal prints is a mark with markup of its own and behind it the message, escaped. Names
and values from the directory come into messages as they are, so anybody who writes to the directory
writes to the terminal.

Main statement: `Session.printed_plain`. Whatever a message says, no tag in the printed line is
live but those of the mark, and what is shown behind the mark is the message.

**No tag joins the mark and the message**, because the marks close their brackets
(`Line.isSealed_of_mem_marks`). So the tags of a line are those of the mark and those of the escaped
message.
-/

namespace DirectoryAccount

open Check Markup

/-! ### Lines that show a text -/

/-- A body behind a mark shows a text. No tag is of both, the tags of the body are not live, and
without the escaping the body is the text, up to a backslash behind it. -/
structure Line.Shows (mark text body : List Char) : Prop where
  apart : ∀ {before k tag after}, TagAt (mark ++ body) before k tag after →
    before ++ List.replicate k '\\' ++ tag <+: mark ∨
      ∃ before', before = mark ++ before' ∧ TagAt body before' k tag after
  odd : ∀ {before k tag after}, TagAt body before k tag after → Odd k
  shown : unescapeChars body = text ++ closingBackslash text

namespace Line

/-- A printed line is a mark, and behind it a body that shows a text. -/
def IsPlain (mark text : String) : Line → Prop
  | print markup => ∃ body, markup.toList = mark.toList ++ body ∧ Shows mark.toList text.toList body
  | trace => False

/-- The marks close their brackets. -/
theorem isSealed_of_mem_marks : ∀ mark ∈ marks, IsSealed mark.toList := by
  decide

/-- **A marked line shows its message**, whatever that is. -/
theorem isPlain_marked {mark : String} (hmark : mark ∈ marks) (text : String) :
    (marked mark text).IsPlain mark text := by
  refine ⟨escapeChars text.toList, ?_, fun htag ↦ htag.of_append (isSealed_of_mem_marks mark hmark),
    fun htag ↦ htag.odd_of_escapeChars, unescapeChars_escapeChars _⟩
  rw [escape, String.toList_append, String.toList_ofList]

end Line

/-! ### Messages to the terminal -/

namespace TerminalMessage

/-- The mark of a message. -/
def mark : TerminalMessage → String
  | warning .. => Line.warningMark
  | info .. => Line.infoMark
  | debug .. => Line.debugMark

/-- What a message says. -/
def text : TerminalMessage → String
  | warning text _ | info text _ | debug text _ _ => text

theorem mark_mem_marks (m : TerminalMessage) : m.mark ∈ Line.marks := by
  cases m <;> simp [mark, Line.marks]

/-- A message comes to nothing or to its marked line, which a trace may follow. -/
theorem lines_eq (m : TerminalMessage) (v : Verbosity) :
    m.lines v = [] ∨ m.lines v = [.marked m.mark m.text] ∨
      m.lines v = [.marked m.mark m.text, .trace] := by
  cases m with
  | warning text verboseOnly | info text verboseOnly =>
    rw [lines]
    split
    · exact .inl rfl
    · exact .inr (.inl rfl)
  | debug text withTrace forced =>
    rw [lines]
    split
    · cases withTrace with
      | false => exact .inr (.inl rfl)
      | true => exact .inr (.inr rfl)
    · exact .inl rfl

/-- At the highest verbosity every message is printed. -/
theorem lines_loud_ne_nil (m : TerminalMessage) : m.lines ⟨true, true⟩ ≠ [] := by
  cases m <;> simp [lines, Verbosity.showsVerbose]

end TerminalMessage

/-- A line in which no tag of a message is live: a trace, or a mark with a text shown behind it. -/
def Line.IsHarmless (l : Line) : Prop :=
  l = .trace ∨ ∃ mark ∈ marks, ∃ text, l.IsPlain mark text

theorem TerminalMessage.isHarmless_of_mem_lines {m : TerminalMessage} {v : Verbosity} {l : Line}
    (hl : l ∈ m.lines v) : l.IsHarmless := by
  have hmarked : (Line.marked m.mark m.text).IsHarmless :=
    .inr ⟨m.mark, m.mark_mem_marks, m.text, Line.isPlain_marked m.mark_mem_marks m.text⟩
  rcases m.lines_eq v with h | h | h <;> rw [h] at hl
  · cases hl
  · rwa [List.mem_singleton.1 hl]
  · rcases List.mem_cons.1 hl with rfl | hl
    · exact hmarked
    · exact .inl (List.mem_singleton.1 hl)

/-- The reporter only hands on, so what comes of its messages is what the terminal makes of them. -/
theorem Message.isHarmless_of_mem_lines {m : Message} {s : Settings} {l : Line}
    (hl : l ∈ m.lines s) : l.IsHarmless := by
  rw [lines] at hl
  cases h : m.handedOn s with
  | none =>
    rw [h] at hl
    cases hl
  | some t =>
    rw [h] at hl
    exact t.isHarmless_of_mem_lines hl

theorem Check.isHarmless_of_mem_lines {α : Type} {c : Check α} {s : Settings} {l : Line}
    (hl : l ∈ c.lines s) : l.IsHarmless := by
  obtain ⟨m, -, hl⟩ := List.mem_flatMap.1 hl
  exact m.isHarmless_of_mem_lines hl

/-! ### Sessions -/

namespace Session

variable (s : Session)

/-- Every line that an action prints is harmless. -/
theorem isHarmless_of_mem_lines_step {action : Action} {l : Line}
    (hl : l ∈ (s.step action).2.lines) : l.IsHarmless := by
  cases action with
  | setAttribute | deleteAttribute | setClock | setVerbosity | setVariable => cases hl
  | sayToTerminal m => exact m.isHarmless_of_mem_lines hl
  | say m => exact m.isHarmless_of_mem_lines hl
  | ask query bag => exact Check.isHarmless_of_mem_lines hl

/-- So is every line of a run. -/
theorem isHarmless_of_mem_lines_run {actions : List Action} {reply : Reply}
    (hreply : reply ∈ (s.run actions).2) {l : Line} (hl : l ∈ reply.lines) : l.IsHarmless := by
  induction actions generalizing s with
  | nil => cases hreply
  | cons action actions ih =>
    rcases List.mem_cons.1 hreply with rfl | hrest
    · exact s.isHarmless_of_mem_lines_step hl
    · exact ih _ hrest

theorem lines_text (name : String) :
    (s.bag.text name).lines s.settings = ((s.bag.reading name).reply s.settings name).lines := by
  rw [← reply_text_eq]
  exact (lines_bind_pure _ _ _).symm

theorem lines_reply_time (name : String) :
    (s.reply (.time name)).lines = (s.bag.time name).lines s.settings :=
  lines_bind_pure _ _ _

/-- Asking for a time prints why the attribute could not be read. -/
theorem lines_reply_time_of_failed {name reason : String}
    (h : s.bag.reading name = .failed reason) :
    (s.reply (.time name)).lines = (s.reply (.text name)).lines := by
  have htext : (s.bag.text name).outcome = .ok none := by
    rw [Bag.outcome_text, h]
    rfl
  rw [lines_reply_time, Bag.time, lines_bind_of_ok htext, lines_text, reply_text_eq]
  exact List.append_nil _

/-- Asking for a time prints one warning if the text is none. -/
theorem lines_reply_time_of_malformed {name text : String} {fault : TimeFault}
    (h : s.bag.reading name = .found text) (hfault : GeneralizedTime.read text = .error fault) :
    (s.reply (.time name)).lines = [.marked Line.warningMark
      ("Invalid format found parsing generalized time attribute " ++ name ++ " with value '" ++
        text ++ "': " ++ fault.reason)] := by
  have htext : (s.bag.text name).outcome = .ok (some text) := by
    rw [Bag.outcome_text, h]
    rfl
  rw [lines_reply_time, Bag.time, lines_bind_of_ok htext, lines_text, h]
  dsimp only
  rw [hfault]
  exact (lines_bind_pure _ _ _).trans (lines_say_warning _ _)

/-- **Printed messages carry no live markup.** A message to the terminal is printed, if it is, as
its mark with a body that shows the message: no tag is of both, no tag of the body is live, and
without the escaping the body is the message, but for one more backslash if exactly one ends it. So
are the one warning of a malformed time and the one debug line of a failed reading, whatever names
and values they quote. In a run of any actions all lines but the traces are of this make. -/
theorem printed_plain :
    (∀ m : TerminalMessage, ∃ l : Line, l.IsPlain m.mark m.text ∧
        m.lines ⟨true, true⟩ ≠ [] ∧
        ∀ v, m.lines v = [] ∨ m.lines v = [l] ∨ m.lines v = [l, .trace]) ∧
      (∀ name text fault, s.bag.reading name = .found text →
        GeneralizedTime.read text = .error fault →
          ∃ l : Line, (s.reply (.time name)).lines = [l] ∧ l.IsPlain Line.warningMark
            ("Invalid format found parsing generalized time attribute " ++ name ++
              " with value '" ++ text ++ "': " ++ fault.reason)) ∧
      (∀ name reason, s.bag.reading name = .failed reason → s.settings.debugEnabled = true →
        ∃ l : Line, (s.reply (.text name)).lines = [l] ∧ (s.reply (.time name)).lines = [l] ∧
          l.IsPlain Line.debugMark ("Could not read attribute " ++ name ++ ": " ++ reason)) ∧
      ∀ actions, ∀ reply ∈ (s.run actions).2, ∀ l ∈ reply.lines,
        l = .trace ∨ ∃ mark ∈ Line.marks, ∃ text, l.IsPlain mark text := by
  refine ⟨fun m ↦ ?_, fun name text fault hfound hfault ↦ ?_, fun name reason hfailed hdebug ↦ ?_,
    fun actions reply hreply l hl ↦ s.isHarmless_of_mem_lines_run hreply hl⟩
  · exact ⟨_, Line.isPlain_marked m.mark_mem_marks m.text, m.lines_loud_ne_nil, m.lines_eq⟩
  · exact ⟨_, s.lines_reply_time_of_malformed hfound hfault, Line.isPlain_marked (by decide) _⟩
  · have hlines : (s.reply (.text name)).lines = [.marked Line.debugMark
        ("Could not read attribute " ++ name ++ ": " ++ reason)] := by
      rw [reply_text_eq, hfailed, Reading.reply, if_pos hdebug]
    exact ⟨_, hlines, (s.lines_reply_time_of_failed hfailed).trans hlines,
      Line.isPlain_marked (by decide) _⟩

/-- A session with debugging on, on an entry with a tag in a time and one in a name that cannot be
read. -/
def ofTaggedEntry : Session where
  settings := { Settings.initial with reporter := ⟨false, true⟩ }
  clock := Filetime.epoch
  bag := .ofList [(Attribute.pwdEndTime.name, .value (.text "[link=x]\\")),
    ("[b]cn", .brokenLookup "[/]")]

/-- Both are printed as text. -/
theorem printed_plain_taggedEntry :
    (∃ l : Line, (ofTaggedEntry.reply (.time "pwdEndTime")).lines = [l] ∧
        l.IsPlain Line.warningMark
          ("Invalid format found parsing generalized time attribute " ++ "pwdEndTime" ++
            " with value '" ++ "[link=x]\\" ++ "': " ++ TimeFault.unrecognized.reason)) ∧
      ∃ l : Line, (ofTaggedEntry.reply (.text "[b]cn")).lines = [l] ∧
        l.IsPlain Line.debugMark ("Could not read attribute " ++ "[b]cn" ++ ": " ++ "[/]") := by
  obtain ⟨-, htime, hfailed, -⟩ := ofTaggedEntry.printed_plain
  have hname : ofTaggedEntry.bag.reading "pwdEndTime" = .found "[link=x]\\" := by decide +kernel
  have hfault : GeneralizedTime.read "[link=x]\\" = .error .unrecognized := by decide +kernel
  have hbroken : ofTaggedEntry.bag.reading "[b]cn" = .failed "[/]" := by decide +kernel
  obtain ⟨l, htext, -, hplain⟩ := hfailed "[b]cn" "[/]" hbroken (by decide)
  exact ⟨htime "pwdEndTime" "[link=x]\\" .unrecognized hname hfault, l, htext, hplain⟩

end Session

end DirectoryAccount
