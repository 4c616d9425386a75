import DirectoryAccount.Proofs.Account.Log
import DirectoryAccount.Proofs.Text.Utf8Malformed
import DirectoryAccount.Proofs.ValueText

/-!
# Asking for the text of an attribute

A session that is asked for the text of an attribute always answers. The answer is the text that
stands for the first value, in whichever form the value comes, or that there is none.

**An answer of no text has two causes, and only the debug line tells them apart.** Where nothing is
there, nothing is printed. Where something is there and cannot be read, one line names the attribute
and the reason, if debugging is enabled.

Main statement: `Session.reply_text`.
-/

namespace DirectoryAccount

/-- The answer and the lines that a reading of an attribute comes to. -/
def Reading.reply (settings : Settings) (name : String) : Reading → Reply
  | absent => ⟨.ok (.text none), []⟩
  | found t => ⟨.ok (.text (some t)), []⟩
  | failed reason =>
    ⟨.ok (.text none),
      if settings.debugEnabled then
        [.marked Line.debugMark ("Could not read attribute " ++ name ++ ": " ++ reason)]
      else []⟩

namespace Session

variable (s : Session) (name : String)

/-- Asking for a text is reading it. -/
theorem reply_text_eq : s.reply (.text name) = (s.bag.reading name).reply s.settings name := by
  have hcheck : s.reply (.text name) =
      ⟨(s.bag.text name >>= fun t ↦ pure (Answer.text t)).outcome,
        (s.bag.text name >>= fun t ↦ pure (Answer.text t)).lines s.settings⟩ := rfl
  rw [hcheck, Check.lines_bind_pure, Check.outcome_bind, Bag.outcome_text, Bag.text]
  cases s.bag.reading name with
  | absent | found t => rfl
  | failed reason =>
    have hlines : (Check.debug ("Could not read attribute " ++ name ++ ": " ++ reason) >>=
        fun _ ↦ pure (none : Option String)).lines s.settings =
          Message.lines s.settings
            (.debug ("Could not read attribute " ++ name ++ ": " ++ reason) false) := by
      rw [Check.lines_bind_pure]
      exact List.flatMap_singleton _ _
    rw [hlines, Message.lines_debug]
    rfl

/-- Asking for the text under a name that holds a slot is reading the slot. -/
theorem reply_text_of_get? {slot : Slot} (h : s.bag.get? name = some slot) :
    s.reply (.text name) = slot.reading.reply s.settings name := by
  rw [reply_text_eq, Bag.reading, h]

/-- There is always an answer. -/
theorem exists_outcome_reply_text :
    ∃ text, (s.reply (.text name)).outcome = .ok (.text text) := by
  rw [reply_text_eq]
  cases s.bag.reading name <;> exact ⟨_, rfl⟩

/-- A text is answered if it is what the first value is read as. -/
theorem outcome_reply_text_eq_some_iff {slot : Slot} (hslot : s.bag.get? name = some slot)
    {v : Value} (hfirst : slot.HasFirst v) {t : String} :
    (s.reply (.text name)).outcome = .ok (.text (some t)) ↔ v.reading = .found t := by
  rw [reply_text_of_get? s name hslot, Slot.reading_of_hasFirst hfirst]
  cases v.reading <;> simp [Reading.reply]

/-- Bytes that come first are answered as the text that they are the UTF-8 of. -/
theorem outcome_reply_text_bytes {slot : Slot} (hslot : s.bag.get? name = some slot)
    {bytes : List UInt8} (hfirst : slot.HasFirst (.bytes bytes) ∨ slot.HasFirst (.buffer bytes))
    (t : String) :
    (s.reply (.text name)).outcome = .ok (.text (some t)) ↔ Utf8.encode t = bytes := by
  rcases hfirst with hfirst | hfirst
  · rw [s.outcome_reply_text_eq_some_iff name hslot hfirst, Value.reading_bytes_eq_found_iff,
      eq_comm]
  · rw [s.outcome_reply_text_eq_some_iff name hslot hfirst, Value.reading_buffer,
      Value.reading_bytes_eq_found_iff, eq_comm]

/-- The answer is none exactly if it is no text. -/
theorem outcome_reply_text_eq_none_iff :
    (s.reply (.text name)).outcome = .ok (.text none) ↔
      ∀ t, (s.reply (.text name)).outcome ≠ .ok (.text (some t)) := by
  obtain ⟨text, htext⟩ := s.exists_outcome_reply_text name
  rw [htext]
  cases text <;> simp

end Session

/-- **A session that is asked for a text answers, in whichever form the text comes.** The three
cases of a slot are all there are. If nothing is there the answer is none and nothing is printed. If
reading fails the answer is none, and one line says why if debugging is enabled. If a text stands
for the first value it is the answer, whatever follows that value. Bytes are read as the text that
they are the UTF-8 of, and as none exactly if there is no such text, as there is not if malformed
bytes stand behind some text. -/
theorem Session.reply_text (s : Session) (name : String) :
    (∃ text, (s.reply (.text name)).outcome = .ok (.text text)) ∧
      (s.bag.get? name = none → s.reply (.text name) = ⟨.ok (.text none), []⟩) ∧
      ∀ slot, s.bag.get? name = some slot →
        (slot.IsVacant ∨ (∃ reason, slot.Fails reason) ∨ ∃ v t, slot.HasFirst v ∧ v.HasText t) ∧
        (slot.IsVacant → s.reply (.text name) = ⟨.ok (.text none), []⟩) ∧
        (∀ reason, slot.Fails reason → s.reply (.text name) =
          ⟨.ok (.text none),
            if s.settings.debugEnabled then
              [.marked Line.debugMark ("Could not read attribute " ++ name ++ ": " ++ reason)]
            else []⟩) ∧
        (∀ v t, slot.HasFirst v → v.HasText t →
          s.reply (.text name) = ⟨.ok (.text (some t)), []⟩) ∧
        ∀ bytes, slot.HasFirst (.bytes bytes) ∨ slot.HasFirst (.buffer bytes) →
          (∀ t, (s.reply (.text name)).outcome = .ok (.text (some t)) ↔
            Utf8.decode bytes = .ok t) ∧
          (∀ t, (s.reply (.text name)).outcome = .ok (.text (some t)) ↔
            Utf8.encode t = bytes) ∧
          ((s.reply (.text name)).outcome = .ok (.text none) ↔ ∀ t, Utf8.encode t ≠ bytes) ∧
          ∀ before rest, Utf8.Malformed rest → bytes = Utf8.encode before ++ rest →
            (s.reply (.text name)).outcome = .ok (.text none) := by
  refine ⟨s.exists_outcome_reply_text name, fun hnone ↦ ?_, fun slot hslot ↦
    ⟨slot.isVacant_or_fails_or_hasText, fun hvacant ↦ ?_, fun reason hfails ↦ ?_,
      fun v t hfirst htext ↦ ?_, fun bytes hfirst ↦ ?_⟩⟩
  · rw [reply_text_eq, Bag.reading, hnone]
    rfl
  · rw [reply_text_of_get? s name hslot, Slot.reading_of_isVacant hvacant]
    rfl
  · rw [reply_text_of_get? s name hslot, Slot.reading_of_fails hfails]
    rfl
  · rw [reply_text_of_get? s name hslot, Slot.reading_of_hasFirst hfirst,
      Value.reading_eq_found_iff.2 htext]
    rfl
  · have hsome := s.outcome_reply_text_bytes name hslot hfirst
    have hnone : (s.reply (.text name)).outcome = .ok (.text none) ↔
        ∀ t, Utf8.encode t ≠ bytes := by
      simp only [outcome_reply_text_eq_none_iff, ne_eq, hsome]
    refine ⟨fun t ↦ ?_, hsome, hnone, ?_⟩
    · rw [hsome, Utf8.decode_eq_ok_iff, eq_comm]
    · rintro before rest hrest rfl
      exact hnone.2 (hrest.encode_ne before)

end DirectoryAccount
