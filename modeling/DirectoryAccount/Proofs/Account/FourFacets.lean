import DirectoryAccount.Proofs.Account.Log
import DirectoryAccount.Proofs.Traversal

/-!
# An assessment and the four facets

An assessment asks the control value once before it goes through the facets, and three facets ask it
again, each on its own. All these readings agree, so an assessment is the four facets in order and
nothing more: `Bag.outcome_assess_eq_facets`.

Main statement: `Session.assess_eq_facets`. Of several things that are wrong the control value comes
first, before anything is said about times or problems, and the expiry second. Nothing else fails,
and without a failure the four verdicts are those that the facets give when they are asked alone.
-/

namespace DirectoryAccount

open Check Message

/-! ### Outcomes -/

/-- **An assessment is the four facets in order.** -/
theorem Bag.outcome_assess_eq_facets (bag : Bag) (debugging : Bool) (now : Instant)
    (name : Option String) :
    (bag.assess debugging now name).outcome =
      (Facet.enabled bag).outcome.bind fun enabled ↦
        (Facet.unexpired bag debugging now).outcome.bind fun unexpired ↦
          (Facet.passwordUnexpired bag).outcome.bind fun passwordUnexpired ↦
            (Facet.unlocked bag).outcome.map fun unlocked ↦
              ⟨enabled, unexpired, passwordUnexpired, unlocked⟩ := by
  rw [outcome_assess, Facet.outcome_enabled, Facet.outcome_unexpired,
    Facet.outcome_passwordUnexpired, Facet.outcome_unlocked]
  cases bag.controlValue.outcome with
  | error f => rfl
  | ok control => cases bag.expires <;> rfl

/-- What an assessment says of a facet is the verdict of the facet. -/
theorem Bag.facets_of_outcome_assess {bag : Bag} {debugging : Bool} {now : Instant}
    {name : Option String} {a : Assessment} (h : (bag.assess debugging now name).outcome = .ok a) :
    (Facet.enabled bag).outcome = .ok a.enabled ∧
      (Facet.unexpired bag debugging now).outcome = .ok a.unexpired ∧
      (Facet.passwordUnexpired bag).outcome = .ok a.passwordUnexpired ∧
      (Facet.unlocked bag).outcome = .ok a.unlocked := by
  obtain ⟨_, -, h⟩ := exists_of_bind_eq_ok h
  obtain ⟨enabled, henabled, h⟩ := exists_of_bind_eq_ok h
  obtain ⟨unexpired, hunexpired, h⟩ := exists_of_bind_eq_ok h
  obtain ⟨passwordUnexpired, hpassword, h⟩ := exists_of_bind_eq_ok h
  obtain ⟨unlocked, hunlocked, h⟩ := exists_of_bind_eq_ok h
  obtain ⟨_, -, h⟩ := exists_of_bind_eq_ok h
  obtain rfl := Except.ok.inj h
  exact ⟨henabled, hunexpired, hpassword, hunlocked⟩

/-- The expiry cannot be read if it has a text that is no 64-bit integer. -/
theorem Bag.expires_eq_error_iff {bag : Bag} {f : Failure} :
    bag.expires = .error f ↔ ∃ text, bag.textOf .accountExpires = some text ∧
      readInteger .accountExpires Attribute.accountExpires.name text 64 = .error f :=
  mapM_option_eq_error_iff

/-- **Validity fails on the expiry alone**, and no time can make it fail. -/
theorem Facet.outcome_unexpired_eq_error_iff {bag : Bag} {debugging : Bool} {now : Instant}
    {f : Failure} : (unexpired bag debugging now).outcome = .error f ↔ bag.expires = .error f := by
  rw [outcome_unexpired]
  cases bag.expires <;> simp [Except.map]

/-! ### What is said before a failure -/

/-- After a control value that cannot be read an assessment says nothing more. -/
theorem Bag.says_assess_of_error {bag : Bag} {f : Failure} (h : bag.controlValue.outcome = .error f)
    (debugging : Bool) (now : Instant) (name : Option String) :
    (bag.assess debugging now name).Says IsDebug := by
  have hmention : bag.mentionControl debugging = ⟨bag.controlValue.messages, .error f⟩ :=
    bind_of_error h _
  have hassess : bag.assess debugging now name = ⟨bag.controlValue.messages, .error f⟩ := by
    rw [assess, hmention]
    rfl
  rw [hassess]
  exact bag.says_controlValue

/-! ### Assessments and facets -/

/-- **An assessment is its four facets and nothing more.** Either the control value is refused, and
then so are the three facets that ask it and the assessment, in the same words and with nothing
printed but debug lines. Or those three facets have verdicts, and the assessment fails as validity
does, or it is made of the four verdicts. Validity fails exactly with the expiry, and an assessment
is good if all four verdicts are, which is if it names no problem. -/
theorem Session.assess_eq_facets (s : Session) (name : Option String) :
    ((∃ f, (s.reply .controlValue).outcome = .error f ∧
          (s.reply .enabled).outcome = .error f ∧
          (s.reply .passwordUnexpired).outcome = .error f ∧
          (s.reply .unlocked).outcome = .error f ∧
          (s.reply (.assess name)).outcome = .error f ∧
          ∀ l ∈ (s.reply (.assess name)).lines,
            ¬l.HasMark Line.warningMark ∧ ¬l.HasMark Line.infoMark) ∨
        ∃ control enabled passwordUnexpired unlocked,
          (s.reply .controlValue).outcome = .ok (.controlValue control) ∧
          (s.reply .enabled).outcome = .ok (.verdict enabled) ∧
          (s.reply .passwordUnexpired).outcome = .ok (.verdict passwordUnexpired) ∧
          (s.reply .unlocked).outcome = .ok (.verdict unlocked) ∧
          ((∃ f, (s.reply .unexpired).outcome = .error f ∧
              (s.reply (.assess name)).outcome = .error f) ∨
            ∃ unexpired, (s.reply .unexpired).outcome = .ok (.verdict unexpired) ∧
              (s.reply (.assess name)).outcome =
                .ok (.assessment ⟨enabled, unexpired, passwordUnexpired, unlocked⟩))) ∧
      (∀ f, (s.reply .unexpired).outcome = .error f ↔
        ∃ text, (s.bag.text Attribute.accountExpires.name).outcome = .ok (some text) ∧
          readInteger .accountExpires Attribute.accountExpires.name text 64 = .error f) ∧
      ∀ a : Assessment,
        (a.good = true ↔ a.enabled = true ∧ a.unexpired = true ∧ a.passwordUnexpired = true ∧
          a.unlocked = true) ∧
        (a.good = true ↔ a.problems = []) := by
  have hcontrolReply : (s.reply .controlValue).outcome =
      s.bag.controlValue.outcome.map .controlValue := outcome_bind_eq_map fun _ ↦ rfl
  have henabled : (s.reply .enabled).outcome = (Facet.enabled s.bag).outcome.map .verdict :=
    outcome_bind_eq_map fun _ ↦ rfl
  have hunexpired : (s.reply .unexpired).outcome =
      (Facet.unexpired s.bag s.settings.debugEnabled s.clock).outcome.map .verdict :=
    outcome_bind_eq_map fun _ ↦ rfl
  have hpassword : (s.reply .passwordUnexpired).outcome =
      (Facet.passwordUnexpired s.bag).outcome.map .verdict := outcome_bind_eq_map fun _ ↦ rfl
  have hunlocked : (s.reply .unlocked).outcome = (Facet.unlocked s.bag).outcome.map .verdict :=
    outcome_bind_eq_map fun _ ↦ rfl
  refine ⟨?_, fun f ↦ ?_, fun a ↦ ⟨Assessment.good_iff, List.isEmpty_iff⟩⟩
  · rw [hcontrolReply, henabled, hunexpired, hpassword, hunlocked, outcome_reply_assess,
      Bag.outcome_assess_eq_facets, Facet.outcome_enabled, Facet.outcome_passwordUnexpired,
      Facet.outcome_unlocked]
    cases hcontrol : s.bag.controlValue.outcome with
    | error f =>
      refine .inl ⟨f, rfl, rfl, rfl, rfl, rfl, fun l hl ↦ ?_⟩
      rw [lines_reply_assess] at hl
      exact not_hasMark_of_says_debug (Bag.says_assess_of_error hcontrol _ s.clock name) hl
    | ok control =>
      refine .inr ⟨control, _, _, _, rfl, rfl, rfl, rfl, ?_⟩
      cases (Facet.unexpired s.bag s.settings.debugEnabled s.clock).outcome with
      | error f => exact .inl ⟨f, rfl, rfl⟩
      | ok unexpired => exact .inr ⟨unexpired, rfl, rfl⟩
  · have htext : (∃ text, (s.bag.text Attribute.accountExpires.name).outcome = .ok (some text) ∧
        readInteger .accountExpires Attribute.accountExpires.name text 64 = .error f) ↔
        s.bag.expires = .error f := by
      simp only [Bag.outcome_text_name, Except.ok.injEq, Bag.expires_eq_error_iff]
    rw [htext, ← Facet.outcome_unexpired_eq_error_iff, hunexpired]
    cases (Facet.unexpired s.bag s.settings.debugEnabled s.clock).outcome <;> simp [Except.map]

end DirectoryAccount
