import DirectoryAccount.Proofs.Account.FourFacets
import DirectoryAccount.Proofs.Account.Refusal

/-!
# What an assessment reads

A search asks a directory for the attributes that `Attribute.names` lists, and an assessment sees
only what came back. So the list has to be exact: a name that is read and not listed would pass for
absent, and one that is listed and not read would be asked for in vain.

All reading goes through `Bag.text`. Where two entries cannot be told apart by that, text by text
(`Bag.AlikeInTexts`), they cannot be told apart by any rule, facet or assessment, and there is one
lemma for each of these. What it takes to be alike in the texts depends on the settings: the same
answers while nobody debugs, and otherwise also the same reasons for what cannot be read.

Main statement: `Session.assess_reads_listed`.
-/

namespace DirectoryAccount

open Check Message

/-! ### Entries that cannot be told apart -/

/-- Under the settings no text of a listed attribute tells two entries apart. -/
def Bag.AlikeInTexts (s : Settings) (bag bag' : Bag) : Prop :=
  ∀ a : Attribute, (bag.text a.name).Alike s (bag'.text a.name)

namespace Bag.AlikeInTexts

variable {s : Settings} {bag bag' : Bag}

theorem time (h : AlikeInTexts s bag bag') (a : Attribute) :
    (bag.time a.name).Alike s (bag'.time a.name) :=
  (h a).bind_right _

theorem controlValue (h : AlikeInTexts s bag bag') :
    bag.controlValue.Alike s bag'.controlValue :=
  (h .userAccountControl).bind fun _ ↦ (h .computedControl).bind_right _

theorem badIfTrue (h : AlikeInTexts s bag bag') (a : Attribute) :
    (Facet.badIfTrue bag a).Alike s (Facet.badIfTrue bag' a) :=
  (h a).bind_right _

theorem goodUntil (h : AlikeInTexts s bag bag') (now : Instant) (a : Attribute) :
    (Facet.goodUntil bag now a).Alike s (Facet.goodUntil bag' now a) :=
  (h.time a).bind_right _

theorem enabled (h : AlikeInTexts s bag bag') :
    (Facet.enabled bag).Alike s (Facet.enabled bag') := by
  have hflag : (Facet.disabledByFlag bag).Alike s (Facet.disabledByFlag bag') :=
    h.controlValue.bind_right _
  have hsentinel : (Facet.disabledBySentinel bag).Alike s (Facet.disabledBySentinel bag') :=
    (h .pwdAccountLockedTime).bind_right _
  have hword : (Facet.enabledByWord bag).Alike s (Facet.enabledByWord bag') :=
    (h .orclIsEnabled).bind_right _
  exact alike_firstDecision (.cons hflag (.cons (h.badIfTrue _) (.cons hsentinel
    (.cons (h.badIfTrue _) (.cons hword .nil))))) true

theorem unexpired (h : AlikeInTexts s bag bag') (debugging : Bool) (now : Instant) :
    (Facet.unexpired bag debugging now).Alike s (Facet.unexpired bag' debugging now) := by
  have hfiletime : (Facet.unexpiredByFiletime bag debugging now).Alike s
      (Facet.unexpiredByFiletime bag' debugging now) := (h .accountExpires).bind_right _
  have hstart : (Facet.expiredBeforeStart bag now).Alike s (Facet.expiredBeforeStart bag' now) :=
    (h.time .pwdStartTime).bind_right _
  exact alike_firstDecision (.cons hfiletime (.cons hstart (.cons (h.goodUntil now _)
    (.cons (h.goodUntil now _) .nil)))) true

theorem passwordUnexpired (h : AlikeInTexts s bag bag') :
    (Facet.passwordUnexpired bag).Alike s (Facet.passwordUnexpired bag') := by
  have hflags : (Facet.passwordByFlags bag).Alike s (Facet.passwordByFlags bag') :=
    h.controlValue.bind_right _
  exact alike_firstDecision (.cons hflags (.cons (h.badIfTrue _) .nil)) true

theorem unlocked (h : AlikeInTexts s bag bag') :
    (Facet.unlocked bag).Alike s (Facet.unlocked bag') := by
  have hflag : (Facet.lockedByFlag bag).Alike s (Facet.lockedByFlag bag') :=
    h.controlValue.bind_right _
  exact alike_firstDecision (.cons hflag (.cons (h.badIfTrue _) (.cons (h.badIfTrue _) .nil))) true

/-- **An assessment sees no more of an entry than the texts of the listed attributes.** -/
theorem assess (h : AlikeInTexts s bag bag') (debugging : Bool) (now : Instant)
    (name : Option String) :
    (bag.assess debugging now name).Alike s (bag'.assess debugging now name) := by
  have hmention : (bag.mentionControl debugging).Alike s (bag'.mentionControl debugging) :=
    h.controlValue.bind_right _
  exact hmention.bind fun _ ↦ h.enabled.bind fun _ ↦ (h.unexpired debugging now).bind fun _ ↦
    h.passwordUnexpired.bind fun _ ↦ h.unlocked.bind_right _

end Bag.AlikeInTexts

/-! ### When entries are alike in their texts -/

namespace Bag

variable {s : Settings} {bag bag' : Bag}

/-- Entries with the same values under the listed names are alike, whatever else they hold. -/
theorem alikeInTexts_of_get? (h : ∀ n ∈ Attribute.names, bag.get? n = bag'.get? n) :
    AlikeInTexts s bag bag' := by
  intro a
  have hget := h a.name (List.mem_map_of_mem a.mem_all)
  have htext : bag.text a.name = bag'.text a.name := by
    rw [text, text, reading, reading, hget]
  rw [htext]
  exact .refl _

/-- Entries with the same texts are alike while debugging is not enabled. -/
theorem alikeInTexts_of_outcome_text (hoff : s.debugEnabled = false)
    (h : ∀ n ∈ Attribute.names, (bag.text n).outcome = (bag'.text n).outcome) :
    AlikeInTexts s bag bag' := by
  intro a
  refine ⟨h a.name (List.mem_map_of_mem a.mem_all), ?_⟩
  rw [lines_eq_nil_of_says_debug (bag.says_text _) hoff,
    lines_eq_nil_of_says_debug (bag'.says_text _) hoff]

end Bag

/-- Entries that are alike in their texts are assessed in the same way and with the same log. -/
theorem Session.reply_assess_congr {s : Session} {bag : Bag}
    (h : bag.AlikeInTexts s.settings s.bag) (name : Option String) :
    { s with bag := bag }.reply (.assess name) = s.reply (.assess name) := by
  obtain ⟨houtcome, hlines⟩ := (h.assess s.settings.debugEnabled s.clock name).bind_right fun a ↦
    pure (Answer.assessment a)
  exact (Reply.mk.injEq ..).mpr ⟨houtcome, hlines⟩

/-! ### Attributes that matter -/

namespace Attribute

/-- A text of an attribute that on its own makes an account bad at the start of 1601. -/
def denyingText : Attribute → String
  | userAccountControl | computedControl => "2"
  | userAccountDisabled | userPasswordExpired | loginDisabled | pwdLockout | lockedByIntruder =>
    "TRUE"
  | accountExpires => "-1"
  | orclIsEnabled => "DISABLED"
  | pwdAccountLockedTime => Facet.disabledSentinel
  | pwdStartTime => "99991231235959Z"
  | pwdEndTime | loginExpirationTime => "00010101000000Z"

end Attribute

/-- An account with nothing but a denying text is not good, because one facet is not. -/
theorem outcome_assess_denyingText_ne (a : Attribute) (debugging : Bool) (name : Option String) :
    ((Bag.single a a.denyingText).assess debugging Filetime.epoch name).outcome ≠
      .ok ⟨true, true, true, true⟩ := by
  intro h
  obtain ⟨henabled, hunexpired, hpassword, hunlocked⟩ := Bag.facets_of_outcome_assess h
  rw [Facet.outcome_unexpired] at hunexpired
  cases a with
  | userAccountControl | computedControl | userAccountDisabled | loginDisabled | orclIsEnabled
    | pwdAccountLockedTime => exact absurd henabled (by decide +kernel)
  | accountExpires | pwdStartTime | pwdEndTime | loginExpirationTime =>
    exact absurd hunexpired (by decide +kernel)
  | userPasswordExpired => exact absurd hpassword (by decide +kernel)
  | pwdLockout | lockedByIntruder => exact absurd hunlocked (by decide +kernel)

/-- An account without any text is good. -/
theorem outcome_assess_of_textOf_eq_none {bag : Bag} (h : ∀ a, bag.textOf a = none)
    (debugging : Bool) (now : Instant) (name : Option String) :
    (bag.assess debugging now name).outcome = .ok ⟨true, true, true, true⟩ := by
  have hnone : bag.textOf = fun _ ↦ none := funext h
  rw [Bag.outcome_assess, Bag.outcome_controlValue, Bag.integerOf_of_none (h _),
    Bag.integerOf_of_none (h _), Bag.expires, hnone]
  rfl

/-- **Exactly the listed attributes are read.** What an entry holds under other names has no part in
what an assessment answers or prints. Entries with the same texts under the listed names are
assessed in the same way, and with the same log while debugging is not enabled. And each listed name
matters: some entry is assessed in another way without it. -/
theorem Session.assess_reads_listed :
    (∀ (s : Session) (name : Option String),
        { s with bag := s.bag.restrict Attribute.names }.reply (.assess name) =
          s.reply (.assess name)) ∧
      (∀ (s : Session) (bag : Bag) (name : Option String),
        (∀ n ∈ Attribute.names, (bag.text n).outcome = (s.bag.text n).outcome) →
          ({ s with bag := bag }.reply (.assess name)).outcome =
              (s.reply (.assess name)).outcome ∧
            (s.settings.debugEnabled = false →
              ({ s with bag := bag }.reply (.assess name)).lines =
                (s.reply (.assess name)).lines)) ∧
      ∀ n ∈ Attribute.names, ∃ s : Session, ∀ name,
        ({ s with bag := s.bag.erase n }.reply (.assess name)).outcome ≠
          (s.reply (.assess name)).outcome := by
  refine ⟨fun s name ↦ ?_, fun s bag name htext ↦ ⟨?_, fun hoff ↦ ?_⟩, fun n hn ↦ ?_⟩
  · refine reply_assess_congr (Bag.alikeInTexts_of_get? fun n hn ↦ ?_) name
    rw [Table.get?_restrict, if_pos hn]
  · -- The outcome is the same under all settings, so take some under which nobody debugs.
    have halike := Bag.alikeInTexts_of_outcome_text (s := .initial) rfl htext
    rw [outcome_reply_assess, outcome_reply_assess]
    exact congrArg _ (halike.assess s.settings.debugEnabled s.clock name).1
  · rw [reply_assess_congr (Bag.alikeInTexts_of_outcome_text hoff htext)]
  · obtain ⟨a, -, rfl⟩ := List.mem_map.1 hn
    refine ⟨⟨.initial, Filetime.epoch, .single a a.denyingText⟩, fun name heq ↦ ?_⟩
    have herased : ∀ b, Bag.textOf ((Bag.single a a.denyingText).erase a.name) b = none := by
      intro b
      rw [Bag.textOf_erase, Bag.textOf_single]
      split <;> rfl
    rw [outcome_reply_assess, outcome_assess_of_textOf_eq_none herased] at heq
    have hgood := reply_assess_eq_ok_iff.1 heq.symm
    exact outcome_assess_denyingText_ne a _ name hgood

end DirectoryAccount
