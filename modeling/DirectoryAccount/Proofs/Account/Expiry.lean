import DirectoryAccount.Proofs.Account.Precedence
import DirectoryAccount.Proofs.Filetime
import DirectoryAccount.Proofs.GeneralizedTime.RoundTrip

/-!
# One expiry in two encodings

Some directories keep the end of an account's validity as a file time in `accountExpires`, others as
a generalized time in `pwdEndTime` or `loginExpirationTime`. Both encodings are to the millisecond
and round down. One compares ticks, the other instants; `unexpired_encodings_agree` states that the
verdict is the same at every clock reading, before 1601 too.
-/

namespace DirectoryAccount

/-! ### File times of instants -/

namespace Filetime

/-- **Comparing ticks is comparing instants**, the later of which counts in whole milliseconds. -/
theorem ofInstant_lt_iff {now a : Instant} :
    ofInstant now < ofInstant a ↔ now.micros < a.truncMillis.micros := by
  have htrunc : a.truncMillis.micros = a.micros / 1000 * 1000 := rfl
  rw [ofInstant, ofInstant, ofMicros, ofMicros, epochMicros, htrunc]
  omega

end Filetime

/-! ### Accounts with one attribute -/

namespace Bag

/-- The attributes of an entry that has one only, with one text for a value. -/
def single (a : Attribute) (text : String) : Bag :=
  Table.ofList [(a.name, .value (.text text))]

theorem textOf_single (a b : Attribute) (text : String) :
    (single a text).textOf b = if b = a then some text else none := by
  have hget : (single a text).get? b.name =
      if b.name = a.name then some (.value (.text text)) else none :=
    Table.get?_insert .empty a.name b.name _
  rw [textOf, reading, hget]
  by_cases h : b = a
  · rw [if_pos h, if_pos (congrArg Attribute.name h)]
    rfl
  · rw [if_neg h, if_neg fun hname ↦ h (Attribute.name_injective hname)]
    rfl

end Bag

namespace Facet

/-- An account with nothing but a file time of expiry is within its validity up to that instant. -/
theorem outcome_unexpired_single_accountExpires {e : Instant} (he : Filetime.ofInstant e ≠ 0)
    (debugging : Bool) (now : Instant) :
    (unexpired (.single .accountExpires (toString (Filetime.ofInstant e))) debugging now).outcome =
      .ok (decide (now.micros < e.truncMillis.micros)) := by
  have hexpires : (Bag.single .accountExpires (toString (Filetime.ofInstant e))).expires =
      .ok (some (Filetime.ofInstant e)) := by
    rw [Bag.expires, Bag.textOf_single, if_pos rfl, Option.mapM_some,
      Filetime.readInteger_toString_ofInstant]
    rfl
  -- Neither mark of no expiry is there: zero is excluded, and the other lies beyond the year 9999.
  have hmark : ¬(Filetime.ofInstant e = 0 ∨ Filetime.ofInstant e = 9223372036854775807) := by
    rintro (h | h)
    · exact he h
    · exact Filetime.ofInstant_ne_never e h
  rw [outcome_unexpired, hexpires, ← decide_eq_decide.2 Filetime.ofInstant_lt_iff]
  simp only [Except.map, unexpiredRules, Option.map_some, if_neg hmark]
  rfl

/-- An account with nothing but a generalized time of expiry is within its validity up to that
instant, in whichever of the two attributes it stands. -/
theorem outcome_unexpired_single_time {a : Attribute}
    (ha : a = .pwdEndTime ∨ a = .loginExpirationTime) (debugging : Bool) (e now : Instant) :
    (unexpired (.single a (GeneralizedTime.write e)) debugging now).outcome =
      .ok (decide (now.micros < e.truncMillis.micros)) := by
  have hexpires : (Bag.single a (GeneralizedTime.write e)).expires = .ok none := by
    have hother : Attribute.accountExpires ≠ a := by
      rcases ha with rfl | rfl <;> decide
    rw [Bag.expires, Bag.textOf_single, if_neg hother]
    rfl
  have htime : affirmedUntil now (some (GeneralizedTime.write e)) =
      some (decide (now.micros < e.truncMillis.micros)) := by
    rw [affirmedUntil, wellFormedTime, Option.bind_some, GeneralizedTime.read_write]
    rfl
  rw [outcome_unexpired, hexpires]
  simp only [Except.map, unexpiredRules, Bag.textOf_single]
  rcases ha with rfl | rfl
  · simp only [reduceCtorEq, if_false, if_true, htime]
    rfl
  · simp only [reduceCtorEq, if_false, if_true, htime]
    rfl

end Facet

/-! ### The two encodings -/

/-- **Both encodings expire at the same instant.** For every valid time in universal time whose file
time is not the mark of no expiry, the file time in `accountExpires` and the generalized time in
`pwdEndTime` or `loginExpirationTime` give the same verdict, whether or not anybody debugs: the
account is within its validity at the clock readings strictly before the time rounded down to the
millisecond. -/
theorem unexpired_encodings_agree {t : CivilTime} (ht : t.Valid)
    (hmark : Filetime.ofLocal t (some 0) ≠ 0) :
    ∃ e : Instant, instantOfLocal t (some 0) = .ok e ∧ e.civil = t ∧
      ∀ (debugging : Bool) (now : Instant),
        (Facet.unexpired (.single .accountExpires (toString (Filetime.ofLocal t (some 0))))
            debugging now).outcome = .ok (decide (now.micros < t.micros / 1000 * 1000)) ∧
          (Facet.unexpired (.single .pwdEndTime (GeneralizedTime.write e)) debugging now).outcome =
            .ok (decide (now.micros < t.micros / 1000 * 1000)) ∧
          (Facet.unexpired (.single .loginExpirationTime (GeneralizedTime.write e)) debugging
            now).outcome = .ok (decide (now.micros < t.micros / 1000 * 1000)) := by
  have hticks : Filetime.ofLocal t (some 0) = Filetime.ofInstant (.ofCivil t ht) := by
    rw [Filetime.ofLocal, Option.getD_some, Int.sub_zero]
    rfl
  refine ⟨.ofCivil t ht, instantOfLocal_universal ht rfl, Instant.civil_ofCivil t ht,
    fun debugging now ↦ ⟨?_, ?_, ?_⟩⟩
  · rw [hticks] at hmark ⊢
    exact Facet.outcome_unexpired_single_accountExpires hmark debugging now
  · exact Facet.outcome_unexpired_single_time (.inl rfl) debugging _ now
  · exact Facet.outcome_unexpired_single_time (.inr rfl) debugging _ now

/-- The last half millisecond of 1600 is a negative file time, past at its own instant. -/
theorem unexpired_encodings_agree_before_1601 :
    (CivilTime.mk 1600 12 31 23 59 59 999500).Valid ∧
      Filetime.ofLocal ⟨1600, 12, 31, 23, 59, 59, 999500⟩ (some 0) = -10000 ∧
      ∃ e : Instant, e.civil = ⟨1600, 12, 31, 23, 59, 59, 999500⟩ ∧ ∀ debugging,
        (Facet.unexpired (.single .accountExpires "-10000") debugging e).outcome = .ok false ∧
          (Facet.unexpired (.single .pwdEndTime (GeneralizedTime.write e)) debugging e).outcome =
            .ok false ∧
          (Facet.unexpired (.single .loginExpirationTime (GeneralizedTime.write e)) debugging
            e).outcome = .ok false := by
  have hvalid : (CivilTime.mk 1600 12 31 23 59 59 999500).Valid := by decide
  have hticks : Filetime.ofLocal ⟨1600, 12, 31, 23, 59, 59, 999500⟩ (some 0) = -10000 := by decide
  obtain ⟨e, -, he, hverdict⟩ := unexpired_encodings_agree hvalid (by rw [hticks]; decide)
  have hpast : decide (e.micros <
      (CivilTime.mk 1600 12 31 23 59 59 999500).micros / 1000 * 1000) = false := by
    rw [← e.micros_civil, he]
    decide
  refine ⟨hvalid, hticks, e, he, fun debugging ↦ ?_⟩
  have hnow := hverdict debugging e
  rw [hpast, hticks, show toString (-10000 : Int) = "-10000" by decide] at hnow
  exact hnow

end DirectoryAccount
