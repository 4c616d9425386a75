import DirectoryAccount.Proofs.GeneralizedTime.Language
import DirectoryAccount.Proofs.Traversal
import Mathlib.Data.List.Perm.Basic

/-!
# The order of generalized times

Instants are compared by one count, and a calendar shows them by seven fields. Both orders are the
same: of two existing times the one that comes first in its fields, the year before the month and
so on, has the smaller count (`CivilTime.micros_lt_iff_fields`). **Every field counts stretches of
time that follow each other**, so one lemma, `start_add_lt_iff`, carries the order from the widest
field to the finest. Months and years are of unequal lengths; all it needs of them is that none ends
after the next one starts.

Main statement: `readTime_totalOrder`. However their zones and fractions are written, texts compare
as the moments that they name, and sorting them puts the moments in their only order.
-/

namespace DirectoryAccount

/-! ### Stretches of time -/

/-- Of two moments, each some way into a stretch of time, the one in the earlier stretch is the
earlier one, and within one stretch the one that is less far in. -/
theorem start_add_lt_iff (start : Nat → Nat) (hmono : ∀ {x y}, x ≤ y → start x ≤ start y)
    {x y r s : Nat} (hx : start x + r < start (x + 1)) (hy : start y + s < start (y + 1)) :
    start x + r < start y + s ↔ x < y ∨ x = y ∧ r < s := by
  rcases Nat.lt_trichotomy x y with h | rfl | h
  · have := hmono (show x + 1 ≤ y from h)
    omega
  · omega
  · have := hmono (show y + 1 ≤ x from h)
    omega

/-- The same for stretches that are all of one length. -/
theorem mul_add_lt_iff {k x y r s : Nat} (hr : r < k) (hs : s < k) :
    x * k + r < y * k + s ↔ x < y ∨ x = y ∧ r < s :=
  start_add_lt_iff (· * k) (fun h ↦ Nat.mul_le_mul_right k h)
    (by rw [Nat.succ_mul]; omega) (by rw [Nat.succ_mul]; omega)

/-! ### Calendar fields -/

namespace CivilTime

/-- The fields of a time from the widest to the finest. -/
def fields (t : CivilTime) : List Nat :=
  [t.year, t.month, t.day, t.hour, t.minute, t.second, t.microsecond]

/-- The microseconds from the start of the month to the time. -/
def microsOfMonth (t : CivilTime) : Nat :=
  (t.day - 1) * 86400000000 + t.microsOfDay

/-- The microseconds from the start of the year to the time. -/
def microsOfYear (t : CivilTime) : Nat :=
  daysBeforeMonth t.year t.month * 86400000000 + t.microsOfMonth

theorem micros_eq (t : CivilTime) :
    t.micros = daysBeforeYear t.year * 86400000000 + t.microsOfYear := by
  unfold micros days microsOfYear microsOfMonth
  omega

variable {t u : CivilTime}

theorem Valid.microsOfDay_lt (ht : t.Valid) : t.microsOfDay < 86400000000 := by
  obtain ⟨-, -, -, -, -, -, h₇, h₈, h₉, h₁₀⟩ := ht
  unfold microsOfDay
  omega

theorem Valid.before_nextMonth (ht : t.Valid) :
    daysBeforeMonth t.year t.month * 86400000000 + t.microsOfMonth <
      daysBeforeMonth t.year (t.month + 1) * 86400000000 := by
  have := ht.microsOfDay_lt
  have := ht.one_le_day
  have := ht.day_le
  rw [daysBeforeMonth_succ _ ht.one_le_month, microsOfMonth]
  omega

theorem Valid.before_nextYear (ht : t.Valid) :
    daysBeforeYear t.year * 86400000000 + t.microsOfYear <
      daysBeforeYear (t.year + 1) * 86400000000 := by
  have hlast := daysBeforeMonth_add_daysInMonth_le t.year ht.one_le_month ht.month_le
  rw [← daysBeforeMonth_succ _ ht.one_le_month] at hlast
  calc daysBeforeYear t.year * 86400000000 + t.microsOfYear
    _ < daysBeforeYear t.year * 86400000000 +
          daysBeforeMonth t.year (t.month + 1) * 86400000000 :=
      Nat.add_lt_add_left ht.before_nextMonth _
    _ ≤ daysBeforeYear t.year * 86400000000 + daysInYear t.year * 86400000000 :=
      Nat.add_le_add_left (Nat.mul_le_mul_right _ hlast) _
    _ = daysBeforeYear (t.year + 1) * 86400000000 := by
      rw [daysBeforeYear_succ ht.one_le_year, Nat.add_mul]

theorem micros_lt_iff_year (ht : t.Valid) (hu : u.Valid) : t.micros < u.micros ↔
    t.year < u.year ∨ t.year = u.year ∧ t.microsOfYear < u.microsOfYear := by
  rw [micros_eq, micros_eq]
  exact start_add_lt_iff (fun y ↦ daysBeforeYear y * 86400000000)
    (fun h ↦ Nat.mul_le_mul_right _ (daysBeforeYear_mono h)) ht.before_nextYear hu.before_nextYear

theorem microsOfYear_lt_iff_month (ht : t.Valid) (hu : u.Valid) (hyear : t.year = u.year) :
    t.microsOfYear < u.microsOfYear ↔
      t.month < u.month ∨ t.month = u.month ∧ t.microsOfMonth < u.microsOfMonth := by
  have hnext := ht.before_nextMonth
  rw [microsOfYear, microsOfYear, hyear]
  rw [hyear] at hnext
  exact start_add_lt_iff (fun m ↦ daysBeforeMonth u.year m * 86400000000)
    (fun h ↦ Nat.mul_le_mul_right _ (daysBeforeMonth_mono u.year h)) hnext hu.before_nextMonth

theorem microsOfMonth_lt_iff_day (ht : t.Valid) (hu : u.Valid) :
    t.microsOfMonth < u.microsOfMonth ↔
      t.day < u.day ∨ t.day = u.day ∧ t.microsOfDay < u.microsOfDay := by
  have := ht.microsOfDay_lt
  have := hu.microsOfDay_lt
  have := ht.one_le_day
  have := hu.one_le_day
  unfold microsOfMonth
  omega

theorem microsOfDay_lt_iff_clock (ht : t.Valid) (hu : u.Valid) :
    t.microsOfDay < u.microsOfDay ↔
      [t.hour, t.minute, t.second, t.microsecond] <
        [u.hour, u.minute, u.second, u.microsecond] := by
  -- As it is defined the count splits off the microsecond first, but the hour has to come first.
  have hnested (v : CivilTime) : v.microsOfDay =
      v.hour * 3600000000 + (v.minute * 60000000 + (v.second * 1000000 + v.microsecond)) := by
    unfold microsOfDay
    omega
  obtain ⟨-, -, -, -, -, -, h₇, h₈, h₉, h₁₀⟩ := ht
  obtain ⟨-, -, -, -, -, -, h₇', h₈', h₉', h₁₀'⟩ := hu
  rw [hnested, hnested, mul_add_lt_iff (by omega) (by omega), mul_add_lt_iff (by omega) (by omega),
    mul_add_lt_iff h₁₀ h₁₀']
  simp only [List.cons_lt_cons_iff, List.not_lt_nil, and_false, or_false]

/-- **Existing times are in the order of their fields.** -/
theorem micros_lt_iff_fields (ht : t.Valid) (hu : u.Valid) :
    t.micros < u.micros ↔ t.fields < u.fields := by
  rw [micros_lt_iff_year ht hu, fields, fields, List.cons_lt_cons_iff]
  -- Months start on different days in different years, so the year has to be the same from here on.
  refine or_congr_right (and_congr_right fun hyear ↦ ?_)
  rw [microsOfYear_lt_iff_month ht hu hyear, microsOfMonth_lt_iff_day ht hu,
    microsOfDay_lt_iff_clock ht hu]
  simp only [List.cons_lt_cons_iff]

end CivilTime

/-! ### Instants -/

namespace Instant

variable {a b : Instant}

/-- Instants are in the order of their calendar fields. -/
theorem micros_lt_iff_fields : a.micros < b.micros ↔ a.civil.fields < b.civil.fields := by
  rw [← CivilTime.micros_lt_iff_fields a.civil_valid b.civil_valid, micros_civil, micros_civil]

/-- An instant is after another, before it or the same, and only one of these. -/
theorem count_comparisons (a b : Instant) :
    [a.isAfter b, a.isBefore b, decide (a = b)].count true = 1 := by
  have heq : a = b ↔ a.micros = b.micros := ⟨congrArg micros, eq_of_micros_eq⟩
  unfold isAfter isBefore
  simp only [lt_def, heq]
  rcases Nat.lt_trichotomy a.micros b.micros with h | h | h
  · simp [h, h.ne, h.le]
  · simp [h]
  · simp [h, h.ne', h.le]

theorem sort_perm (l : List Instant) : (sort l).Perm l :=
  List.mergeSort_perm l _

theorem pairwise_sort (l : List Instant) : (sort l).Pairwise (· ≤ ·) := by
  have htrans (a b c : Instant) (hab : decide (a ≤ b) = true) (hbc : decide (b ≤ c) = true) :
      decide (a ≤ c) = true := by
    simp only [decide_eq_true_eq, le_def] at *
    exact hab.trans hbc
  have htotal (a b : Instant) : (decide (a ≤ b) || decide (b ≤ a)) = true := by
    simp only [Bool.or_eq_true, decide_eq_true_eq, le_def]
    exact Nat.le_total _ _
  exact (List.pairwise_mergeSort htrans htotal l).imp of_decide_eq_true

/-- There is only one ascending order of the same instants. -/
theorem sort_eq_of_perm {l l' : List Instant} (h : l.Perm l') : sort l = sort l' :=
  List.Perm.eq_of_pairwise (fun _ _ _ _ hab hba ↦ eq_of_micros_eq (Nat.le_antisymm hab hba))
    (pairwise_sort l) (pairwise_sort l') ((sort_perm l).trans (h.trans (sort_perm l').symm))

end Instant

/-! ### Texts -/

/-- The count in universal time of the moment that a written time says. -/
def WrittenTime.universalMicros (w : WrittenTime) : ℤ :=
  w.localMicros - w.zone.minutesEast * 60000000

/-- Accepted texts are compared as the moments that they say. -/
theorem readTime_compare {s t : String} {a b : Instant} (ha : readTime s = .ok a)
    (hb : readTime t = .ok b) : ∃ w v : WrittenTime, s.toList = w.text ∧ t.toList = v.text ∧
      (a.isAfter b = true ↔ v.universalMicros < w.universalMicros) ∧
      (a.isBefore b = true ↔ w.universalMicros < v.universalMicros) := by
  obtain ⟨w, hw⟩ := exists_written_of_readTime ha
  obtain ⟨v, hv⟩ := exists_written_of_readTime hb
  refine ⟨w, v, hw, hv, ?_⟩
  rw [Instant.isAfter_eq_true_iff, Instant.isBefore_eq_true_iff, WrittenTime.universalMicros,
    WrittenTime.universalMicros, ← micros_of_readTime hw ha, ← micros_of_readTime hv hb]
  exact ⟨Nat.cast_lt.symm, Nat.cast_lt.symm⟩

/-- Accepted texts are sorted as their instants are. -/
theorem readTimesSorted_of_forall₂ {texts : List String} {instants : List Instant}
    (h : List.Forall₂ (fun s a ↦ readTime s = .ok a) texts instants) :
    readTimesSorted texts = .ok (Instant.sort instants) := by
  rw [readTimesSorted, mapM_eq_ok_iff_forall₂.2 h]
  rfl

/-- In another order, accepted texts are still those of the same instants. -/
theorem readTimesSorted_of_perm {texts texts' : List String} {instants : List Instant}
    (h : List.Forall₂ (fun s a ↦ readTime s = .ok a) texts instants) (hperm : texts'.Perm texts) :
    readTimesSorted texts' = .ok (Instant.sort instants) := by
  obtain ⟨instants', h', hperm'⟩ := List.perm_comp_forall₂ hperm h
  rw [readTimesSorted_of_forall₂ h', Instant.sort_eq_of_perm hperm']

theorem readTimesSorted_eq_error_iff {texts : List String} {f : Failure} :
    readTimesSorted texts = .error f ↔ ∃ before bad after, texts = before ++ bad :: after ∧
      (∀ s ∈ before, ∃ a, readTime s = .ok a) ∧ readTime bad = .error f := by
  rw [readTimesSorted, ← mapM_eq_error_iff]
  cases texts.mapM readTime <;> simp [Except.map]

/-- **Generalized times are totally ordered by the moments that they name.** Of two accepted texts
the first names the later moment, the earlier one or the same, whichever way zones and fractions are
written, and the comparisons are those of the counts and of the calendar fields in universal time.
Accepted texts are sorted into the ascending order of their instants, in whatever order they come. A
list with malformed texts fails as the first of them does. -/
theorem readTime_totalOrder :
    (∀ s t a b, readTime s = .ok a → readTime t = .ok b →
      (∃ w v : WrittenTime, s.toList = w.text ∧ t.toList = v.text ∧
        (a.isAfter b = true ↔ v.universalMicros < w.universalMicros) ∧
        (a.isBefore b = true ↔ w.universalMicros < v.universalMicros)) ∧
      (a.isAfter b = true ↔ b.civil.micros < a.civil.micros) ∧
      (a.isAfter b = true ↔ b.civil.fields < a.civil.fields) ∧
      (a.isBefore b = true ↔ a.civil.micros < b.civil.micros) ∧
      (a.isBefore b = true ↔ a.civil.fields < b.civil.fields) ∧
      [a.isAfter b, a.isBefore b, decide (a = b)].count true = 1 ∧
      (a < b ↔ a.isBefore b = true) ∧ (a > b ↔ a.isAfter b = true) ∧
      (a ≤ b ↔ a.isAfter b = false) ∧ (a ≥ b ↔ a.isBefore b = false)) ∧
    (∀ texts instants, List.Forall₂ (fun s a ↦ readTime s = .ok a) texts instants →
      ∃ sorted, readTimesSorted texts = .ok sorted ∧ sorted.Perm instants ∧
        sorted.Pairwise (fun a b ↦ a.isAfter b = false) ∧
        ∀ texts', texts'.Perm texts → readTimesSorted texts' = .ok sorted) ∧
    ∀ texts f, readTimesSorted texts = .error f ↔
      ∃ before bad after, texts = before ++ bad :: after ∧
        (∀ s ∈ before, ∃ a, readTime s = .ok a) ∧ readTime bad = .error f := by
  refine ⟨fun s t a b ha hb ↦ ?_, fun texts instants h ↦ ?_, fun _ _ ↦ readTimesSorted_eq_error_iff⟩
  · refine ⟨readTime_compare ha hb, ?_⟩
    rw [Instant.micros_civil, Instant.micros_civil, ← Instant.micros_lt_iff_fields,
      ← Instant.micros_lt_iff_fields]
    exact ⟨Instant.isAfter_eq_true_iff, Instant.isAfter_eq_true_iff, Instant.isBefore_eq_true_iff,
      Instant.isBefore_eq_true_iff, Instant.count_comparisons a b,
      Instant.isBefore_eq_true_iff.symm, Instant.isAfter_eq_true_iff.symm,
      Instant.isAfter_eq_false_iff.symm, Instant.isBefore_eq_false_iff.symm⟩
  · refine ⟨Instant.sort instants, readTimesSorted_of_forall₂ h, Instant.sort_perm instants, ?_,
      fun texts' hperm ↦ readTimesSorted_of_perm h hperm⟩
    exact (Instant.pairwise_sort instants).imp Instant.isAfter_eq_false_iff.2

/-- Half past two in the afternoon, two hours east of Greenwich, is the half of the hour after noon
there, and after the last minute of the day before. There is no hour 24. -/
theorem readTime_totalOrder_leap_day :
    ∃ a b, readTime "20240229143000+0200" = .ok a ∧ readTime "2024022912.5Z" = .ok a ∧
      readTime "202402282359Z" = .ok b ∧ a.isAfter b = true ∧
      (∃ sorted, readTimesSorted ["20240229143000+0200", "202402282359Z", "2024022912.5Z"] =
        .ok sorted ∧ sorted.Perm [a, b, a] ∧ sorted.Pairwise fun a b ↦ a.isAfter b = false) ∧
      readTimesSorted ["202402282359Z", "2024022824Z", "2024022825Z"] =
        .error (.malformedTime "2024022824Z" "hour must be in 0..23") := by
  have ha : readTime "20240229143000+0200" = .ok ⟨63844806600000000, by decide⟩ := by
    decide +kernel
  have ha' : readTime "2024022912.5Z" = .ok ⟨63844806600000000, by decide⟩ := by decide +kernel
  have hb : readTime "202402282359Z" = .ok ⟨63844761540000000, by decide⟩ := by decide +kernel
  obtain ⟨hcompare, hsort, herror⟩ := readTime_totalOrder
  obtain ⟨-, -, hafter, -⟩ := hcompare _ _ _ _ ha hb
  obtain ⟨sorted, hsorted, hperm, hpairwise, -⟩ :=
    hsort _ _ (.cons ha (.cons hb (.cons ha' .nil)))
  refine ⟨_, _, ha, ha', hb, hafter.2 (by decide +kernel), ⟨sorted, hsorted, hperm, hpairwise⟩, ?_⟩
  exact (herror _ _).2 ⟨["202402282359Z"], "2024022824Z", ["2024022825Z"], rfl,
    List.forall_mem_singleton.2 ⟨_, hb⟩, by decide +kernel⟩

end DirectoryAccount
