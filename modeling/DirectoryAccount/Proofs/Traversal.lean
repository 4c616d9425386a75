import Mathlib.Data.List.Forall2

/-!
# Reading all of a list

A list is read member by member from the front, and the first member that is refused ends the
reading with its refusal. `mapM_eq_ok_iff_forall₂` and `mapM_eq_error_iff` say what each answer
means for the members; the rest is drawn from these two.

What may be missing is read if it is there. There are three answers, with a lemma for each. The
last section is for those who do not care for the refusal.
-/

namespace DirectoryAccount

variable {ε α β : Type} {f : α → Except ε β} {a : α} {as : List α} {b : β} {e : ε}

theorem mapM_cons_of_ok (h : f a = .ok b) : (a :: as).mapM f = (as.mapM f).map (b :: ·) := by
  rw [List.mapM_cons, h]
  cases as.mapM f <;> rfl

theorem mapM_cons_of_error (h : f a = .error e) : (a :: as).mapM f = .error e := by
  rw [List.mapM_cons, h]
  rfl

/-- A list is read if and only if its members are, one by one. -/
theorem mapM_eq_ok_iff_forall₂ {bs : List β} :
    as.mapM f = .ok bs ↔ List.Forall₂ (fun a b ↦ f a = .ok b) as bs := by
  induction as generalizing bs with
  | nil =>
    rw [List.mapM_nil, List.forall₂_nil_left_iff, eq_comm (a := bs)]
    exact ⟨Except.ok.inj, congrArg Except.ok⟩
  | cons a as ih =>
    rw [List.forall₂_cons_left_iff]
    cases ha : f a with
    | error e =>
      rw [mapM_cons_of_error ha]
      simp
    | ok b =>
      rw [mapM_cons_of_ok ha]
      simp only [← ih]
      cases as.mapM f with
      | error e => simp [Except.map]
      | ok bs' => simp [Except.map, eq_comm]

/-- A list is refused as the first of its members that is. -/
theorem mapM_eq_error_iff :
    as.mapM f = .error e ↔ ∃ before a after, as = before ++ a :: after ∧
      (∀ x ∈ before, ∃ b, f x = .ok b) ∧ f a = .error e := by
  constructor
  · intro h
    induction as with
    | nil => cases h
    | cons a as ih =>
      cases ha : f a with
      | error e' =>
        rw [mapM_cons_of_error ha] at h
        cases h
        exact ⟨[], a, as, rfl, by simp, ha⟩
      | ok b =>
        rw [mapM_cons_of_ok ha] at h
        cases has : as.mapM f with
        | ok bs =>
          rw [has] at h
          cases h
        | error e' =>
          rw [has] at h
          cases h
          obtain ⟨before, x, after, rfl, hbefore, hx⟩ := ih has
          exact ⟨a :: before, x, after, rfl, List.forall_mem_cons.2 ⟨⟨b, ha⟩, hbefore⟩, hx⟩
  · rintro ⟨before, a, after, rfl, hbefore, ha⟩
    induction before with
    | nil => exact mapM_cons_of_error ha
    | cons x before ih =>
      obtain ⟨⟨b, hx⟩, hbefore⟩ := List.forall_mem_cons.1 hbefore
      rw [List.cons_append, mapM_cons_of_ok hx, ih hbefore]
      rfl

/-- A list is refused as one of its members is. -/
theorem exists_of_mapM_eq_error (h : as.mapM f = .error e) : ∃ a ∈ as, f a = .error e := by
  obtain ⟨before, a, after, rfl, -, ha⟩ := mapM_eq_error_iff.1 h
  exact ⟨a, by simp, ha⟩

/-- What reads back single things that were written reads back lists of them. -/
theorem mapM_eq_ok_iff {g : β → α} (h : ∀ a b, f a = .ok b ↔ a = g b) {bs : List β} :
    as.mapM f = .ok bs ↔ as = bs.map g := by
  rw [mapM_eq_ok_iff_forall₂, ← List.forall₂_eq_eq_eq, List.forall₂_map_right_iff]
  simp only [h]

/-! ### What may be missing -/

section

variable {o : Option α}

theorem mapM_option_eq_none_iff : o.mapM f = .ok none ↔ o = none := by
  cases o with
  | none => simp [pure, Except.pure]
  | some a =>
    rw [Option.mapM_some]
    cases f a <;> simp [Functor.map, Except.map]

theorem mapM_option_eq_some_iff : o.mapM f = .ok (some b) ↔ ∃ a, o = some a ∧ f a = .ok b := by
  cases o with
  | none => simp [pure, Except.pure]
  | some a =>
    simp only [Option.mapM_some, Option.some.injEq, exists_eq_left']
    cases f a <;> simp [Functor.map, Except.map]

theorem mapM_option_eq_error_iff : o.mapM f = .error e ↔ ∃ a, o = some a ∧ f a = .error e := by
  cases o with
  | none => simp [pure, Except.pure]
  | some a =>
    simp only [Option.mapM_some, Option.some.injEq, exists_eq_left']
    cases f a <;> simp [Functor.map, Except.map]

end

/-! ### Up to the refusal -/

theorem toOption_bind (x : Except ε α) (f : α → Except ε β) :
    (x.bind f).toOption = x.toOption.bind fun a ↦ (f a).toOption := by
  cases x <;> rfl

theorem toOption_map (f : α → β) (x : Except ε α) :
    (x.map f).toOption = x.toOption.map f := by
  cases x <;> rfl

/-- What may be missing is read up to the refusal as what is there is. -/
theorem toOption_mapM_option (o : Option α) (f : α → Except ε β) :
    (o.mapM f).toOption = o.mapM fun a ↦ (f a).toOption := by
  cases o with
  | none => rfl
  | some a =>
    rw [Option.mapM_some, Option.mapM_some]
    cases f a <;> rfl

end DirectoryAccount
