import DirectoryAccount.Calendar

/-!
# Instants

An instant is a moment in universal time in the years 1 to 9999, known to the microsecond. It is
held as a count, so order and distance are those of the counts, and the seven calendar fields are a
view, `Instant.civil`.

Counts come from arithmetic and may leave the range on either side. `Instant.ofInt?` is the one
gate: it answers nothing exactly for the counts outside.
-/

namespace DirectoryAccount

/-- A moment in universal time in the years 1 to 9999. -/
structure Instant where
  /-- The microseconds since the start of year 1. -/
  micros : Nat
  micros_lt : micros < CivilTime.microsLimit
  deriving DecidableEq

namespace Instant

/-- Instants are ordered as their counts. -/
instance : LT Instant := ⟨fun a b ↦ a.micros < b.micros⟩

/-- Instants are ordered as their counts. -/
instance : LE Instant := ⟨fun a b ↦ a.micros ≤ b.micros⟩

theorem lt_def {a b : Instant} : a < b ↔ a.micros < b.micros := Iff.rfl

theorem le_def {a b : Instant} : a ≤ b ↔ a.micros ≤ b.micros := Iff.rfl

instance (a b : Instant) : Decidable (a < b) :=
  inferInstanceAs (Decidable (a.micros < b.micros))

instance (a b : Instant) : Decidable (a ≤ b) :=
  inferInstanceAs (Decidable (a.micros ≤ b.micros))

theorem eq_of_micros_eq {a b : Instant} (h : a.micros = b.micros) : a = b := by
  cases a
  cases b
  simpa using h

/-- The first instant comes after the second. -/
def isAfter (a b : Instant) : Bool :=
  decide (b < a)

/-- The first instant comes before the second. -/
def isBefore (a b : Instant) : Bool :=
  decide (a < b)

theorem isAfter_eq_true_iff {a b : Instant} : a.isAfter b = true ↔ b < a :=
  decide_eq_true_iff

theorem isBefore_eq_true_iff {a b : Instant} : a.isBefore b = true ↔ a < b :=
  decide_eq_true_iff

theorem isAfter_eq_false_iff {a b : Instant} : a.isAfter b = false ↔ a ≤ b :=
  decide_eq_false_iff_not.trans Nat.not_lt

theorem isBefore_eq_false_iff {a b : Instant} : a.isBefore b = false ↔ b ≤ a :=
  decide_eq_false_iff_not.trans Nat.not_lt

/-- Instants in ascending order. -/
def sort (l : List Instant) : List Instant :=
  l.mergeSort fun a b ↦ decide (a ≤ b)

/-! ### Instants from counts -/

/-- The instant with the given count, if there is one. -/
def ofInt? (n : Int) : Option Instant :=
  if h : 0 ≤ n ∧ n < CivilTime.microsLimit then some ⟨n.toNat, by omega⟩ else none

theorem ofInt?_eq_some_iff {n : Int} {a : Instant} : ofInt? n = some a ↔ n = a.micros := by
  unfold ofInt?
  split
  · rename_i h
    constructor
    · rintro ⟨⟩
      simp only
      omega
    · rintro rfl
      rfl
  · rename_i h
    constructor
    · rintro ⟨⟩
    · intro ha
      have := a.micros_lt
      omega

/-- **A count is refused exactly outside the range.** -/
theorem ofInt?_eq_none_iff {n : Int} : ofInt? n = none ↔ n < 0 ∨ CivilTime.microsLimit ≤ n := by
  unfold ofInt?
  split <;> simp <;> omega

@[simp] theorem ofInt?_micros (a : Instant) : ofInt? a.micros = some a :=
  ofInt?_eq_some_iff.2 rfl

/-! ### The calendar view -/

/-- The calendar fields of an instant. -/
def civil (a : Instant) : CivilTime :=
  CivilTime.ofMicros a.micros

theorem civil_valid (a : Instant) : a.civil.Valid :=
  CivilTime.ofMicros_valid a.micros_lt

@[simp] theorem micros_civil (a : Instant) : a.civil.micros = a.micros :=
  CivilTime.micros_ofMicros a.micros

/-- The instant that calendar fields name in universal time. -/
def ofCivil (t : CivilTime) (h : t.Valid) : Instant :=
  ⟨t.micros, h.micros_lt⟩

@[simp] theorem micros_ofCivil (t : CivilTime) (h : t.Valid) : (ofCivil t h).micros = t.micros :=
  rfl

@[simp] theorem civil_ofCivil (t : CivilTime) (h : t.Valid) : (ofCivil t h).civil = t :=
  CivilTime.ofMicros_micros h

/-- The instant that calendar fields name at an offset of so many microseconds east of Greenwich, if
it lies in the years 1 to 9999. Fields without an offset are those of universal time. -/
def ofLocal? (t : CivilTime) (offset : Option Int) : Option Instant :=
  ofInt? (t.micros - offset.getD 0)

/-! ### Text in the order of the calendar -/

/-- A number in decimal, filled up with zeros on the left to a width. -/
def padded (width n : Nat) : String :=
  String.ofList (List.leftpad width '0' (Nat.toDigits 10 n))

/-- The fields from the year down, with the microseconds only where they are not zero, and the
offset of universal time. -/
def fieldsText (a : Instant) : String :=
  let t := a.civil
  padded 4 t.year ++ "-" ++ padded 2 t.month ++ "-" ++ padded 2 t.day ++ " " ++
    padded 2 t.hour ++ ":" ++ padded 2 t.minute ++ ":" ++ padded 2 t.second ++
    (if t.microsecond = 0 then "" else "." ++ padded 6 t.microsecond) ++ "+00:00"

end Instant

end DirectoryAccount
