import DirectoryAccount.Text.Digit

/-!
# Generalized time as it is written

The text form of a generalized time is a date, a clock reading that may end at the hour or the
minute, an optional fraction of the last unit written, and a zone:

```
YYYYMMDDHH[MM[SS]][(.|,)digits](Z|+hh[mm]|-hh[mm])
```

`WrittenTime` keeps everything that such a text says, month 13 and hour 99 included, and nothing
else. So a text and what it says determine each other: `WrittenTime.ofText?_eq_some_iff` states that
reading accepts exactly what `WrittenTime.text` writes. Whether the fields name a moment is not a
matter of the text.
-/

namespace DirectoryAccount

/-- The sign between a number and its fraction. -/
inductive FractionMark where
  | point
  | comma
  deriving DecidableEq, Repr

/-- A fraction of a unit, of at least one digit. -/
structure WrittenFraction where
  mark : FractionMark
  first : Digit
  others : List Digit
  deriving DecidableEq, Repr

/-- A clock reading down to the last unit that is written. -/
inductive WrittenClock where
  | hour (h : Fin 100)
  | minute (h m : Fin 100)
  | second (h m s : Fin 100)
  deriving DecidableEq, Repr

/-- The side of Greenwich on which an offset lies. -/
inductive Side where
  | east
  | west
  deriving DecidableEq, Repr

/-- The zone of a clock reading: universal time, or an offset in hours and, if written, minutes. -/
inductive WrittenZone where
  | universal
  | offset (side : Side) (hours : Fin 100) (minutes : Option (Fin 100))
  deriving DecidableEq, Repr

/-- All that the text of a generalized time says. -/
structure WrittenTime where
  year : Fin 10000
  month : Fin 100
  day : Fin 100
  clock : WrittenClock
  fraction : Option WrittenFraction
  zone : WrittenZone
  deriving DecidableEq, Repr

/-! ### Fractions -/

namespace FractionMark

/-- The character of a mark. -/
def char : FractionMark → Char
  | point => '.'
  | comma => ','

/-- The mark that a character is. -/
def ofChar? (c : Char) : Option FractionMark :=
  if c = '.' then some point else if c = ',' then some comma else none

theorem ofChar?_eq_some_iff {c : Char} {m : FractionMark} : ofChar? c = some m ↔ c = m.char := by
  cases m <;> grind [ofChar?, char]

end FractionMark

namespace WrittenFraction

/-- The digits of a fraction. -/
def digits (f : WrittenFraction) : List Digit :=
  f.first :: f.others

/-- A fraction written down. -/
def text (f : WrittenFraction) : List Char :=
  f.mark.char :: Digit.text f.digits

/-- The text of a fraction, or of none. -/
def textOf : Option WrittenFraction → List Char
  | none => []
  | some f => f.text

/-- The fraction at the front of a text, if there is one, and what follows it. -/
def split : List Char → Option WrittenFraction × List Char
  | [] => (none, [])
  | c :: rest =>
    match FractionMark.ofChar? c, Digit.span rest with
    | some mark, (d :: ds, rest') => (some ⟨mark, d, ds⟩, rest')
    | _, _ => (none, c :: rest)

/-- A split loses nothing. -/
theorem textOf_append_split (t : List Char) : textOf (split t).1 ++ (split t).2 = t := by
  cases t with
  | nil => rfl
  | cons c rest =>
    rw [split]
    split
    · rename_i mark d ds rest' hm hs
      have := Digit.text_append_span rest
      rw [hs] at this
      simp [textOf, text, digits, FractionMark.ofChar?_eq_some_iff.1 hm, ← this]
    · rfl

/-- A fraction is split off exactly before anything that cannot lengthen it. -/
theorem split_text_append (f : WrittenFraction) {t : List Char} (h : Digit.NotAtFront t) :
    split (f.text ++ t) = (some f, t) := by
  have hm : FractionMark.ofChar? f.mark.char = some f.mark :=
    FractionMark.ofChar?_eq_some_iff.2 rfl
  simp [text, split, hm, digits, Digit.span_text_append (f.first :: f.others) h, - Digit.text_cons]

end WrittenFraction

/-! ### Zones -/

namespace Side

/-- The sign of an offset on a side. -/
def char : Side → Char
  | east => '+'
  | west => '-'

/-- The side that a sign stands for. -/
def ofChar? (c : Char) : Option Side :=
  if c = '+' then some east else if c = '-' then some west else none

theorem ofChar?_eq_some_iff {c : Char} {s : Side} : ofChar? c = some s ↔ c = s.char := by
  cases s <;> grind [ofChar?, char]

end Side

namespace WrittenZone

/-- A zone written down. -/
def text : WrittenZone → List Char
  | universal => ['Z']
  | offset side hours minutes =>
    side.char :: Digit.text (Digit.ofPair hours ++ (minutes.map Digit.ofPair).getD [])

/-- The offset with the given digits. -/
def ofDigits? (side : Side) : List Digit → Option WrittenZone
  | [a, b] => some (offset side (Digit.pair a b) none)
  | [a, b, c, d] => some (offset side (Digit.pair a b) (some (Digit.pair c d)))
  | _ => none

/-- The zone that a text names. -/
def ofText? : List Char → Option WrittenZone
  | [] => none
  | c :: rest =>
    if c = 'Z' ∧ rest = [] then some universal
    else
      match Side.ofChar? c, Digit.span rest with
      | some side, (ds, []) => ofDigits? side ds
      | _, _ => none

/-- No zone starts with a digit, so a zone ends the digits before it. -/
theorem notAtFront_text (z : WrittenZone) : Digit.NotAtFront z.text := by
  cases z with
  | universal => rfl
  | offset side hours minutes => cases side <;> rfl

@[simp] theorem ofText?_text (z : WrittenZone) : ofText? z.text = some z := by
  cases z with
  | universal => rfl
  | offset side hours minutes =>
    have hside : Side.ofChar? side.char = some side := Side.ofChar?_eq_some_iff.2 rfl
    have hz : side.char ≠ 'Z' := by cases side <;> decide
    have hspan := Digit.span_text_append
      (Digit.ofPair hours ++ (minutes.map Digit.ofPair).getD []) (t := []) trivial
    rw [List.append_nil] at hspan
    rw [text, ofText?, if_neg (fun h ↦ hz h.1), hside, hspan]
    cases minutes <;> simp [ofDigits?, Digit.ofPair, Digit.pair, Fin.ext_iff] <;> omega

theorem eq_text_of_ofText? {t : List Char} {z : WrittenZone} (h : ofText? t = some z) :
    t = z.text := by
  cases t with
  | nil => cases h
  | cons c rest =>
    rw [ofText?] at h
    split at h
    · rename_i hc
      cases h
      rw [hc.1, hc.2]
      rfl
    · split at h
      · rename_i side ds hside hspan
        have hrest := Digit.text_append_span rest
        rw [hspan] at hrest
        rw [Side.ofChar?_eq_some_iff.1 hside]
        unfold ofDigits? at h
        split at h <;> cases h <;> simp [text, ← hrest]
      · cases h

end WrittenZone

/-! ### Clock readings -/

namespace WrittenClock

/-- The digits of a clock reading. -/
def digits : WrittenClock → List Digit
  | hour h => Digit.ofPair h
  | minute h m => Digit.ofPair h ++ Digit.ofPair m
  | second h m s => Digit.ofPair h ++ Digit.ofPair m ++ Digit.ofPair s

/-- The clock reading with the given digits. -/
def ofDigits? : List Digit → Option WrittenClock
  | [a, b] => some (hour (Digit.pair a b))
  | [a, b, c, d] => some (minute (Digit.pair a b) (Digit.pair c d))
  | [a, b, c, d, e, f] => some (second (Digit.pair a b) (Digit.pair c d) (Digit.pair e f))
  | _ => none

@[simp] theorem ofDigits?_digits (c : WrittenClock) : ofDigits? c.digits = some c := by
  cases c <;> simp [digits, ofDigits?, Digit.ofPair, Digit.pair, Fin.ext_iff] <;> omega

theorem eq_digits_of_ofDigits? {ds : List Digit} {c : WrittenClock} (h : ofDigits? ds = some c) :
    ds = c.digits := by
  unfold ofDigits? at h
  split at h <;> cases h <;> simp [digits]

end WrittenClock

/-! ### Times -/

namespace WrittenTime

/-- The digits before the fraction. -/
def digits (w : WrittenTime) : List Digit :=
  Digit.ofQuad w.year ++ Digit.ofPair w.month ++ Digit.ofPair w.day ++ w.clock.digits

/-- A generalized time written down. -/
def text (w : WrittenTime) : List Char :=
  Digit.text w.digits ++ (WrittenFraction.textOf w.fraction ++ w.zone.text)

/-- The time whose date and clock reading have the given digits. -/
def ofDigits? (fraction : Option WrittenFraction) (zone : WrittenZone) :
    List Digit → Option WrittenTime
  | y₁ :: y₂ :: y₃ :: y₄ :: m₁ :: m₂ :: d₁ :: d₂ :: rest =>
    (WrittenClock.ofDigits? rest).map fun clock ↦
      { year := Digit.quad y₁ y₂ y₃ y₄
        month := Digit.pair m₁ m₂
        day := Digit.pair d₁ d₂
        clock := clock
        fraction := fraction
        zone := zone }
  | _ => none

/-- What a text says as a generalized time. -/
def ofText? (t : List Char) : Option WrittenTime :=
  let digits := Digit.span t
  let fraction := WrittenFraction.split digits.2
  (WrittenZone.ofText? fraction.2).bind fun zone ↦ ofDigits? fraction.1 zone digits.1

theorem ofDigits?_digits (w : WrittenTime) : ofDigits? w.fraction w.zone w.digits = some w := by
  have hquad : Digit.quad ⟨w.year / 1000, by omega⟩ ⟨w.year / 100 % 10, by omega⟩
      ⟨w.year / 10 % 10, by omega⟩ ⟨w.year % 10, by omega⟩ = w.year := by
    simp only [Digit.quad, Fin.ext_iff]
    omega
  have hpair (n : Fin 100) : Digit.pair ⟨n / 10, by omega⟩ ⟨n % 10, by omega⟩ = n := by
    simp only [Digit.pair, Fin.ext_iff]
    omega
  simp [digits, Digit.ofQuad, Digit.ofPair, ofDigits?, hquad, hpair]

theorem eq_digits_of_ofDigits? {fraction : Option WrittenFraction} {zone : WrittenZone}
    {ds : List Digit} {w : WrittenTime} (h : ofDigits? fraction zone ds = some w) :
    ds = w.digits ∧ fraction = w.fraction ∧ zone = w.zone := by
  unfold ofDigits? at h
  split at h
  · obtain ⟨clock, hclock, rfl⟩ := Option.map_eq_some_iff.1 h
    simp [digits, WrittenClock.eq_digits_of_ofDigits? hclock]
  · cases h

/-- Neither a fraction nor a zone starts with a digit. -/
theorem notAtFront_textOf_append (f : Option WrittenFraction) (z : WrittenZone) :
    Digit.NotAtFront (WrittenFraction.textOf f ++ z.text) := by
  cases f with
  | none => exact z.notAtFront_text
  | some f =>
    obtain ⟨mark, d, ds⟩ := f
    cases mark <;> rfl

/-- No zone starts with a fraction. -/
theorem split_zone_text (z : WrittenZone) : WrittenFraction.split z.text = (none, z.text) := by
  cases z with
  | universal => rfl
  | offset side hours minutes => cases side <;> rfl

/-- **What was written reads back.** -/
@[simp] theorem ofText?_text (w : WrittenTime) : ofText? w.text = some w := by
  rw [ofText?, text, Digit.span_text_append _ (notAtFront_textOf_append _ _)]
  have hsplit : WrittenFraction.split (WrittenFraction.textOf w.fraction ++ w.zone.text) =
      (w.fraction, w.zone.text) := by
    cases w.fraction with
    | none => exact split_zone_text w.zone
    | some f => exact WrittenFraction.split_text_append f w.zone.notAtFront_text
  simp only [hsplit, WrittenZone.ofText?_text, Option.bind_some]
  exact ofDigits?_digits w

/-- **Reading accepts exactly what writing produces.** -/
theorem ofText?_eq_some_iff {t : List Char} {w : WrittenTime} :
    ofText? t = some w ↔ t = w.text := by
  constructor
  · intro h
    simp only [ofText?, Option.bind_eq_some_iff] at h
    obtain ⟨zone, hzone, hdigits⟩ := h
    obtain ⟨h₁, h₂, h₃⟩ := eq_digits_of_ofDigits? hdigits
    rw [text, ← h₁, ← h₂, ← h₃, ← WrittenZone.eq_text_of_ofText? hzone,
      WrittenFraction.textOf_append_split, Digit.text_append_span]
  · rintro rfl
    exact ofText?_text w

end WrittenTime

end DirectoryAccount
