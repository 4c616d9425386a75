/-!
# Decimal digits in text

The ten ASCII digits as numbers below ten. `Digit.span` splits a text after its leading digits, and
`Digit.text` writes digits down again.

**No other digits count.** Scripts outside ASCII have decimal digits too; here those are characters
like any other, and end a run.

Main statements: `Digit.text_append_span` (a split loses nothing) and `Digit.span_text_append`
(digits written before anything that does not start with a digit are split off exactly).
-/

namespace DirectoryAccount

/-- A decimal digit. -/
abbrev Digit := Fin 10

namespace Digit

/-- The ASCII character of a digit. -/
def char (d : Digit) : Char :=
  Char.ofNat (48 + d.val)

/-- The digit that a character is, if it is an ASCII digit. -/
def ofChar? (c : Char) : Option Digit :=
  if h : 48 ≤ c.toNat ∧ c.toNat < 58 then some ⟨c.toNat - 48, by omega⟩ else none

theorem toNat_char (d : Digit) : d.char.toNat = 48 + d.val := by
  revert d
  decide

@[simp] theorem ofChar?_char (d : Digit) : ofChar? d.char = some d := by
  revert d
  decide

theorem ofChar?_eq_some_iff {c : Char} {d : Digit} : ofChar? c = some d ↔ c = d.char := by
  constructor
  · intro h
    unfold ofChar? at h
    split at h
    · cases h
      apply Char.toNat_inj.1
      rw [toNat_char]
      simp only
      omega
    · cases h
  · rintro rfl
    exact ofChar?_char d

/-! ### Runs of digits -/

/-- Digits written one after the other. -/
def text (ds : List Digit) : List Char :=
  ds.map char

@[simp] theorem text_nil : text [] = [] := rfl

@[simp] theorem text_cons (d : Digit) (ds : List Digit) : text (d :: ds) = d.char :: text ds := rfl

/-- The leading digits of a text, and what follows them. -/
def span : List Char → List Digit × List Char
  | [] => ([], [])
  | c :: rest =>
    match ofChar? c with
    | some d => (d :: (span rest).1, (span rest).2)
    | none => ([], c :: rest)

/-- **A split loses nothing.** -/
theorem text_append_span (t : List Char) : text (span t).1 ++ (span t).2 = t := by
  induction t with
  | nil => rfl
  | cons c rest ih =>
    rw [span]
    split
    · rename_i d h
      rw [ofChar?_eq_some_iff.1 h]
      simpa using ih
    · rfl

/-- No digit stands at the front of a text. -/
def NotAtFront : List Char → Prop
  | [] => True
  | c :: _ => ofChar? c = none

theorem span_of_notAtFront {t : List Char} (h : NotAtFront t) : span t = ([], t) := by
  cases t with
  | nil => rfl
  | cons c rest =>
    have h' : ofChar? c = none := h
    simp [span, h']

/-- **Digits before anything else are split off exactly.** -/
theorem span_text_append (ds : List Digit) {t : List Char} (h : NotAtFront t) :
    span (text ds ++ t) = (ds, t) := by
  induction ds with
  | nil => exact span_of_notAtFront h
  | cons d ds ih => simp [span, ih]

/-- The number that digits denote, the most significant first. -/
def value (ds : List Digit) : Nat :=
  ds.foldl (fun n d ↦ 10 * n + d.val) 0

/-! ### Numbers of a fixed width -/

/-- The number of two digits. -/
def pair (a b : Digit) : Fin 100 :=
  ⟨10 * a.val + b.val, by omega⟩

/-- A number below a hundred as two digits. -/
def ofPair (n : Fin 100) : List Digit :=
  [⟨n.val / 10, by omega⟩, ⟨n.val % 10, by omega⟩]

@[simp] theorem ofPair_pair (a b : Digit) : ofPair (pair a b) = [a, b] := by
  simp only [ofPair, pair, List.cons.injEq, Fin.ext_iff, and_true]
  omega

/-- The number of four digits. -/
def quad (a b c d : Digit) : Fin 10000 :=
  ⟨1000 * a.val + 100 * b.val + 10 * c.val + d.val, by omega⟩

/-- A number below ten thousand as four digits. -/
def ofQuad (n : Fin 10000) : List Digit :=
  [⟨n.val / 1000, by omega⟩, ⟨n.val / 100 % 10, by omega⟩, ⟨n.val / 10 % 10, by omega⟩,
    ⟨n.val % 10, by omega⟩]

@[simp] theorem ofQuad_quad (a b c d : Digit) : ofQuad (quad a b c d) = [a, b, c, d] := by
  simp only [ofQuad, quad, List.cons.injEq, Fin.ext_iff, and_true]
  omega

/-- A number below a thousand as three digits, the first of them apart. -/
def ofTriple (n : Fin 1000) : Digit × List Digit :=
  (⟨n.val / 100, by omega⟩, [⟨n.val / 10 % 10, by omega⟩, ⟨n.val % 10, by omega⟩])

end Digit

end DirectoryAccount
