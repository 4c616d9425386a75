import DirectoryAccount.Instant
import DirectoryAccount.Text.Digit
import DirectoryAccount.Text.Integer
import Mathlib.Algebra.Order.Ring.Nat
import Mathlib.Data.List.Induction
import Mathlib.Tactic.Ring

/-!
# Numbers written in decimal

Numbers as digits, with a place value from the left, and the two ways of writing one down.
`Instant.padded` fills up to a width with zeros, so its text is that of the digits `Digit.ofWidth`.
`Nat.toDigits` has as many digits as the number needs.
-/

namespace DirectoryAccount

namespace Digit

/-- The last `k` digits of a number, leading zeros included. -/
def ofWidth : Nat → Nat → List Digit
  | 0, _ => []
  | k + 1, n => ofWidth k (n / 10) ++ [⟨n % 10, Nat.mod_lt n (by decide)⟩]

@[simp] theorem length_ofWidth (k n : Nat) : (ofWidth k n).length = k := by
  induction k generalizing n with
  | zero => rfl
  | succ k ih => simp [ofWidth, ih]

theorem value_append_singleton (ds : List Digit) (d : Digit) :
    value (ds ++ [d]) = 10 * value ds + d.val := by
  simp [value]

theorem value_append (ds es : List Digit) :
    value (ds ++ es) = value ds * 10 ^ es.length + value es := by
  induction es using List.reverseRecOn with
  | nil => simp [value]
  | append_singleton es d ih =>
    rw [← List.append_assoc, value_append_singleton, value_append_singleton, ih, List.length_append,
      List.length_singleton]
    ring

/-- Digits denote less than their number of places allows. -/
theorem value_lt (ds : List Digit) : value ds < 10 ^ ds.length := by
  induction ds using List.reverseRecOn with
  | nil => decide
  | append_singleton ds d ih =>
    rw [value_append_singleton, List.length_append, List.length_singleton, Nat.pow_succ]
    omega

theorem value_eq_zero {ds : List Digit} (h : ∀ d ∈ ds, d = 0) : value ds = 0 := by
  induction ds using List.reverseRecOn with
  | nil => rfl
  | append_singleton ds d ih =>
    rw [value_append_singleton, ih fun e he ↦ h e (List.mem_append_left _ he),
      h d (List.mem_append_right _ (List.mem_singleton_self d))]
    rfl

/-- A number is the value of its digits, as long as it does not have more. -/
theorem value_ofWidth {k n : Nat} (h : n < 10 ^ k) : value (ofWidth k n) = n := by
  induction k generalizing n with
  | zero =>
    rw [Nat.pow_zero] at h
    exact (Nat.lt_one_iff.1 h).symm
  | succ k ih =>
    rw [Nat.pow_succ] at h
    rw [ofWidth, value_append_singleton, ih (by omega)]
    show 10 * (n / 10) + n % 10 = n
    omega

theorem text_append (ds es : List Digit) : text (ds ++ es) = text ds ++ text es :=
  List.map_append

theorem digitChar_eq_char {n : Nat} (h : n < 10) : n.digitChar = char ⟨n, h⟩ := by
  have hall : ∀ d : Digit, d.val.digitChar = char d := by decide
  exact hall ⟨n, h⟩

/-- **Padding writes the digits of the width.** -/
theorem leftpad_toDigits {k n : Nat} (hk : 1 ≤ k) (h : n < 10 ^ k) :
    List.leftpad k '0' (Nat.toDigits 10 n) = text (ofWidth k n) := by
  induction k, hk using Nat.le_induction generalizing n with
  | base =>
    rw [Nat.pow_one] at h
    rw [Nat.toDigits_of_lt_base h, digitChar_eq_char h]
    simp [List.leftpad, ofWidth, Nat.mod_eq_of_lt h]
  | succ k hk ih =>
    rw [Nat.pow_succ] at h
    rw [ofWidth, text_append, ← ih (by omega)]
    -- The last digit is all that `Nat.toDigits` writes, or it comes after those of the tenth part.
    rcases Nat.lt_or_ge n 10 with hn | hn
    · rw [Nat.toDigits_of_lt_base hn, digitChar_eq_char hn, Nat.div_eq_of_lt hn]
      simp [List.leftpad, ← List.replicate_succ', Nat.sub_add_cancel hk, Nat.mod_eq_of_lt hn]
    · rw [Nat.toDigits_of_base_le (by decide) hn, digitChar_eq_char (Nat.mod_lt n (by decide))]
      simp [List.leftpad]

end Digit

/-- The text of a padded number is that of its digits. -/
theorem Instant.toList_padded {k n : Nat} (hk : 1 ≤ k) (h : n < 10 ^ k) :
    (Instant.padded k n).toList = Digit.text (Digit.ofWidth k n) := by
  rw [Instant.padded, String.toList_ofList, Digit.leftpad_toDigits hk h]

namespace Integer

/-- An unsigned text has no sign to split off. -/
theorem splitSign_of_allDigits {ds : List Char} (h : AllDigits ds) :
    splitSign ds = (false, ds) := by
  unfold splitSign
  split
  · exact absurd (h.2 '+' (by simp)) (by decide)
  · exact absurd (h.2 '-' (by simp)) (by decide)
  · rfl

theorem allDigits_toDigits (n : Nat) : AllDigits (Nat.toDigits 10 n) :=
  ⟨Nat.toDigits_ne_nil, fun _ hc ↦ Nat.isDigit_of_mem_toDigits (by decide) (by decide) hc⟩

end Integer

end DirectoryAccount
