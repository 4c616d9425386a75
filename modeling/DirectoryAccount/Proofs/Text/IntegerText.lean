import DirectoryAccount.Failure
import DirectoryAccount.Proofs.Text.Decimal

/-!
# Texts of integers

Which texts are integers, and what is said of those that are not. `WrittenInteger` is all that such
a text says: a sign, if one is written, and digits. Whether the number has too many digits or too
many bits is not a matter of the text.

Main statement: `readInteger_spec`. The text alone decides what comes of it: it is read, it is too
long to be converted, or it is refused.
-/

namespace DirectoryAccount

/-! ### The shape -/

/-- The sign in front of an integer. -/
inductive IntegerSign where
  | plus
  | minus
  deriving DecidableEq, Repr

/-- All that the text of an integer says. -/
structure WrittenInteger where
  sign : Option IntegerSign
  digits : List Digit
  digits_ne_nil : digits ≠ []

namespace WrittenInteger

/-- The text of a sign, or of none. -/
def signText : Option IntegerSign → List Char
  | none => []
  | some .plus => ['+']
  | some .minus => ['-']

/-- An integer written down. -/
def text (w : WrittenInteger) : List Char :=
  signText w.sign ++ Digit.text w.digits

/-- The number that is written. Leading zeros do not count. -/
def value (w : WrittenInteger) : Int :=
  if w.sign = some .minus then -(Digit.value w.digits : Int) else Digit.value w.digits

end WrittenInteger

/-! ### Digits as characters -/

theorem Digit.isDigit_char (d : Digit) : d.char.isDigit = true := by
  revert d
  decide

/-- The characters that are digits are those of the ten digits. -/
theorem Digit.exists_char_of_isDigit {c : Char} (h : c.isDigit = true) :
    ∃ d : Digit, c = d.char := by
  have hrange : 48 ≤ c.toNat ∧ c.toNat < 58 := by
    simp only [Char.isDigit, Bool.and_eq_true, decide_eq_true_eq, UInt32.le_iff_toNat_le,
      ge_iff_le] at h
    exact ⟨h.1, Nat.lt_succ_of_le h.2⟩
  exact ⟨⟨c.toNat - 48, by omega⟩, Digit.ofChar?_eq_some_iff.1 (dif_pos hrange)⟩

theorem Digit.exists_text_of_isDigit {cs : List Char} (h : ∀ c ∈ cs, c.isDigit = true) :
    ∃ ds : List Digit, cs = Digit.text ds := by
  induction cs with
  | nil => exact ⟨[], rfl⟩
  | cons c cs ih =>
    obtain ⟨d, rfl⟩ := Digit.exists_char_of_isDigit (h c List.mem_cons_self)
    obtain ⟨ds, rfl⟩ := ih fun c' hc' ↦ h c' (List.mem_cons_of_mem _ hc')
    exact ⟨d :: ds, rfl⟩

/-- Both ways to add up digits come to the same number. -/
theorem Digit.ofDigitChars_text (ds : List Digit) :
    Nat.ofDigitChars 10 (Digit.text ds) 0 = Digit.value ds := by
  have hstep : (fun (n : Nat) (d : Digit) ↦ 10 * n + (d.char.toNat - '0'.toNat)) =
      fun n d ↦ 10 * n + d.val := by
    funext n d
    rw [Digit.toNat_char, show '0'.toNat = 48 from rfl, Nat.add_sub_cancel_left]
  rw [Nat.ofDigitChars, Digit.text, List.foldl_map, hstep, Digit.value]

namespace Integer

theorem allDigits_iff {cs : List Char} :
    AllDigits cs ↔ ∃ ds : List Digit, ds ≠ [] ∧ cs = Digit.text ds := by
  constructor
  · rintro ⟨hne, hdigits⟩
    obtain ⟨ds, rfl⟩ := Digit.exists_text_of_isDigit hdigits
    exact ⟨ds, fun hnil ↦ hne (by rw [hnil, Digit.text_nil]), rfl⟩
  · rintro ⟨ds, hne, rfl⟩
    refine ⟨fun hnil ↦ hne (List.map_eq_nil_iff.1 hnil), fun c hc ↦ ?_⟩
    obtain ⟨d, -, rfl⟩ := List.mem_map.1 hc
    exact d.isDigit_char

/-- A written integer is split into its sign and its digits. -/
theorem splitSign_text (w : WrittenInteger) :
    splitSign w.text = (decide (w.sign = some .minus), Digit.text w.digits) := by
  obtain ⟨sign, ds, hne⟩ := w
  match sign with
  | none => exact splitSign_of_allDigits (allDigits_iff.2 ⟨ds, hne, rfl⟩)
  | some .plus => rfl
  | some .minus => rfl

/-- If digits follow the sign, the text is that of a written integer. -/
theorem exists_written_of_allDigits {cs : List Char} (h : AllDigits (splitSign cs).2) :
    ∃ w : WrittenInteger, cs = w.text := by
  obtain ⟨ds, hne, hds⟩ := allDigits_iff.1 h
  unfold splitSign at hds
  split at hds
  · exact ⟨⟨some .plus, ds, hne⟩, congrArg ('+' :: ·) hds⟩
  · exact ⟨⟨some .minus, ds, hne⟩, congrArg ('-' :: ·) hds⟩
  · exact ⟨⟨none, ds, hne⟩, hds⟩

/-- A text that is no written integer is not decimal. -/
theorem read_of_forall_ne {text : String} (h : ∀ w : WrittenInteger, text.toList ≠ w.text)
    (bits : Int) : read bits text = .error .notDecimal := by
  have hdigits : ¬AllDigits (splitSign text.toList).2 := by
    intro hdigits
    obtain ⟨w, hw⟩ := exists_written_of_allDigits hdigits
    exact h w hw
  exact if_pos hdigits

/-- A written integer is refused for its length, or else for its width, or is read. -/
theorem read_of_toList_eq {text : String} {w : WrittenInteger} (h : text.toList = w.text)
    (bits : Int) :
    read bits text =
      if maxDigits < w.digits.length then .error (.tooManyDigits w.digits.length)
      else if Fits bits w.value then .ok w.value
      else .error .tooWide := by
  have hdigits : AllDigits (Digit.text w.digits) := allDigits_iff.2 ⟨_, w.digits_ne_nil, rfl⟩
  have hlength : (Digit.text w.digits).length = w.digits.length := List.length_map _
  have hvalue : signed (decide (w.sign = some .minus)) (Digit.text w.digits) = w.value := by
    simp only [signed, Digit.ofDigitChars_text, WrittenInteger.value, decide_eq_true_eq]
  rw [read, h, splitSign_text]
  simp only [hlength, hvalue]
  exact if_neg (not_not_intro hdigits)

end Integer

/-! ### What is read -/

/-- The text is that of an integer of so many bits, and not too long to be converted. -/
def IsInteger (bits : Int) (text : String) (n : Int) : Prop :=
  ∃ w : WrittenInteger, text.toList = w.text ∧ w.digits.length ≤ Integer.maxDigits ∧
    w.value = n ∧ Integer.Fits bits n

/-- The text is that of an integer with more digits than are converted. -/
def IsOverlong (text : String) (digits : Nat) : Prop :=
  ∃ w : WrittenInteger, text.toList = w.text ∧ w.digits.length = digits ∧
    Integer.maxDigits < digits

section

variable {purpose : Purpose} {name text : String} {bits : Int}

theorem readInteger_of_isInteger {n : Int} (h : IsInteger bits text n) :
    readInteger purpose name text bits = .ok n := by
  obtain ⟨w, hw, hlength, rfl, hfits⟩ := h
  rw [readInteger, Integer.read_of_toList_eq hw, if_neg (Nat.not_lt.2 hlength), if_pos hfits]
  rfl

theorem readInteger_of_isOverlong {digits : Nat} (h : IsOverlong text digits) :
    readInteger purpose name text bits = .error (.tooManyDigits digits) := by
  obtain ⟨w, hw, rfl, hlength⟩ := h
  rw [readInteger, Integer.read_of_toList_eq hw, if_pos hlength]
  rfl

/-- Any other text is refused, by a failure that shows it. -/
theorem readInteger_of_neither (hinteger : ∀ n, ¬IsInteger bits text n)
    (hlong : ∀ digits, ¬IsOverlong text digits) : ∃ expected,
    readInteger purpose name text bits = .error (.unreadable purpose name text expected) := by
  by_cases hshape : ∃ w : WrittenInteger, text.toList = w.text
  · obtain ⟨w, hw⟩ := hshape
    have hlength : ¬Integer.maxDigits < w.digits.length := fun h ↦ hlong _ ⟨w, hw, rfl, h⟩
    have hfits : ¬Integer.Fits bits w.value := fun h ↦
      hinteger _ ⟨w, hw, Nat.not_lt.1 hlength, rfl, h⟩
    refine ⟨"a " ++ toString bits ++ "-bit integer", ?_⟩
    rw [readInteger, Integer.read_of_toList_eq hw, if_neg hlength, if_neg hfits]
    rfl
  · refine ⟨"a decimal integer", ?_⟩
    rw [readInteger, Integer.read_of_forall_ne fun w hw ↦ hshape ⟨w, hw⟩]
    rfl

end

/-- **The text decides what is read.** A text that is too long is not even named in its failure;
every other text that is no integer of the width is refused as the value of its attribute. -/
theorem readInteger_spec (purpose : Purpose) (name text : String) (bits : Int) :
    (∃ n, IsInteger bits text n ∧ readInteger purpose name text bits = .ok n) ∨
      (∃ digits, IsOverlong text digits ∧
        readInteger purpose name text bits = .error (.tooManyDigits digits)) ∨
      ((∀ n, ¬IsInteger bits text n) ∧ (∀ digits, ¬IsOverlong text digits) ∧ ∃ expected,
        readInteger purpose name text bits = .error (.unreadable purpose name text expected)) := by
  by_cases hinteger : ∃ n, IsInteger bits text n
  · obtain ⟨n, hn⟩ := hinteger
    exact .inl ⟨n, hn, readInteger_of_isInteger hn⟩
  · by_cases hlong : ∃ digits, IsOverlong text digits
    · obtain ⟨digits, hdigits⟩ := hlong
      exact .inr (.inl ⟨digits, hdigits, readInteger_of_isOverlong hdigits⟩)
    · have hinteger' := not_exists.1 hinteger
      have hlong' := not_exists.1 hlong
      exact .inr (.inr ⟨hinteger', hlong', readInteger_of_neither hinteger' hlong'⟩)

end DirectoryAccount
