import DirectoryAccount.Proofs.Text.IntegerText
import Mathlib.Algebra.Order.Ring.Int

/-!
# The integers of a width

Every text is the writing of an integer or is not, and every integer lies in the signed range of a
width or does not. `readInteger_language` says what is made of each: of texts that are no writing,
of those that are too long, of those whose integer is out of range, and of those that are read.

**Reading goes by the value, but its limit goes by the writing.** A plus and zeros in front of the
digits, as in `Integer.paddedText`, change nothing about the value, so the integer is still read, as
long as the zeros do not make the text too long.
-/

namespace DirectoryAccount

/-- Zeros in front of digits do not count. -/
theorem Digit.value_replicate_zero_append (k : Nat) (ds : List Digit) :
    Digit.value (List.replicate k 0 ++ ds) = Digit.value ds := by
  rw [value_append, value_eq_zero fun d hd ↦ List.eq_of_mem_replicate hd, Nat.zero_mul,
    Nat.zero_add]

/-- The text of a number is that of some digits, which denote it. -/
theorem Digit.exists_text_toDigits (n : Nat) :
    ∃ ds : List Digit, ds ≠ [] ∧ Nat.toDigits 10 n = Digit.text ds ∧ Digit.value ds = n := by
  obtain ⟨ds, hne, hds⟩ := Integer.allDigits_iff.1 (Integer.allDigits_toDigits n)
  refine ⟨ds, hne, hds, ?_⟩
  rw [← ofDigitChars_text, ← hds, Nat.ofDigitChars_ten_toDigits]

namespace Integer

/-- The range of a width is that of its two's complement, which reaches one further below zero than
above. -/
theorem fits_iff {bits : Nat} (hbits : 1 ≤ bits) {n : Int} :
    Fits bits n ↔ -2 ^ (bits - 1) ≤ n ∧ n ≤ 2 ^ (bits - 1) - 1 := by
  have hlimit : ((1 <<< (bits - 1) : Nat) : Int) = 2 ^ (bits - 1) := by
    rw [Nat.one_shiftLeft, Nat.cast_pow, Nat.cast_ofNat]
  rw [Fits, Int.toNat_natCast, hlimit]
  omega

/-! ### All writings of an integer -/

/-- The sign to write in front of an integer. A plus is written only where one is asked for. -/
def signFor (plus : Bool) (n : Int) : Option IntegerSign :=
  if n < 0 then some .minus else if plus then some .plus else none

/-- An integer in decimal, with so many zeros in front of its digits and, if it is not negative,
with a plus where one is asked for. -/
def paddedText (plus : Bool) (zeros : Nat) (n : Int) : String :=
  String.ofList (WrittenInteger.signText (signFor plus n) ++ List.replicate zeros '0' ++
    Nat.toDigits 10 n.natAbs)

/-- Without a plus and without zeros that is the usual text. -/
theorem paddedText_false_zero (n : Int) : paddedText false 0 n = toString n := by
  rw [← String.toList_inj, paddedText, String.toList_ofList, Int.toString_eq_repr, Int.repr_eq_if,
    signFor, List.replicate_zero, List.append_nil]
  rcases Int.lt_or_le n 0 with hneg | hnonneg
  · have habs : (-n).toNat = n.natAbs := by omega
    rw [if_pos hneg, if_neg (Int.not_le.2 hneg), habs, String.toList_append, Nat.toList_repr]
    rfl
  · have habs : n.toNat = n.natAbs := by omega
    rw [if_neg (Int.not_lt.2 hnonneg), if_pos hnonneg, habs, Nat.toList_repr]
    rfl

/-- Such a text is a written integer of that value, and the zeros count as digits. -/
theorem exists_written_paddedText (plus : Bool) (zeros : Nat) (n : Int) :
    ∃ w : WrittenInteger, (paddedText plus zeros n).toList = w.text ∧
      w.digits.length = zeros + (Nat.toDigits 10 n.natAbs).length ∧ w.value = n := by
  obtain ⟨ds, hne, hds, hvalue⟩ := Digit.exists_text_toDigits n.natAbs
  have hne' : List.replicate zeros (0 : Digit) ++ ds ≠ [] :=
    List.append_ne_nil_of_right_ne_nil _ hne
  have hlength : (Nat.toDigits 10 n.natAbs).length = ds.length := by
    rw [hds, Digit.text, List.length_map]
  refine ⟨⟨signFor plus n, _, hne'⟩, ?_, ?_, ?_⟩
  · have hzeros : List.replicate zeros '0' = Digit.text (List.replicate zeros 0) := by
      rw [Digit.text, List.map_replicate]
      rfl
    rw [paddedText, String.toList_ofList, WrittenInteger.text, Digit.text_append, ← hds, hzeros,
      List.append_assoc]
  · rw [hlength, List.length_append, List.length_replicate]
  · simp only [WrittenInteger.value, Digit.value_replicate_zero_append, hvalue, signFor]
    rcases Int.lt_or_le n 0 with hneg | hnonneg
    · rw [if_pos hneg, if_pos rfl]
      omega
    · have hsign : (if plus then some IntegerSign.plus else none) ≠ some .minus := by
        cases plus <;> decide
      rw [if_neg (Int.not_lt.2 hnonneg), if_neg hsign]
      omega

/-- A plus and zeros in front do not matter, unless the zeros make too many digits. -/
theorem isInteger_paddedText {bits n : Int} (hfits : Fits bits n) (plus : Bool) {zeros : Nat}
    (hlength : zeros + (Nat.toDigits 10 n.natAbs).length ≤ maxDigits) :
    IsInteger bits (paddedText plus zeros n) n := by
  obtain ⟨w, hw, hdigits, hvalue⟩ := exists_written_paddedText plus zeros n
  exact ⟨w, hw, by rw [hdigits]; exact hlength, hvalue, hfits⟩

/-- A number has a decimal text as long as it has few enough digits. -/
theorem text?_eq_some_iff {n : Int} {t : String} :
    text? n = some t ↔ (Nat.toDigits 10 n.natAbs).length ≤ maxDigits ∧ toString n = t := by
  rw [text?]
  by_cases hlong : maxDigits < (Nat.toDigits 10 n.natAbs).length
  · simp [if_pos hlong, Nat.not_le.2 hlong]
  · simp [if_neg hlong, Nat.not_lt.1 hlong]

end Integer

/-! ### What is made of a text -/

/-- A written integer that is not too long is read if it lies in the range of the width. -/
theorem readInteger_of_toList_eq {text : String} {w : WrittenInteger} (hw : text.toList = w.text)
    (purpose : Purpose) (name : String) {bits : Nat} (hbits : 1 ≤ bits) :
    readInteger purpose name text bits =
      if Integer.maxDigits < w.digits.length then .error (.tooManyDigits w.digits.length)
      else if -2 ^ (bits - 1) ≤ w.value ∧ w.value ≤ 2 ^ (bits - 1) - 1 then .ok w.value
      else .error (.unreadable purpose name text ("a " ++ toString bits ++ "-bit integer")) := by
  rw [readInteger, Integer.read_of_toList_eq hw]
  simp only [Integer.fits_iff hbits]
  split_ifs <;> rfl

/-- A number of the width is read from its decimal text, unless it has too many digits. -/
theorem readInteger_toString (purpose : Purpose) (name : String) {bits n : Int}
    (hfits : Integer.Fits bits n)
    (hlength : (Nat.toDigits 10 n.natAbs).length ≤ Integer.maxDigits) :
    readInteger purpose name (toString n) bits = .ok n := by
  rw [← Integer.paddedText_false_zero]
  exact readInteger_of_isInteger
    (Integer.isInteger_paddedText hfits false ((Nat.zero_add _).trans_le hlength))

/-- **The texts that are read at a width are the writings of its integers.** A text that is no
writing of an integer is refused as such. A writing with too many digits is refused on its length
alone, and any other is read if its value lies in the range of the width and else refused for the
width. So every integer of the width is read from its decimal text, if it has one, and from that
with a plus or zeros in front. -/
theorem readInteger_language (purpose : Purpose) (name : String) {bits : Nat} (hbits : 1 ≤ bits) :
    (∀ text : String, (∀ w : WrittenInteger, text.toList ≠ w.text) →
        readInteger purpose name text bits =
          .error (.unreadable purpose name text "a decimal integer")) ∧
      (∀ (text : String) (w : WrittenInteger), text.toList = w.text →
        readInteger purpose name text bits =
          if Integer.maxDigits < w.digits.length then .error (.tooManyDigits w.digits.length)
          else if -2 ^ (bits - 1) ≤ w.value ∧ w.value ≤ 2 ^ (bits - 1) - 1 then .ok w.value
          else .error (.unreadable purpose name text ("a " ++ toString bits ++ "-bit integer"))) ∧
      ∀ n : Int, -2 ^ (bits - 1) ≤ n → n ≤ 2 ^ (bits - 1) - 1 →
        (∀ text, Integer.text? n = some text → readInteger purpose name text bits = .ok n) ∧
          ∀ (plus : Bool) (zeros : Nat),
            zeros + (Nat.toDigits 10 n.natAbs).length ≤ Integer.maxDigits →
              readInteger purpose name (Integer.paddedText plus zeros n) bits = .ok n := by
  refine ⟨fun text h ↦ ?_, fun text w hw ↦ readInteger_of_toList_eq hw purpose name hbits,
    fun n hlo hhi ↦ ?_⟩
  · rw [readInteger, Integer.read_of_forall_ne h]
    rfl
  · have hfits : Integer.Fits bits n := (Integer.fits_iff hbits).2 ⟨hlo, hhi⟩
    refine ⟨fun text htext ↦ ?_, fun plus zeros hlength ↦ ?_⟩
    · obtain ⟨hlength, rfl⟩ := Integer.text?_eq_some_iff.1 htext
      exact readInteger_toString purpose name hfits hlength
    · exact readInteger_of_isInteger (Integer.isInteger_paddedText hfits plus hlength)

/-- At 32 bits the least number is read, and with a plus and zeros the largest, but not the next. -/
theorem readInteger_language_bounds :
    readInteger .general "cn" "-2147483648" 32 = .ok (-2147483648) ∧
      readInteger .general "cn" "+002147483647" 32 = .ok 2147483647 ∧
      readInteger .general "cn" "2147483648" 32 =
        .error (.unreadable .general "cn" "2147483648" "a 32-bit integer") := by
  obtain ⟨-, hwritten, hvalues⟩ := readInteger_language .general "cn" (by decide : 1 ≤ 32)
  refine ⟨?_, ?_, ?_⟩
  · exact (hvalues (-2147483648) (by decide) (by decide)).1 _ (by decide)
  · have htext : Integer.paddedText true 2 2147483647 = "+002147483647" := by decide
    rw [← htext]
    exact (hvalues 2147483647 (by decide) (by decide)).2 true 2 (by decide)
  · exact hwritten "2147483648" ⟨none, [2, 1, 4, 7, 4, 8, 3, 6, 4, 8], by decide⟩ (by decide)

end DirectoryAccount
