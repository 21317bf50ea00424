import ImportAtlas.Json.Printer
import ImportAtlas.Json.Token
import ImportAtlas.Proofs.Number.Shortest

/-! # Words and numbers in JSON

What is written for a value without parts and without quotes is one word of the lexer. Main
statements: an integer that is not too long and every double are read back from their words.
-/

namespace ImportAtlas.Json

open Decimal Binary64

variable {negative : Bool} {whole fraction rest : List Char}

/-! ## Characters of words -/

def IsWord (chars : List Char) : Prop :=
  ∀ char ∈ chars, isWordChar char = true

instance (chars : List Char) : Decidable (IsWord chars) :=
  List.decidableBAll (isWordChar · = true) chars

theorem IsWord.append {front tail : List Char} (isFront : IsWord front) (isTail : IsWord tail) :
    IsWord (front ++ tail) := by
  intro char member
  exact (List.mem_append.mp member).elim (isFront char) (isTail char)

theorem IsWord.cons {char : Char} {tail : List Char} (isFirst : isWordChar char = true)
    (isTail : IsWord tail) : IsWord (char :: tail) := by
  intro other member
  rcases List.mem_cons.mp member with rfl | inTail
  · exact isFirst
  · exact isTail other inTail

private theorem IsWord.of_subset {chars part : List Char} (isWord : IsWord chars)
    (inside : part ⊆ chars) :
    IsWord part :=
  fun char member => isWord char (inside member)

theorem isWord_of_areDigits {chars : List Char} (areDigits : AreDigits chars) : IsWord chars := by
  intro char member
  simp [isWordChar, Char.isAlphanum, areDigits char member]

/-! ## Numbers -/

def signChars (negative : Bool) : List Char :=
  if negative then ['-'] else []

theorem isWord_signChars (negative : Bool) : IsWord (signChars negative) := by
  cases negative <;> simp [signChars, IsWord, isWordChar]

private theorem numberTokens_whole (few : whole.length ≤ digitLimit) :
    numberTokens negative whole [] =
      [.scalar (.int (if negative then -(value whole : Int) else value whole))] := by
  simp [numberTokens, spanFraction, spanExponent, Nat.not_lt.mpr few]

private theorem numberTokens_fraction (areDigits : AreDigits fraction) (nonempty : fraction ≠ []) :
    numberTokens negative whole ('.' :: fraction) =
      [.scalar (.float (ofDecimal negative (value (whole ++ fraction)) (-fraction.length)))] := by
  have spanned := @spanFraction_append _ [] areDigits nonempty (by simp)
  rw [List.append_nil] at spanned
  simp [numberTokens, spanned, spanExponent, nonempty]

private theorem numberTokens_exponent (areDigits : AreDigits fraction) (exponent : Int) :
    numberTokens negative whole
        ((if fraction.isEmpty then [] else '.' :: fraction) ++ 'e' :: exponentChars exponent) =
      [.scalar (.float (ofDecimal negative (value (whole ++ fraction))
        (exponent - fraction.length)))] := by
  have spanned : spanFraction
      ((if fraction.isEmpty then [] else '.' :: fraction) ++ 'e' :: exponentChars exponent) =
        (fraction, 'e' :: exponentChars exponent) := by
    cases fraction with
    | nil => rfl
    | cons first others => exact spanFraction_append areDigits (by simp) (by simp)
  simp only [numberTokens, spanned, spanExponent_exponentChars]
  simp

private theorem isDigit_of_isWhole (isWhole : IsWhole whole) :
    ∃ first others, whole = first :: others ∧ first.isDigit = true := by
  rcases isWhole with ⟨areDigits, rfl | ⟨first, isFirst, _⟩⟩
  · exact ⟨'0', [], rfl, rfl⟩
  · rcases List.head?_eq_some_iff.mp isFirst with ⟨others, rfl⟩
    exact ⟨first, others, rfl, areDigits first List.mem_cons_self⟩

/-- Whether characters are one of the words with a meaning of their own. -/
def IsKeyword (chars : List Char) : Prop :=
  chars ∈ ["null".toList, "true".toList, "false".toList, "NaN".toList, "Infinity".toList,
    "-Infinity".toList]

/-- No word with a meaning of its own begins with a digit, nor with a digit after a sign. -/
private theorem not_isKeyword {first : Char} (isDigit : first.isDigit = true) (negative : Bool)
    (others : List Char) :
    ¬IsKeyword (signChars negative ++ first :: others) := by
  have different : ∀ char : Char, char.isDigit = false → first ≠ char := by
    rintro char isOther rfl
    exact absurd isDigit (by simp [isOther])
  cases negative
  · simp [IsKeyword, signChars, different 'n' rfl, different 't' rfl, different 'f' rfl,
      different 'N' rfl, different 'I' rfl, different '-' rfl]
  · simp [IsKeyword, signChars, different 'I' rfl]

theorem wordTokens_number (isWhole : IsWhole whole)
    (ends : ∀ char ∈ rest.head?, char.isDigit = false) :
    wordTokens (signChars negative ++ (whole ++ rest)) = numberTokens negative whole rest := by
  rcases isDigit_of_isWhole isWhole with ⟨first, others, rfl, isDigit⟩
  have spanned := spanDigits_append isWhole.1 ends
  have noKeyword := not_isKeyword isDigit negative (others ++ rest)
  rw [List.cons_append] at spanned ⊢
  simp only [IsKeyword, List.mem_cons, List.not_mem_nil, or_false, not_or] at noKeyword
  rcases noKeyword with ⟨notNull, notTrue, notFalse, notNaN, notInfinity, notNegative⟩
  unfold wordTokens
  rw [if_neg notNull, if_neg notTrue, if_neg notFalse, if_neg notNaN,
    if_neg notInfinity, if_neg notNegative]
  split
  rename_i sign unsigned signed
  obtain ⟨rfl, rfl⟩ : negative = sign ∧ first :: (others ++ rest) = unsigned := by
    cases negative with
    | true => exact Prod.mk.inj signed
    | false =>
        split at signed
        · rename_i isSign
          obtain ⟨rfl, _⟩ := List.cons.inj isSign
          cases isDigit
        · exact Prod.mk.inj signed
  split
  · rename_i tail startsWithZero
    obtain ⟨rfl, rfl⟩ := List.cons.inj startsWithZero
    rcases isWhole.2 with onlyZero | ⟨_, isFirst, notZero⟩
    · obtain rfl := (List.cons.inj onlyZero).2
      rfl
    · cases isFirst
      exact absurd rfl notZero
  · rw [spanned]

/-! ## Integers -/

theorem toString_int_eq (number : Int) :
    (toString number).toList =
      signChars (decide (number < 0)) ++ Nat.toDigits 10 number.natAbs := by
  rw [show toString number = number.repr from rfl, Int.repr_eq_if]
  by_cases negative : number < 0
  · have magnitude : (-number).toNat = number.natAbs := by omega
    rw [if_neg (Int.not_le.mpr negative), magnitude, Nat.repr_eq_ofList_toDigits]
    simp [signChars, negative]
  · have magnitude : number.toNat = number.natAbs := by omega
    rw [if_pos (Int.not_lt.mp negative), magnitude, Nat.repr_eq_ofList_toDigits]
    simp [signChars, negative]

theorem wordTokens_int {number : Int} (few : (Nat.toDigits 10 number.natAbs).length ≤ digitLimit) :
    wordTokens (toString number).toList = [.scalar (.int number)] := by
  have read := @wordTokens_number (decide (number < 0)) _ [] (isWhole_toDigits number.natAbs)
    (by simp)
  rw [List.append_nil] at read
  rw [toString_int_eq, read, numberTokens_whole few, value_toDigits]
  congr 3
  simp only [decide_eq_true_eq]
  split <;> omega

theorem isWord_toString_int (number : Int) : IsWord (toString number).toList := by
  rw [toString_int_eq]
  exact (isWord_signChars _).append (isWord_of_areDigits (areDigits_toDigits _))

/-! ## Doubles -/

/-- A positive decimal is that of its digits without the zeros at their end. -/
private theorem toBinary64_eq {form : DecimalForm} {digits : List Char} {zeros : Nat}
    (isValue : form.digits = value digits * 10 ^ zeros)
    (counted : digitCount form.digits = digits.length + zeros) (negative : Bool) :
    form.toBinary64 negative = ofDecimal negative (value digits) (form.point - digits.length) := by
  rw [DecimalForm.toBinary64, counted, isValue, ofDecimal_mul_pow]
  congr 1
  omega

theorem wordTokens_fraction (isWhole : IsWhole whole) (areDigits : AreDigits fraction)
    (nonempty : fraction ≠ []) (negative : Bool) :
    wordTokens (signChars negative ++ (whole ++ '.' :: fraction)) =
      [.scalar (.float (ofDecimal negative (value (whole ++ fraction)) (-fraction.length)))] := by
  rw [wordTokens_number isWhole (by simp), numberTokens_fraction areDigits nonempty]

private theorem wordTokens_exponent (isWhole : IsWhole whole) (areDigits : AreDigits fraction)
    (exponent : Int) (negative : Bool) :
    wordTokens (signChars negative ++ (whole ++
        ((if fraction.isEmpty then [] else '.' :: fraction) ++ 'e' :: exponentChars exponent))) =
      [.scalar (.float (ofDecimal negative (value (whole ++ fraction))
        (exponent - fraction.length)))] := by
  rw [wordTokens_number isWhole (by cases fraction <;> simp), numberTokens_exponent areDigits]

theorem isWhole_zero : IsWhole ['0'] :=
  ⟨areDigits_replicate_zero 1, Or.inl rfl⟩

private theorem wordTokens_zeros {digits : List Char} (areDigits : AreDigits digits)
    (nonempty : digits ≠ [])
    (zeros : Nat) (negative : Bool) :
    wordTokens (signChars negative ++ '0' :: '.' :: (List.replicate zeros '0' ++ digits)) =
      [.scalar (.float (ofDecimal negative (value digits) (-zeros - digits.length)))] := by
  have isValue : value (['0'] ++ (List.replicate zeros '0' ++ digits)) = value digits :=
    (value_zeros_append 1 _).trans (value_zeros_append zeros digits)
  refine (wordTokens_fraction isWhole_zero ((areDigits_replicate_zero zeros).append areDigits)
    (by simp [nonempty]) negative).trans ?_
  rw [isValue, List.length_append, List.length_replicate]
  congr 4
  omega

private theorem wordTokens_point {digits : List Char} {point : Nat} (areDigits : AreDigits digits)
    (leading : ∃ first ∈ digits.head?, first ≠ '0') (positive : 0 < point) (negative : Bool) :
    wordTokens (signChars negative ++
        (digits.take point ++ List.replicate (point - digits.length) '0'
          ++ '.' :: (if (digits.drop point).isEmpty then ['0'] else digits.drop point))) =
      [.scalar (.float (ofDecimal negative (value digits) (point - digits.length)))] := by
  rcases leading with ⟨first, isFirst, notZero⟩
  obtain ⟨others, rfl⟩ := List.head?_eq_some_iff.mp isFirst
  obtain ⟨behind, rfl⟩ := Nat.exists_eq_succ_of_ne_zero positive.ne'
  have isWhole {zeros : Nat} :
      IsWhole ((first :: others).take (behind + 1) ++ List.replicate zeros '0') :=
    ⟨AreDigits.append (fun char member => areDigits char (List.mem_of_mem_take member))
      (areDigits_replicate_zero zeros), Or.inr ⟨first, rfl, notZero⟩⟩
  rcases Nat.lt_or_ge (behind + 1) (first :: others).length with inside | notInside
  · have isFraction : (first :: others).drop (behind + 1) ≠ [] := by
      rw [Ne, List.drop_eq_nil_iff]
      exact Nat.not_le.mpr inside
    have areFraction : AreDigits ((first :: others).drop (behind + 1)) :=
      fun char member => areDigits char (List.mem_of_mem_drop member)
    rw [if_neg (by simpa using isFraction)]
    refine (wordTokens_fraction isWhole areFraction isFraction negative).trans ?_
    rw [Nat.sub_eq_zero_of_le inside.le, List.replicate_zero, List.append_nil,
      List.take_append_drop, List.length_drop]
    congr 4
    omega
  · rw [if_pos (by simpa using notInside)]
    refine (wordTokens_fraction isWhole (areDigits_replicate_zero 1) (by simp) negative).trans ?_
    rw [List.take_of_length_le notInside, List.append_assoc, List.replicate_append_replicate,
      value_append_zeros, ofDecimal_mul_pow]
    congr 4
    rw [List.length_replicate]
    omega

private theorem wordTokens_decimal {form : DecimalForm} (positive : 0 < form.digits)
    (negative : Bool) :
    wordTokens (signChars negative ++ form.chars) =
      [.scalar (.float (form.toBinary64 negative))] := by
  obtain ⟨zeros, isValue, counted, areDigits, leading⟩ :=
    exists_stripTrailingZeros_digitChars positive
  rw [DecimalForm.chars, toBinary64_eq isValue counted]
  clear isValue counted
  generalize stripTrailingZeros (digitChars form.digits) = digits at areDigits leading ⊢
  have nonempty : digits ≠ [] := by
    rintro rfl
    simp at leading
  simp only
  split
  · rcases leading with ⟨first, isFirst, notZero⟩
    obtain ⟨others, rfl⟩ := List.head?_eq_some_iff.mp isFirst
    rcases @AreDigits.of_append [first] others areDigits with ⟨isDigit, areOthers⟩
    rw [List.append_assoc]
    refine (wordTokens_exponent ⟨isDigit, Or.inr ⟨first, rfl, notZero⟩⟩ areOthers _ _).trans ?_
    congr 4
    simp
    omega
  · cases isPoint : form.point with
    | negSucc zeros => exact wordTokens_zeros areDigits nonempty (zeros + 1) negative
    | ofNat point =>
        rcases Nat.eq_zero_or_pos point with rfl | behind
        · simpa using wordTokens_zeros areDigits nonempty 0 negative
        · simp only [behind.ne', if_false]
          exact wordTokens_point areDigits leading behind negative

theorem floatText_finite (negative : Bool) (significand : Nat) (exponent : Int) :
    (floatText (.finite negative significand exponent)).toList =
      signChars negative ++
        (if significand = 0 then ['0', '.', '0'] else (shortest significand exponent).chars) := by
  by_cases isZero : significand = 0 <;> cases negative <;>
    simp [floatText, Binary64.text, signChars, isZero]

theorem wordTokens_finite {significand : Nat} {exponent : Int}
    (isDouble : IsDouble significand exponent) (negative : Bool) :
    wordTokens (floatText (.finite negative significand exponent)).toList =
      [.scalar (.float (.finite negative significand exponent))] := by
  rw [floatText_finite]
  rcases Nat.eq_zero_or_pos significand with rfl | positive
  · have isLeast : exponent = leastExponent := isDouble.2.2.2.resolve_right (by decide)
    rw [if_pos rfl, isLeast]
    refine (wordTokens_fraction isWhole_zero (areDigits_replicate_zero 1)
      (by simp) negative).trans ?_
    rfl
  · rw [if_neg positive.ne', wordTokens_decimal (shortest_digits_pos isDouble positive),
      shortest_toBinary64 isDouble positive]

private theorem isWord_exponentChars (exponent : Int) : IsWord (exponentChars exponent) := by
  rcases exists_exponentChars exponent with ⟨digits, isText, _, areDigits, _⟩
  rw [isText]
  refine IsWord.cons ?_ (isWord_of_areDigits areDigits)
  split <;> rfl

private theorem isWord_form_chars (form : DecimalForm) : IsWord form.chars := by
  have areZeros (count : Nat) : IsWord (List.replicate count '0') :=
    isWord_of_areDigits (areDigits_replicate_zero count)
  have areDigits : IsWord (stripTrailingZeros (digitChars form.digits)) := by
    obtain ⟨zeros, split⟩ := exists_stripTrailingZeros (digitChars form.digits)
    have areAll : AreDigits (digitChars form.digits) := areDigits_toDigits form.digits
    rw [split] at areAll
    exact isWord_of_areDigits areAll.of_append.1
  rw [DecimalForm.chars]
  generalize stripTrailingZeros (digitChars form.digits) = digits at areDigits ⊢
  have areFirst (count : Nat) : IsWord (digits.take count) :=
    areDigits.of_subset (List.take_subset count digits)
  have areOthers (count : Nat) : IsWord (digits.drop count) :=
    areDigits.of_subset (List.drop_subset count digits)
  simp only
  split
  · refine ((areFirst 1).append ?_).append (IsWord.cons rfl (isWord_exponentChars _))
    split
    · exact areZeros 0
    · exact IsWord.cons rfl (areOthers 1)
  · split
    · split
      · exact IsWord.cons rfl (IsWord.cons rfl areDigits)
      · refine ((areFirst _).append (areZeros _)).append (IsWord.cons rfl ?_)
        split
        · exact areZeros 1
        · exact areOthers _
    · exact IsWord.cons rfl (IsWord.cons rfl ((areZeros _).append areDigits))

theorem isWord_floatText (number : Binary64) : IsWord (floatText number).toList := by
  cases number with
  | notANumber => decide
  | infinite negative => cases negative <;> decide
  | finite negative significand exponent =>
      rw [floatText_finite]
      refine (isWord_signChars negative).append ?_
      split
      · simp [IsWord, isWordChar]
      · exact isWord_form_chars _

end ImportAtlas.Json
