import ImportAtlas.Number.Decimal
import ImportAtlas.Number.Shortest
import Mathlib.Algebra.Group.Nat.Defs
import Mathlib.Data.List.TakeWhile

/-! # Rows of digits

The value of a row of digits, and how a row is told from what follows it. Main statements: the
digits that are written for a number have its value, a zero in front only for zero itself, and the
zeros at their end count as powers of ten.
-/

namespace ImportAtlas.Decimal

variable {digits front tail rest : List Char} {number : Nat}

/-! ## Values -/

theorem value_toDigits (number : Nat) : value (Nat.toDigits 10 number) = number :=
  Nat.ofDigitChars_ten_toDigits

theorem value_append (front tail : List Char) :
    value (front ++ tail) = value front * 10 ^ tail.length + value tail := by
  have joined := Nat.ofDigitChars_append (b := 10) (l := front) (m := tail) 0
  rw [Nat.ofDigitChars_eq_ofDigitChars_zero (l := tail), Nat.mul_comm] at joined
  exact joined

theorem value_replicate_zero (zeros : Nat) : value (List.replicate zeros '0') = 0 :=
  Nat.ofDigitChars_replicate_zero

theorem value_append_zeros (digits : List Char) (zeros : Nat) :
    value (digits ++ List.replicate zeros '0') = value digits * 10 ^ zeros := by
  rw [value_append, value_replicate_zero, List.length_replicate, Nat.add_zero]

theorem value_zeros_append (zeros : Nat) (digits : List Char) :
    value (List.replicate zeros '0' ++ digits) = value digits := by
  rw [value_append, value_replicate_zero, Nat.zero_mul, Nat.zero_add]

/-! ## Rows -/

def AreDigits (chars : List Char) : Prop :=
  ∀ char ∈ chars, char.isDigit = true

theorem AreDigits.append (areFront : AreDigits front) (areTail : AreDigits tail) :
    AreDigits (front ++ tail) := by
  intro char member
  exact (List.mem_append.mp member).elim (areFront char) (areTail char)

theorem AreDigits.of_append (areDigits : AreDigits (front ++ tail)) :
    AreDigits front ∧ AreDigits tail :=
  ⟨fun char member => areDigits char (List.mem_append_left tail member),
    fun char member => areDigits char (List.mem_append_right front member)⟩

theorem areDigits_replicate_zero (zeros : Nat) : AreDigits (List.replicate zeros '0') := by
  intro char member
  rw [List.eq_of_mem_replicate member]
  rfl

theorem areDigits_toDigits (number : Nat) : AreDigits (Nat.toDigits 10 number) :=
  fun _ => Nat.isDigit_of_mem_toDigits (by decide) (by decide)

theorem spanDigits_append (areDigits : AreDigits digits)
    (ends : ∀ char ∈ rest.head?, char.isDigit = false) :
    spanDigits (digits ++ rest) = (digits, rest) := by
  have noMore : rest.takeWhile Char.isDigit = [] ∧ rest.dropWhile Char.isDigit = rest := by
    cases rest with
    | nil => exact ⟨rfl, rfl⟩
    | cons char others => simp [ends char rfl]
  rw [spanDigits, List.takeWhile_append_of_pos areDigits, List.dropWhile_append_of_pos areDigits,
    noMore.1, noMore.2, List.append_nil]

private theorem spanDigits_self (areDigits : AreDigits digits) :
    spanDigits digits = (digits, []) := by
  have spanned := @spanDigits_append _ [] areDigits (by simp)
  rwa [List.append_nil] at spanned

theorem spanFraction_append (areDigits : AreDigits digits) (nonempty : digits ≠ [])
    (ends : ∀ char ∈ rest.head?, char.isDigit = false) :
    spanFraction ('.' :: (digits ++ rest)) = (digits, rest) := by
  rw [spanFraction, spanDigits_append areDigits ends]
  split
  · rename_i isEmpty
    exact absurd (congrArg Prod.fst isEmpty) nonempty
  · rename_i equal
    exact equal.symm

/-! ## Whole numbers -/

/-- Whether characters are a whole number without needless zeros in front. -/
def IsWhole (chars : List Char) : Prop :=
  AreDigits chars ∧ (chars = ['0'] ∨ ∃ first ∈ chars.head?, first ≠ '0')

private theorem digitChar_ne_zero (positive : 0 < number) (small : number < 10) :
    Nat.digitChar number ≠ '0' := by
  have ofDigit : ∀ digit : Fin 10, 0 < digit.val → Nat.digitChar digit.val ≠ '0' := by decide
  exact ofDigit ⟨number, small⟩ positive

theorem exists_head?_toDigits (positive : 0 < number) :
    ∃ first ∈ (Nat.toDigits 10 number).head?, first ≠ '0' := by
  induction number using Nat.strongRecOn with
  | ind number induction =>
      by_cases small : number < 10
      · rw [Nat.toDigits_of_lt_base small]
        exact ⟨_, rfl, digitChar_ne_zero positive small⟩
      · rcases induction (number / 10) (by omega) (by omega) with ⟨first, isFirst, notZero⟩
        rw [Nat.toDigits_of_base_le (by decide) (Nat.le_of_not_lt small)]
        refine ⟨first, ?_, notZero⟩
        rw [List.head?_append, isFirst, Option.some_or]
        rfl

theorem isWhole_toDigits (number : Nat) : IsWhole (Nat.toDigits 10 number) := by
  refine ⟨areDigits_toDigits number, ?_⟩
  rcases Nat.eq_zero_or_pos number with rfl | positive
  · exact Or.inl rfl
  · exact Or.inr (exists_head?_toDigits positive)

end ImportAtlas.Decimal

namespace ImportAtlas.Binary64

open Decimal

variable {number : Nat}

/-! ## Zeros at the end -/

theorem exists_stripTrailingZeros (digits : List Char) :
    ∃ zeros, digits = stripTrailingZeros digits ++ List.replicate zeros '0' := by
  have areZeros : ∀ char ∈ digits.reverse.takeWhile (· = '0'), char = '0' := by
    intro char member
    simpa using List.mem_takeWhile_imp member
  refine ⟨(digits.reverse.takeWhile (· = '0')).length, ?_⟩
  rw [stripTrailingZeros, ← List.reverse_replicate, ← List.eq_replicate_of_mem areZeros,
    ← List.reverse_append, List.takeWhile_append_dropWhile, List.reverse_reverse]

/-- What is left of the digits of a positive number without the zeros at their end. -/
theorem exists_stripTrailingZeros_digitChars (positive : 0 < number) :
    ∃ zeros, number = value (stripTrailingZeros (digitChars number)) * 10 ^ zeros ∧
      digitCount number = (stripTrailingZeros (digitChars number)).length + zeros ∧
      AreDigits (stripTrailingZeros (digitChars number)) ∧
      ∃ first ∈ (stripTrailingZeros (digitChars number)).head?, first ≠ '0' := by
  obtain ⟨zeros, split⟩ := exists_stripTrailingZeros (digitChars number)
  generalize stripTrailingZeros (digitChars number) = digits at split ⊢
  have isValue : number = value digits * 10 ^ zeros := by
    rw [← value_append_zeros, ← split]
    exact (value_toDigits number).symm
  have counted : digitCount number = digits.length + zeros := by
    have length := congrArg List.length split
    rw [List.length_append, List.length_replicate] at length
    rw [digitCount, if_neg positive.ne']
    exact length
  have areDigits : AreDigits (digitChars number) := areDigits_toDigits number
  rw [split] at areDigits
  refine ⟨zeros, isValue, counted, areDigits.of_append.1, ?_⟩
  · rcases exists_head?_toDigits positive with ⟨first, isFirst, notZero⟩
    rw [← digitChars, split] at isFirst
    cases digits with
    | nil =>
        rw [value, List.foldl_nil, Nat.zero_mul] at isValue
        exact absurd isValue positive.ne'
    | cons char rest => exact ⟨first, isFirst, notZero⟩

/-! ## Exponents -/

theorem exists_exponentChars (exponent : Int) :
    ∃ digits, exponentChars exponent = (if exponent < 0 then '-' else '+') :: digits ∧
      digits ≠ [] ∧ AreDigits digits ∧ value digits = exponent.natAbs := by
  by_cases short : (digitChars exponent.natAbs).length < 2
  · refine ⟨'0' :: digitChars exponent.natAbs, by rw [exponentChars, if_pos short],
      List.cons_ne_nil _ _, ?_, ?_⟩
    · exact AreDigits.append (areDigits_replicate_zero 1) (areDigits_toDigits _)
    · exact (value_zeros_append 1 _).trans (value_toDigits _)
  · exact ⟨digitChars exponent.natAbs, by rw [exponentChars, if_neg short], Nat.toDigits_ne_nil,
      areDigits_toDigits _, value_toDigits _⟩

theorem spanExponent_exponentChars (exponent : Int) :
    spanExponent ('e' :: exponentChars exponent) = (some exponent, []) := by
  rcases exists_exponentChars exponent with ⟨digits, isText, nonempty, areDigits, isValue⟩
  rw [isText]
  obtain ⟨first, others, rfl⟩ := List.exists_cons_of_ne_nil nonempty
  by_cases isNegative : exponent < 0
  · have same : -(exponent.natAbs : Int) = exponent := by omega
    simp only [spanExponent, if_pos isNegative, spanDigits_self areDigits, isValue, true_or,
      if_true, same]
  · have same : (exponent.natAbs : Int) = exponent := by omega
    simp only [spanExponent, if_neg isNegative, spanDigits_self areDigits, isValue, true_or,
      if_true, Bool.false_eq_true, if_false, same]

end ImportAtlas.Binary64
