import ImportAtlas.Proofs.Number.Digits
import ImportAtlas.Proofs.Number.Rounding

/-! # Decimals of doubles

A double is written as a decimal that reads back as the same double. Main statement: this is so for
every positive double, also when no decimal of seventeen digits should do.
-/

namespace ImportAtlas.Binary64

variable {digits significand : Nat} {exponent other : Int}

/-! ## Decimals -/

theorem digitCount_le_iff (number bound : Nat) : digitCount number ≤ bound ↔
    number < 10 ^ bound := by
  rcases Nat.eq_zero_or_pos number with rfl | positive
  · simp [digitCount]
  · rw [digitCount, if_neg positive.ne']
    rcases Nat.eq_zero_or_pos bound with rfl | someDigits
    · have written := Nat.length_toDigits_pos (b := 10) (n := number)
      omega
    · exact Nat.length_toDigits_le_iff (by decide) someDigits

private theorem digitCount_mul_pow (positive : 0 < digits) (zeros : Nat) :
    digitCount (digits * 10 ^ zeros) = digitCount digits + zeros := by
  refine Nat.le_antisymm ?_ ?_
  · rw [digitCount_le_iff, Nat.pow_add]
    exact Nat.mul_lt_mul_of_pos_right ((digitCount_le_iff _ _).mp (Nat.le_refl _))
      (Nat.pow_pos (by decide))
  · by_contra less
    have few : digitCount digits ≠ 0 := by
      have none := digitCount_le_iff digits 0
      omega
    obtain ⟨bound, isBound⟩ := Nat.exists_eq_succ_of_ne_zero few
    have small : digits * 10 ^ zeros < 10 ^ (bound + zeros) :=
      (digitCount_le_iff _ _).mp (by omega)
    rw [Nat.pow_add] at small
    have fewer := (digitCount_le_iff digits bound).mpr (Nat.lt_of_mul_lt_mul_right small)
    omega

theorem ofDecimal_eq (negative : Bool) (digits : Nat) (exponent : Int) :
    ofDecimal negative digits exponent =
      if digits = 0 ∨ exponent + digitCount digits < -400 then .finite negative 0 leastExponent
      else if exponent + digitCount digits > 400 then .infinite negative
      else ofRatio negative (digits * 10 ^ exponent.toNat) (10 ^ (-exponent).toNat) := by
  cases exponent <;> simp [ofDecimal, Nat.pow_eq, Int.neg_negSucc]

theorem ofDecimal_mul_pow (negative : Bool) (digits zeros : Nat) (exponent : Int) :
    ofDecimal negative (digits * 10 ^ zeros) exponent =
      ofDecimal negative digits (exponent + zeros) := by
  rcases Nat.eq_zero_or_pos digits with rfl | positive
  · simp [ofDecimal]
  · have power : 0 < 10 ^ zeros := Nat.pow_pos (by decide)
    have counted : exponent + (digitCount (digits * 10 ^ zeros) : Int) =
        exponent + zeros + digitCount digits := by
      rw [digitCount_mul_pow positive]
      omega
    have same : digits * 10 ^ zeros * 10 ^ exponent.toNat * 10 ^ (-(exponent + zeros)).toNat =
        digits * 10 ^ (exponent + zeros).toNat * 10 ^ (-exponent).toNat := by
      simp only [Nat.mul_assoc, ← Nat.pow_add]
      congr 2
      omega
    simp only [ofDecimal_eq, counted, Nat.mul_eq_zero, power.ne', or_false,
      ofRatio_congr negative (Nat.pow_pos (by decide)) (Nat.pow_pos (by decide)) same]

/-! ## Signs -/

private theorem ofRatio_true (numerator denominator : Nat) :
    ofRatio true numerator denominator = (ofRatio false numerator denominator).negate := by
  simp only [ofRatio]
  repeat' split
  all_goals rfl

private theorem ofDecimal_true (digits : Nat) (exponent : Int) :
    ofDecimal true digits exponent = (ofDecimal false digits exponent).negate := by
  simp only [ofDecimal_eq, ofRatio_true]
  repeat' split
  all_goals rfl

private theorem ofDecimal_eq_finite
    (read : ofDecimal false digits exponent = .finite false significand other) (negative : Bool) :
    ofDecimal negative digits exponent = .finite negative significand other := by
  cases negative with
  | false => exact read
  | true => rw [ofDecimal_true, read]; rfl

/-! ## Exact decimals -/

theorem exactForm_eq (significand : Nat) (exponent : Int) :
    (exactForm significand exponent).digits =
        significand * 2 ^ exponent.toNat * 5 ^ (-exponent).toNat ∧
      (exactForm significand exponent).point =
        digitCount (exactForm significand exponent).digits - (-exponent).toNat := by
  cases exponent <;> simp [exactForm, Nat.pow_eq, Int.neg_negSucc]

/-- The powers of five that doubles need have not many digits less than their powers of ten. -/
private theorem pow_ten_le_pow_five {power : Nat} (bounded : power ≤ 1074) :
    10 ^ (power - 400) ≤ 5 ^ power := by
  have parts : 3 * (power / 3) ≤ power := by omega
  calc 10 ^ (power - 400)
      ≤ 10 ^ (2 * (power / 3)) := Nat.pow_le_pow_right (by decide) (by omega)
    _ = (10 ^ 2) ^ (power / 3) := Nat.pow_mul ..
    _ ≤ (5 ^ 3) ^ (power / 3) := Nat.pow_le_pow_left (by decide) _
    _ = 5 ^ (3 * (power / 3)) := (Nat.pow_mul ..).symm
    _ ≤ 5 ^ power := Nat.pow_le_pow_right (by decide) parts

private theorem digitCount_exactForm (isDouble : IsDouble significand exponent)
    (positive : 0 < significand) :
    (-exponent).toNat ≤ digitCount (exactForm significand exponent).digits + 400 ∧
      digitCount (exactForm significand exponent).digits ≤ (-exponent).toNat + 400 := by
  rcases isDouble with ⟨fewBits, notBelow, notAbove, _⟩
  unfold leastExponent at notBelow
  unfold greatestExponent at notAbove
  rw [(exactForm_eq significand exponent).1]
  generalize isPower : (-exponent).toNat = power
  constructor
  · by_contra less
    have few := (digitCount_le_iff (significand * 2 ^ exponent.toNat * 5 ^ power)
      (power - 401)).mp (by omega)
    have many : 10 ^ (power - 401) ≤ significand * 2 ^ exponent.toNat * 5 ^ power :=
      calc 10 ^ (power - 401)
          ≤ 10 ^ (power - 400) := Nat.pow_le_pow_right (by decide) (by omega)
        _ ≤ 5 ^ power := pow_ten_le_pow_five (by omega)
        _ ≤ significand * 2 ^ exponent.toNat * 5 ^ power :=
            Nat.le_mul_of_pos_left _ (Nat.mul_pos positive (Nat.two_pow_pos _))
    omega
  · rw [digitCount_le_iff]
    calc significand * 2 ^ exponent.toNat * 5 ^ power
        < 2 ^ 53 * 2 ^ exponent.toNat * 5 ^ power := by gcongr
      _ ≤ 2 ^ 53 * 2 ^ 971 * 5 ^ power := by
          gcongr
          · decide
          · omega
      _ ≤ 10 ^ 400 * 10 ^ power :=
          Nat.mul_le_mul (by decide +kernel) (Nat.pow_le_pow_left (by decide) power)
      _ = 10 ^ (power + 400) := by rw [← Nat.pow_add, Nat.add_comm]

private theorem exactForm_toBinary64 (isDouble : IsDouble significand exponent)
    (positive : 0 < significand) :
    (exactForm significand exponent).toBinary64 false = .finite false significand exponent := by
  rcases digitCount_exactForm isDouble positive with ⟨notSmall, notLarge⟩
  rcases exactForm_eq significand exponent with ⟨isDigits, isPoint⟩
  have notZero : (exactForm significand exponent).digits ≠ 0 := by
    rw [isDigits]
    positivity
  have isExponent : (exactForm significand exponent).point -
      (digitCount (exactForm significand exponent).digits : Int) = -((-exponent).toNat : Int) := by
    omega
  have inRange : ¬((exactForm significand exponent).digits = 0 ∨
      -((-exponent).toNat : Int) + digitCount (exactForm significand exponent).digits < -400) := by
    omega
  have noPower : (-((-exponent).toNat : Int)).toNat = 0 := by omega
  have power : (-(-((-exponent).toNat : Int))).toNat = (-exponent).toNat := by omega
  rw [DecimalForm.toBinary64, isExponent, ofDecimal_eq, if_neg inRange, if_neg (by omega), noPower,
    power, isDigits, ← ofRatio_ratio isDouble positive, ratio_eq]
  refine ofRatio_congr false (Nat.pow_pos (by decide)) (Nat.two_pow_pos _) ?_
  calc significand * 2 ^ exponent.toNat * 5 ^ (-exponent).toNat * 10 ^ 0 * 2 ^ (-exponent).toNat
      = significand * 2 ^ exponent.toNat *
        (2 ^ (-exponent).toNat * 5 ^ (-exponent).toNat) := by ring
    _ = significand * 2 ^ exponent.toNat * 10 ^ (-exponent).toNat := by rw [← Nat.mul_pow]

/-! ## Shortest decimals -/

theorem shortest_toBinary64 (isDouble : IsDouble significand exponent) (positive : 0 < significand)
    (negative : Bool) :
    (shortest significand exponent).toBinary64 negative =
      .finite negative significand exponent := by
  refine ofDecimal_eq_finite ?_ negative
  change (shortest significand exponent).toBinary64 false = _
  simp only [shortest]
  split
  · rename_i form found
    have readsBack := List.find?_some found
    exact of_decide_eq_true readsBack
  · exact exactForm_toBinary64 isDouble positive

theorem shortest_digits_pos (isDouble : IsDouble significand exponent)
    (positive : 0 < significand) :
    0 < (shortest significand exponent).digits := by
  by_contra isZero
  have read := shortest_toBinary64 isDouble positive false
  rw [DecimalForm.toBinary64, Nat.eq_zero_of_not_pos isZero, ofDecimal_eq,
    if_pos (Or.inl rfl)] at read
  injection read with _ noDigits
  exact positive.ne noDigits

end ImportAtlas.Binary64
