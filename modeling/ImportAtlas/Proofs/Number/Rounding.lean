import ImportAtlas.Number.Shortest
import Mathlib.Algebra.Order.Group.Nat
import Mathlib.Tactic.Positivity
import Mathlib.Tactic.Ring

/-! # Rounding quotients

A quotient is rounded on the grid on which it has 53 bits, or on the finest one. Main statements:
the result depends on the value of the quotient alone, and a quotient that is a number already is
not changed.
-/

namespace ImportAtlas.Binary64

variable {numerator denominator factor : Nat} {exponent other : Int}

/-! ## Quotients on a grid -/

theorem floorScaled_eq (numerator denominator : Nat) (exponent : Int) :
    floorScaled numerator denominator exponent =
      numerator * 2 ^ (-exponent).toNat / (denominator * 2 ^ exponent.toNat) := by
  cases exponent <;> simp [floorScaled, Nat.pow_eq, Int.neg_negSucc]

theorem roundScaled_eq (numerator denominator : Nat) (exponent : Int) :
    roundScaled numerator denominator exponent =
      roundHalfEven (numerator * 2 ^ (-exponent).toNat) (denominator * 2 ^ exponent.toNat) := by
  cases exponent <;> simp [roundScaled, Nat.pow_eq, Int.neg_negSucc]

private theorem floorScaled_mul (positive : 0 < factor) (numerator denominator : Nat)
    (exponent : Int) :
    floorScaled (factor * numerator) (factor * denominator) exponent =
      floorScaled numerator denominator exponent := by
  rw [floorScaled_eq, floorScaled_eq, Nat.mul_assoc, Nat.mul_assoc,
    Nat.mul_div_mul_left _ _ positive]

private theorem roundHalfEven_mul (positive : 0 < factor) (numerator denominator : Nat) :
    roundHalfEven (factor * numerator) (factor * denominator) =
      roundHalfEven numerator denominator := by
  have doubled : 2 * (factor * numerator % (factor * denominator)) =
      factor * (2 * (numerator % denominator)) := by
    rw [Nat.mul_mod_mul_left]
    ring
  simp only [roundHalfEven, Nat.mul_div_mul_left _ _ positive, doubled,
    Nat.mul_lt_mul_left positive, Nat.mul_right_inj positive.ne']

private theorem roundScaled_mul (positive : 0 < factor) (numerator denominator : Nat)
    (exponent : Int) :
    roundScaled (factor * numerator) (factor * denominator) exponent =
      roundScaled numerator denominator exponent := by
  rw [roundScaled_eq, roundScaled_eq, Nat.mul_assoc, Nat.mul_assoc, roundHalfEven_mul positive]

private theorem roundHalfEven_of_mul (positive : 0 < denominator) (whole : Nat) :
    roundHalfEven (whole * denominator) denominator = whole := by
  simp [roundHalfEven, positive]

theorem floorScaled_succ (numerator denominator : Nat) (exponent : Int) :
    floorScaled numerator denominator (exponent + 1) =
      floorScaled numerator denominator exponent / 2 := by
  rw [floorScaled_eq, floorScaled_eq, Nat.div_div_eq_div_mul]
  rcases Int.lt_or_le exponent 0 with isNegative | notNegative
  · have finer : (-exponent).toNat = (-(exponent + 1)).toNat + 1 := by omega
    have noShift : exponent.toNat = (exponent + 1).toNat := by omega
    rw [finer, noShift, Nat.pow_succ, ← Nat.mul_assoc, Nat.mul_div_mul_right _ _ Nat.two_pos]
  · have noShift : (-exponent).toNat = (-(exponent + 1)).toNat := by omega
    have coarser : (exponent + 1).toNat = exponent.toNat + 1 := by omega
    rw [noShift, coarser, Nat.pow_succ, Nat.mul_assoc]

theorem floorScaled_le_half (numerator denominator : Nat) (less : exponent < other) :
    floorScaled numerator denominator other ≤ floorScaled numerator denominator exponent / 2 := by
  obtain ⟨steps, rfl⟩ : ∃ steps : Nat, other = exponent + 1 + steps :=
    ⟨(other - (exponent + 1)).toNat, by omega⟩
  clear less
  induction steps with
  | zero => simp [floorScaled_succ]
  | succ steps induction =>
      have next := floorScaled_succ numerator denominator (exponent + 1 + steps)
      have shifted : exponent + 1 + ((steps + 1 : Nat) : Int) = exponent + 1 + steps + 1 := by omega
      rw [shifted, next]
      omega

/-! ## The grid of a quotient -/

def IsNormal (numerator denominator : Nat) (exponent : Int) : Prop :=
  2 ^ 52 ≤ floorScaled numerator denominator exponent ∧
    floorScaled numerator denominator exponent < 2 ^ 53

theorem IsNormal.le (normal : IsNormal numerator denominator exponent)
    (many : 2 ^ 52 ≤ floorScaled numerator denominator other) : other ≤ exponent := by
  by_contra greater
  have half := floorScaled_le_half numerator denominator (Int.lt_of_not_ge greater)
  have few := normal.2
  omega

theorem IsNormal.unique (normal : IsNormal numerator denominator exponent)
    (normalOther : IsNormal numerator denominator other) : exponent = other :=
  Int.le_antisymm (normalOther.le normal.1) (normal.le normalOther.1)

/-- The exponent of the grid on which a positive quotient has 53 bits. -/
def normalExponent (numerator denominator : Nat) : Int :=
  if leastSignificand ≤ floorScaled numerator denominator (exponentBound numerator denominator) then
    exponentBound numerator denominator
  else exponentBound numerator denominator - 1

private theorem floorScaled_exponentBound (positive : 0 < numerator) (nonzero : 0 < denominator) :
    2 ^ 51 ≤ floorScaled numerator denominator (exponentBound numerator denominator) ∧
      floorScaled numerator denominator (exponentBound numerator denominator) < 2 ^ 53 := by
  have top := Nat.log2_self_le positive.ne'
  have topLess := Nat.lt_log2_self (n := numerator)
  have bottom := Nat.log2_self_le nonzero.ne'
  have bottomLess := Nat.lt_log2_self (n := denominator)
  rw [floorScaled_eq]
  generalize isBound : exponentBound numerator denominator = bound
  rw [exponentBound] at isBound
  have scaled : 0 < denominator * 2 ^ bound.toNat := Nat.mul_pos nonzero (Nat.two_pow_pos _)
  rw [Nat.le_div_iff_mul_le scaled, Nat.div_lt_iff_lt_mul scaled]
  constructor
  · calc 2 ^ 51 * (denominator * 2 ^ bound.toNat)
        ≤ 2 ^ 51 * (2 ^ (denominator.log2 + 1) * 2 ^ bound.toNat) := by gcongr
      _ = 2 ^ (51 + (denominator.log2 + 1 + bound.toNat)) := by rw [← Nat.pow_add, ← Nat.pow_add]
      _ = 2 ^ (numerator.log2 + (-bound).toNat) := by congr 1; omega
      _ = 2 ^ numerator.log2 * 2 ^ (-bound).toNat := Nat.pow_add ..
      _ ≤ numerator * 2 ^ (-bound).toNat := by gcongr
  · calc numerator * 2 ^ (-bound).toNat
        < 2 ^ (numerator.log2 + 1) * 2 ^ (-bound).toNat := by gcongr
      _ = 2 ^ (numerator.log2 + 1 + (-bound).toNat) := (Nat.pow_add ..).symm
      _ = 2 ^ (53 + (denominator.log2 + bound.toNat)) := by congr 1; omega
      _ = 2 ^ 53 * (2 ^ denominator.log2 * 2 ^ bound.toNat) := by rw [← Nat.pow_add, ← Nat.pow_add]
      _ ≤ 2 ^ 53 * (denominator * 2 ^ bound.toNat) := by gcongr

theorem isNormal_normalExponent (positive : 0 < numerator) (nonzero : 0 < denominator) :
    IsNormal numerator denominator (normalExponent numerator denominator) := by
  rcases floorScaled_exponentBound positive nonzero with ⟨notFew, notMany⟩
  unfold normalExponent
  split
  · rename_i fits
    exact ⟨fits, notMany⟩
  · rename_i few
    have half := floorScaled_succ numerator denominator (exponentBound numerator denominator - 1)
    rw [Int.sub_add_cancel] at half
    unfold leastSignificand at few
    unfold IsNormal
    omega

/-! ## Numbers from quotients -/

/-- The number with a significand that was rounded on a grid; it may have one bit too many. -/
def ofRounded (negative : Bool) (significand : Nat) (exponent : Int) : Binary64 :=
  let (significand, exponent) :=
    if significand ≥ 2 * leastSignificand then (leastSignificand, exponent + 1)
    else (significand, exponent)
  if exponent > greatestExponent then .infinite negative
  else .finite negative significand exponent

theorem ofRatio_eq (negative : Bool) (positive : 0 < numerator) (nonzero : 0 < denominator) :
    ofRatio negative numerator denominator =
      ofRounded negative
        (roundScaled numerator denominator
          (max leastExponent (normalExponent numerator denominator)))
        (max leastExponent (normalExponent numerator denominator)) := by
  have notZero : ¬(numerator = 0 ∨ denominator = 0) := by omega
  rw [ofRatio, if_neg notZero]
  simp only [decide_eq_true_eq]
  rfl

private theorem ofRatio_mul (negative : Bool) (scaled : 0 < factor) (numerator denominator : Nat) :
    ofRatio negative (factor * numerator) (factor * denominator) =
      ofRatio negative numerator denominator := by
  by_cases isZero : numerator = 0 ∨ denominator = 0
  · have alsoZero : factor * numerator = 0 ∨ factor * denominator = 0 :=
      isZero.imp (by simp [·]) (by simp [·])
    rw [ofRatio, ofRatio, if_pos isZero, if_pos alsoZero]
  · rw [not_or] at isZero
    have positive : 0 < numerator := Nat.pos_of_ne_zero isZero.1
    have nonzero : 0 < denominator := Nat.pos_of_ne_zero isZero.2
    have normal := isNormal_normalExponent (Nat.mul_pos scaled positive)
      (Nat.mul_pos scaled nonzero)
    rw [IsNormal, floorScaled_mul scaled] at normal
    have same := IsNormal.unique normal (isNormal_normalExponent positive nonzero)
    rw [ofRatio_eq negative (Nat.mul_pos scaled positive) (Nat.mul_pos scaled nonzero),
      ofRatio_eq negative positive nonzero, same, roundScaled_mul scaled]

theorem ofRatio_congr (negative : Bool) {top bottom : Nat} (nonzero : 0 < denominator)
    (positive : 0 < bottom) (same : numerator * bottom = top * denominator) :
    ofRatio negative numerator denominator = ofRatio negative top bottom := by
  rw [← ofRatio_mul negative positive numerator denominator, Nat.mul_comm bottom numerator, same,
    Nat.mul_comm bottom denominator, Nat.mul_comm top denominator,
    ofRatio_mul negative nonzero]

/-! ## Doubles -/

/-- Whether a finite number is a double: its significand has 53 bits, or less at the least
exponent. -/
def IsDouble (significand : Nat) (exponent : Int) : Prop :=
  significand < 2 ^ 53 ∧ leastExponent ≤ exponent ∧ exponent ≤ greatestExponent ∧
    (exponent = leastExponent ∨ 2 ^ 52 ≤ significand)

instance (significand : Nat) (exponent : Int) : Decidable (IsDouble significand exponent) :=
  inferInstanceAs (Decidable (_ ∧ _))

theorem ratio_eq (significand : Nat) (exponent : Int) :
    ratio significand exponent =
      (significand * 2 ^ exponent.toNat, 2 ^ (-exponent).toNat) := by
  cases exponent <;> simp [ratio, Nat.pow_eq, Int.neg_negSucc]

theorem ofRatio_ratio {significand : Nat} (isDouble : IsDouble significand exponent)
    (positive : 0 < significand) (negative : Bool) :
    ofRatio negative (ratio significand exponent).1 (ratio significand exponent).2 =
      .finite negative significand exponent := by
  rcases isDouble with ⟨fewBits, notBelow, notAbove, normal⟩
  rw [ratio_eq]
  simp only
  have scaled : 0 < 2 ^ (-exponent).toNat * 2 ^ exponent.toNat :=
    Nat.mul_pos (Nat.two_pow_pos _) (Nat.two_pow_pos _)
  have regrouped : significand * 2 ^ exponent.toNat * 2 ^ (-exponent).toNat =
      significand * (2 ^ (-exponent).toNat * 2 ^ exponent.toNat) := by ring
  have floor : floorScaled (significand * 2 ^ exponent.toNat) (2 ^ (-exponent).toNat) exponent =
      significand := by
    rw [floorScaled_eq, regrouped, Nat.mul_div_cancel _ scaled]
  have rounded : roundScaled (significand * 2 ^ exponent.toNat) (2 ^ (-exponent).toNat) exponent =
      significand := by
    rw [roundScaled_eq, regrouped, roundHalfEven_of_mul scaled]
  have hasGrid := isNormal_normalExponent
    (Nat.mul_pos positive (Nat.two_pow_pos exponent.toNat)) (Nat.two_pow_pos (-exponent).toNat)
  have grid : max leastExponent (normalExponent (significand * 2 ^ exponent.toNat)
      (2 ^ (-exponent).toNat)) = exponent := by
    rcases normal with isLeast | manyBits
    · rw [← isLeast]
      refine Int.max_eq_left ?_
      by_contra greater
      have half := floorScaled_le_half (significand * 2 ^ exponent.toNat) (2 ^ (-exponent).toNat)
        (Int.lt_of_not_ge greater)
      have many := hasGrid.1
      omega
    · have isNormal : IsNormal (significand * 2 ^ exponent.toNat) (2 ^ (-exponent).toNat)
          exponent := ⟨floor.symm ▸ manyBits, floor.symm ▸ fewBits⟩
      rw [hasGrid.unique isNormal, Int.max_eq_right notBelow]
  have noCarry : ¬significand ≥ 2 * leastSignificand := by
    unfold leastSignificand
    omega
  rw [ofRatio_eq negative (Nat.mul_pos positive (Nat.two_pow_pos _)) (Nat.two_pow_pos _), grid,
    rounded, ofRounded, if_neg noCarry]
  simp only [gt_iff_lt, Int.not_lt.mpr notAbove, if_false]

end ImportAtlas.Binary64
