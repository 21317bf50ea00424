/-! # Double-precision numbers

Binary floating-point numbers of 64 bits as exact values: a finite number is a
significand times a power of two. Reading a decimal and every operation round an
exact quotient once, to the nearest number and of two equally near ones to the
one with the even significand.
-/

namespace ImportAtlas

/-- A double-precision number. A finite one stands for `significand * 2 ^ exponent`;
it is normal when the significand has 53 bits and subnormal when the exponent is the
least one. -/
inductive Binary64
  | finite (negative : Bool) (significand : Nat) (exponent : Int)
  | infinite (negative : Bool)
  | notANumber
deriving DecidableEq, Repr, Inhabited

namespace Binary64

def leastExponent : Int := -1074

def greatestExponent : Int := 971

def zero : Binary64 := .finite false 0 leastExponent

def roundHalfEven (numerator denominator : Nat) : Nat :=
  let quotient := numerator / denominator
  let doubled := 2 * (numerator % denominator)
  if doubled < denominator then quotient
  else if doubled = denominator then quotient + quotient % 2
  else quotient + 1

def roundScaled (numerator denominator : Nat) (exponent : Int) : Nat :=
  match exponent with
  | .ofNat shift => roundHalfEven numerator (denominator * Nat.pow 2 shift)
  | .negSucc shift => roundHalfEven (numerator * Nat.pow 2 (shift + 1)) denominator

def floorScaled (numerator denominator : Nat) (exponent : Int) : Nat :=
  match exponent with
  | .ofNat shift => numerator / (denominator * Nat.pow 2 shift)
  | .negSucc shift => numerator * Nat.pow 2 (shift + 1) / denominator

/-- The exponent at which a positive quotient has 53 bits, or one too few of them. -/
def exponentBound (numerator denominator : Nat) : Int :=
  (numerator.log2 : Int) - (denominator.log2 : Int) - 52

def leastSignificand : Nat := 0x10000000000000

def ofRatio (negative : Bool) (numerator denominator : Nat) : Binary64 :=
  if numerator = 0 ∨ denominator = 0 then .finite negative 0 leastExponent
  else
    let bound := exponentBound numerator denominator
    let fits := decide (floorScaled numerator denominator bound ≥ leastSignificand)
    let exponent := max leastExponent (if fits then bound else bound - 1)
    let significand := roundScaled numerator denominator exponent
    let (significand, exponent) :=
      if significand ≥ 2 * leastSignificand then (leastSignificand, exponent + 1)
      else (significand, exponent)
    if exponent > greatestExponent then .infinite negative
    else .finite negative significand exponent

def digitCount (value : Nat) : Nat :=
  if value = 0 then 0 else (Nat.toDigits 10 value).length

def ofDecimal (negative : Bool) (digits : Nat) (exponent : Int) : Binary64 :=
  let magnitude := exponent + (digitCount digits : Int)
  if digits = 0 ∨ magnitude < -400 then .finite negative 0 leastExponent
  else if magnitude > 400 then .infinite negative
  else
    match exponent with
    | .ofNat power => ofRatio negative (digits * Nat.pow 10 power) 1
    | .negSucc power => ofRatio negative digits (Nat.pow 10 (power + 1))

def ofInt (value : Int) : Binary64 :=
  ofRatio (decide (value < 0)) value.natAbs 1

def ratio (significand : Nat) (exponent : Int) : Nat × Nat :=
  match exponent with
  | .ofNat power => (significand * Nat.pow 2 power, 1)
  | .negSucc power => (significand, Nat.pow 2 (power + 1))

def ofSigned (numerator : Int) (denominator : Nat) : Binary64 :=
  ofRatio (decide (numerator < 0)) numerator.natAbs denominator

def signedRatio (negative : Bool) (significand : Nat) (exponent : Int) : Int × Nat :=
  let (numerator, denominator) := ratio significand exponent
  (if negative then -(numerator : Int) else numerator, denominator)

def add : Binary64 → Binary64 → Binary64
  | .finite negative significand exponent, .finite negative' significand' exponent' =>
      let (numerator, denominator) := signedRatio negative significand exponent
      let (numerator', denominator') := signedRatio negative' significand' exponent'
      ofSigned (numerator * denominator' + numerator' * denominator) (denominator * denominator')
  | .infinite negative, .finite _ _ _ => .infinite negative
  | .finite _ _ _, .infinite negative => .infinite negative
  | .infinite negative, .infinite negative' =>
      if negative = negative' then .infinite negative else .notANumber
  | _, _ => .notANumber

def times : Binary64 → Binary64 → Binary64
  | .finite negative significand exponent, .finite negative' significand' exponent' =>
      let (numerator, denominator) := ratio significand exponent
      let (numerator', denominator') := ratio significand' exponent'
      ofRatio (negative != negative') (numerator * numerator') (denominator * denominator')
  | .finite negative significand _, .infinite negative'
  | .infinite negative', .finite negative significand _ =>
      if significand = 0 then .notANumber else .infinite (negative != negative')
  | .infinite negative, .infinite negative' => .infinite (negative != negative')
  | _, _ => .notANumber

def negate : Binary64 → Binary64
  | .finite negative significand exponent => .finite (!negative) significand exponent
  | .infinite negative => .infinite (!negative)
  | .notANumber => .notANumber

def truncate? : Binary64 → Option Int
  | .finite negative significand exponent =>
      let (numerator, denominator) := signedRatio negative significand exponent
      some (numerator.tdiv denominator)
  | _ => none

def toInt? : Binary64 → Option Int
  | .finite negative significand exponent =>
      let (numerator, denominator) := signedRatio negative significand exponent
      if numerator % denominator = 0 then some (numerator / denominator) else none
  | _ => none

end Binary64

end ImportAtlas
