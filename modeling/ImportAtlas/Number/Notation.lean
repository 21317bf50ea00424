import ImportAtlas.Number.Shortest

/-! # Numbers with a chosen precision

Positional, scientific and mixed notation of finite numbers, rounded to some number of
digits, a half to the even one. The sign is written elsewhere.
-/

namespace ImportAtlas.Binary64

def digitRow (length value : Nat) : List Char :=
  let digits := (toString value).toList
  List.replicate (length - digits.length) '0' ++ digits

def withPoint (places : Nat) (keepsPoint : Bool) (digits : List Char) : List Char :=
  let whole := digits.take (digits.length - places)
  let fraction := digits.drop (digits.length - places)
  whole ++ (if fraction.isEmpty && !keepsPoint then [] else ['.']) ++ fraction

def positional (places : Nat) (keepsPoint : Bool) (numerator denominator : Nat) : List Char :=
  withPoint places keepsPoint
    (digitRow (places + 1) (roundHalfEven (numerator * Nat.pow 10 places) denominator))

def scientificDigits (places numerator denominator : Nat) : Nat × Int :=
  if numerator = 0 then (0, 0)
  else
    let power := decimalPoint numerator denominator - 1
    let (numerator, denominator) := scaleTen numerator denominator (places - power)
    let digits := roundHalfEven numerator denominator
    if digits < Nat.pow 10 (places + 1) then (digits, power) else (Nat.pow 10 places, power + 1)

def exponentText (mark : Char) (power : Int) : List Char :=
  mark :: (if power < 0 then '-' else '+') :: digitRow 2 power.natAbs

def scientific (places : Nat) (keepsPoint : Bool) (numerator denominator : Nat) : List Char :=
  let (digits, power) := scientificDigits places numerator denominator
  withPoint places keepsPoint (digitRow (places + 1) digits) ++ exponentText 'e' power

def dropTrailingZeros (chars : List Char) : List Char :=
  if chars.contains '.' then
    let kept := chars.reverse.dropWhile (· = '0')
    (if kept.head? = some '.' then kept.drop 1 else kept).reverse
  else chars

/-- Positional notation for exponents from -4 up to the precision, and scientific notation
for others, with some significant digits. Zeros at the end are dropped unless the point is
kept. -/
def mixed (precision : Nat) (keepsPoint : Bool) (numerator denominator : Nat) : List Char :=
  let precision := max precision 1
  let (digits, power) := scientificDigits (precision - 1) numerator denominator
  let tidy := if keepsPoint then id else dropTrailingZeros
  if -4 ≤ power ∧ power < precision then
    tidy (positional (precision - 1 - power).toNat keepsPoint numerator denominator)
  else
    tidy (withPoint (precision - 1) keepsPoint (digitRow precision digits))
      ++ exponentText 'e' power

end ImportAtlas.Binary64
