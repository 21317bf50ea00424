import ImportAtlas.Number.Binary64

/-! # Decimal text of double-precision numbers

A number is written with the fewest digits that read back as the same number, and
of those with the digits nearest to it. When seventeen digits should not do, its
exact decimal expansion is written, so what is written always reads back.

The text is positional when the decimal point falls near the digits, and has an
exponent otherwise.
-/

namespace ImportAtlas.Binary64

/-- Digits of a positive number and the place of its decimal point: the number is
`0.digits` times ten to the power `point`. -/
structure DecimalForm where
  digits : Nat
  point : Int
deriving DecidableEq, Repr

def DecimalForm.toBinary64 (form : DecimalForm) (negative : Bool) : Binary64 :=
  ofDecimal negative form.digits (form.point - digitCount form.digits)

def decimalPoint (numerator denominator : Nat) : Int :=
  if numerator ≥ denominator then digitCount (numerator / denominator)
  else 1 - (digitCount ((denominator - 1) / numerator) : Int)

def scaleTen (numerator denominator : Nat) (power : Int) : Nat × Nat :=
  match power with
  | .ofNat power => (numerator * Nat.pow 10 power, denominator)
  | .negSucc power => (numerator, denominator * Nat.pow 10 (power + 1))

def neighbours (numerator denominator digitCount : Nat) (point : Int) : List DecimalForm :=
  let (numerator, denominator) := scaleTen numerator denominator (digitCount - point)
  let below := numerator / denominator
  let nearest := roundHalfEven numerator denominator
  let other := if nearest = below then below + 1 else below
  [nearest, other].map fun digits =>
    ⟨digits, point + (Binary64.digitCount digits : Int) - digitCount⟩

def exactForm (significand : Nat) (exponent : Int) : DecimalForm :=
  match exponent with
  | .ofNat power =>
      let digits := significand * Nat.pow 2 power
      ⟨digits, digitCount digits⟩
  | .negSucc power =>
      let digits := significand * Nat.pow 5 (power + 1)
      ⟨digits, (digitCount digits : Int) - (power + 1)⟩

def shortest (significand : Nat) (exponent : Int) : DecimalForm :=
  let (numerator, denominator) := ratio significand exponent
  let point := decimalPoint numerator denominator
  let candidates :=
    (List.range 17).flatMap fun count => neighbours numerator denominator (count + 1) point
  match candidates.find? fun form => form.toBinary64 false = .finite false significand exponent with
  | some form => form
  | none => exactForm significand exponent

def digitChars (value : Nat) : List Char :=
  (Nat.toDigits 10 value)

def exponentChars (exponent : Int) : List Char :=
  let digits := digitChars exponent.natAbs
  (if exponent < 0 then '-' else '+') :: (if digits.length < 2 then '0' :: digits else digits)

def stripTrailingZeros (digits : List Char) : List Char :=
  (digits.reverse.dropWhile (· = '0')).reverse

def DecimalForm.chars (form : DecimalForm) : List Char :=
  let digits := stripTrailingZeros (digitChars form.digits)
  if form.point > 16 ∨ form.point < -3 then
    let fraction := digits.drop 1
    digits.take 1 ++ (if fraction.isEmpty then [] else '.' :: fraction)
      ++ 'e' :: exponentChars (form.point - 1)
  else
    match form.point with
    | .ofNat point =>
        if point = 0 then '0' :: '.' :: digits
        else
          let whole := digits.take point ++ List.replicate (point - digits.length) '0'
          let fraction := digits.drop point
          whole ++ '.' :: (if fraction.isEmpty then ['0'] else fraction)
    | .negSucc zeros => '0' :: '.' :: List.replicate (zeros + 1) '0' ++ digits

def text : Binary64 → String
  | .notANumber => "nan"
  | .infinite negative => if negative then "-inf" else "inf"
  | .finite negative significand exponent =>
      let sign := if negative then "-" else ""
      if significand = 0 then sign ++ "0.0"
      else sign ++ String.ofList (shortest significand exponent).chars

end ImportAtlas.Binary64
