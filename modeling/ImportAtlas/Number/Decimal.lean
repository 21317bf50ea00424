/-! # Decimal notation

The pieces of numbers written in base ten: rows of digits, fractions and exponents.
-/

namespace ImportAtlas.Decimal

def digitLimit : Nat := 4300

def unwritableMessage : String :=
  "Exceeds the limit (4300 digits) for integer string conversion; "
    ++ "use sys.set_int_max_str_digits() to increase the limit"

def overlongMessage (digits : Nat) : String :=
  "Exceeds the limit (4300 digits) for integer string conversion: value has " ++ toString digits
    ++ " digits; use sys.set_int_max_str_digits() to increase the limit"

def value (digits : List Char) : Nat :=
  digits.foldl (fun total digit => 10 * total + (digit.toNat - 48)) 0

def spanDigits (chars : List Char) : List Char × List Char :=
  (chars.takeWhile Char.isDigit, chars.dropWhile Char.isDigit)

/-- The fraction in front: its digits and the rest. A point without digits is none. -/
def spanFraction : List Char → List Char × List Char
  | '.' :: tail =>
      match spanDigits tail with
      | ([], _) => ([], '.' :: tail)
      | (digits, rest) => (digits, rest)
  | chars => ([], chars)

def spanExponent (chars : List Char) : Option Int × List Char :=
  match chars with
  | [] => (none, chars)
  | mark :: tail =>
      if mark = 'e' ∨ mark = 'E' then
        let (negative, digits) :=
          match tail with
          | '-' :: digits => (true, digits)
          | '+' :: digits => (false, digits)
          | digits => (false, digits)
        match spanDigits digits with
        | ([], _) => (none, chars)
        | (digits, rest) =>
            let exponent : Int := value digits
            (some (if negative then -exponent else exponent), rest)
      else (none, chars)

end ImportAtlas.Decimal
