/-! # Hexadecimal digits

Writing a number with a fixed count of hexadecimal digits, and the value of a
digit that is read.
-/

namespace ImportAtlas.Text

/-- The digit characters of base sixteen in increasing value. -/
def hexAlphabet : List Char :=
  ['0', '1', '2', '3', '4', '5', '6', '7', '8', '9', 'a', 'b', 'c', 'd', 'e', 'f']

def hexDigit (value : Nat) : Char :=
  hexAlphabet.getD (value % 16) '0'

def hexDigits : (width value : Nat) → List Char
  | 0, _ => []
  | width + 1, value => hexDigits width (value / 16) ++ [hexDigit value]

def hexValue? (char : Char) : Option Nat :=
  if '0' ≤ char ∧ char ≤ '9' then some (char.toNat - 48)
  else if 'a' ≤ char ∧ char ≤ 'f' then some (char.toNat - 87)
  else if 'A' ≤ char ∧ char ≤ 'F' then some (char.toNat - 55)
  else none

def hexNumber? (chars : List Char) : Option Nat :=
  chars.foldlM (fun total char => (hexValue? char).map (16 * total + ·)) 0

end ImportAtlas.Text
