import ImportAtlas.Text.Blank
import ImportAtlas.Text.Split

/-! # Coded texts

An escape can name half of a surrogate pair, which is no character. What a document, a
configuration or a log record says is therefore a row of codes, most of them characters; it
is kept as it is, whatever halves are in it.
-/

namespace ImportAtlas.Text

def firstHalf : Nat := 0xD800

/-- A code of a text: a character, or half of a surrogate pair by its position among the
halves. -/
inductive Code
  | char (char : Char)
  | half (position : Fin 0x800)
deriving DecidableEq, Repr, Inhabited

namespace Code

def number : Code → Nat
  | .char value => value.toNat
  | .half position => firstHalf + position

def ofNumber (number : Nat) : Code :=
  if bounds : firstHalf ≤ number ∧ number - firstHalf < 0x800 then
    .half ⟨number - firstHalf, bounds.2⟩
  else .char (Char.ofNat number)

def char? : Code → Option Char
  | .char value => some value
  | .half _ => none

def isBlank : Code → Bool
  | .char value => Text.isBlank value
  | .half _ => false

instance : Coe Char Code := ⟨char⟩

end Code

abbrev Coded := List Code

namespace Coded

def ofText (text : String) : Coded :=
  text.toList.map .char

instance : Coe String Coded := ⟨ofText⟩

def ofChars (chars : List Char) : Coded :=
  chars.map .char

def whole? (text : Coded) : Option String :=
  (text.mapM Code.char?).map String.ofList

def isBlank (text : Coded) : Bool :=
  text.all Code.isBlank

def trim (text : Coded) : Coded :=
  dropEndWhile Code.isBlank (text.dropWhile Code.isBlank)

/-! ## Pairs -/

def pair? : Code → Code → Option Char
  | .half high, .half low =>
      if high.val < 0x400 ∧ 0x400 ≤ low.val then
        some (Char.ofNat (0x10000 + high * 0x400 + (low - 0x400)))
      else none
  | _, _ => none

/-- A text in which halves that stand side by side make one character. Other halves stay. -/
def joinPairs : Coded → Coded
  | [] => []
  | [code] => [code]
  | code :: next :: rest =>
      match pair? code next with
      | some char => .char char :: joinPairs rest
      | none => code :: joinPairs (next :: rest)

/-! ## Stand-ins

What is done with texts is done with a coded text as well: its halves are replaced by private
characters that it does not hold, and put back afterwards. -/

def halfCount : Nat := 0x800

def firstStandIn (text : Coded) : Nat :=
  let isFree (first : Nat) : Bool :=
    !text.any fun code => decide (first ≤ code.number ∧ code.number < first + halfCount)
  (((List.range 64).map fun block => 0xF0000 + halfCount * block).find? isFree).getD 0xF0000

def withStandIns (first : Nat) (text : Coded) : String :=
  String.ofList (text.map fun
    | .char char => char
    | .half position => Char.ofNat (first + position))

def withoutStandIns (first : Nat) (text : Coded) : Coded :=
  text.map fun
    | .char char =>
        if first ≤ char.toNat ∧ char.toNat < first + halfCount then
          .ofNumber (firstHalf + (char.toNat - first))
        else .char char
    | half => half

end Coded

end ImportAtlas.Text
