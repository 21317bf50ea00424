import ImportAtlas.Datum
import ImportAtlas.Number.Decimal
import ImportAtlas.Text.Blank
import ImportAtlas.Text.DecimalDigit
import ImportAtlas.Text.LowerCase
import ImportAtlas.Yaml.Fault
import ImportAtlas.Yaml.Tag

/-! # Values of scalars

The datum that the text of a scalar stands for under a tag. A tag can be put on any
text, so every text that is not of the right form has a fault.
-/

namespace ImportAtlas.Yaml

open Text (Coded)

def compact (text : String) : List Char :=
  text.toList.filter (· ≠ '_')

def signed (chars : List Char) : Except ScalarFault (Bool × List Char) :=
  match chars with
  | [] => .error .emptyNumber
  | head :: tail =>
      if head = '-' then .ok (true, tail)
      else if head = '+' then .ok (false, tail)
      else .ok (false, head :: tail)

def isMargin (char : Char) : Bool :=
  Text.isBlank char && !(decide ('\x1C' ≤ char ∧ char ≤ '\x1F'))

def numeral (chars : List Char) : List Char :=
  let afterStart := chars.dropWhile isMargin
  ((afterStart.reverse.dropWhile isMargin).reverse).map Text.asciiDigit

/-! ## Whole numbers -/

def digitsValue? (base : Nat) (digits : List Char) : Option Nat :=
  digits.foldlM
    (fun total digit =>
      (Text.hexValue? digit).bind fun value =>
        if value < base then some (base * total + value) else none)
    0

def dropBaseMark (base : Nat) (chars : List Char) : List Char :=
  let marks := ([(2, ['b', 'B']), (8, ['o', 'O']), (16, ['x', 'X'])].lookup base).getD []
  match chars with
  | '0' :: mark :: rest => if marks.contains mark then rest else chars
  | _ => chars

/-- The whole number that a text stands for in some base. Space around it, a sign, a mark of
the base and the digits of any decimal system are allowed. -/
def wholeNumber (base : Nat) (chars : List Char) : Except ScalarFault Int :=
  let fault := ScalarFault.notInteger base (Coded.ofChars chars)
  match signed (numeral chars) with
  | .error _ => .error fault
  | .ok (isNegative, rest) =>
      let digits := dropBaseMark base rest
      let decimals := digits.takeWhile Char.isDigit
      if base = 10 ∧ Decimal.digitLimit < decimals.length then
        .error (.overlongInteger decimals.length)
      else if digits.isEmpty then .error fault
      else
        match digitsValue? base digits with
        | none => .error fault
        | some value => .ok (if isNegative then -(value : Int) else value)

def fromSixtieths (places : List Int) : Int :=
  places.foldl (fun total place => 60 * total + place) 0

def intValue (text : String) : Except ScalarFault Int := do
  let (isNegative, chars) ← signed (compact text)
  let magnitude ←
    match chars with
    | [] => .error .emptyNumber
    | '0' :: 'b' :: digits => wholeNumber 2 digits
    | '0' :: 'x' :: digits => wholeNumber 16 digits
    | '0' :: _ => wholeNumber 8 chars
    | _ =>
        if chars.contains ':' then
          return fromSixtieths (← (Text.split ':' chars).mapM (wholeNumber 10))
            * (if isNegative then -1 else 1)
        else wholeNumber 10 chars
  return if isNegative then -magnitude else magnitude

/-! ## Numbers with a point -/

def numberWords : List (List Char × Binary64) :=
  [("inf".toList, .infinite false), ("infinity".toList, .infinite false),
   ("nan".toList, .notANumber)]

def pointNumber (chars : List Char) : Except ScalarFault Binary64 :=
  let fault := ScalarFault.notFloat (Coded.ofChars chars)
  match signed (numeral chars) with
  | .error _ => .error fault
  | .ok (isNegative, rest) =>
      match numberWords.lookup rest with
      | some number => .ok (if isNegative then number.negate else number)
      | none =>
          let (whole, rest) := Decimal.spanDigits rest
          let (fraction, rest) :=
            match rest with
            | '.' :: tail => Decimal.spanDigits tail
            | _ => ([], rest)
          let (exponent, rest) := Decimal.spanExponent rest
          if (whole.isEmpty ∧ fraction.isEmpty) ∨ ¬rest.isEmpty then .error fault
          else
            .ok (Binary64.ofDecimal isNegative (Decimal.value (whole ++ fraction))
              (exponent.getD 0 - fraction.length))

def sumSixtieths (places : List Binary64) : Except ScalarFault Binary64 :=
  let weighted := places.reverse.zipIdx.map fun (place, index) =>
    (place, Binary64.ofInt (Nat.pow 60 index))
  weighted.foldlM
    (fun total (place, weight) =>
      match weight with
      | .infinite _ => .error .hugePlace
      | weight => .ok (total.add (place.times weight)))
    Binary64.zero

def floatValue (text : String) : Except ScalarFault Binary64 := do
  let (isNegative, chars) ← signed (Text.lower (compact text))
  let magnitude ←
    if chars = ".inf".toList then .ok (.infinite false)
    else if chars = ".nan".toList then .ok .notANumber
    else if chars.contains ':' then
      sumSixtieths (← (Text.split ':' chars).mapM pointNumber)
    else pointNumber chars
  return if isNegative then magnitude.negate else magnitude

def isNotANumberWord (text : String) : Bool :=
  match signed (Text.lower (compact text)) with
  | .ok (_, chars) => chars == ".nan".toList
  | .error _ => false

/-- The number with a point that a scalar with some number stands for, as a datum. All scalars
with the word for it share the value that is not a number; any other text makes one of its
own. -/
def floatDatum (scalar : Nat) (text : String) : Except ScalarFault Datum :=
  (floatValue text).map fun value =>
    if value = .notANumber ∧ ¬ isNotANumberWord text then .ownNotANumber scalar
    else .float value

/-! ## Truth values, times and bytes -/

def boolValue (text : String) : Except ScalarFault Bool :=
  let word := String.ofList (Text.lower text.toList)
  match truthValues.lookup word with
  | some value => .ok value
  | none => .error (.notBool word)

def microseconds (fraction : List Char) : Nat :=
  Decimal.value ((fraction ++ List.replicate 6 '0').take 6)

def Zone.minutes (zone : Zone) : Except ScalarFault Int :=
  match zone with
  | .universal => .ok 0
  | .offset isNegative hours minutes =>
      let ahead : Int := 60 * hours + minutes
      let ahead := if isNegative then -ahead else ahead
      if ahead.natAbs < 1440 then .ok ahead else .error (.calendar (.offset ahead))

def timeValue (text : String) : Except ScalarFault Datum := do
  let some form := timeForm (withoutFinalFeed text.toList) | throw .notTimestamp
  let calendar {α : Type} (result : Except Time.CalendarFault α) : Except ScalarFault α :=
    result.mapError .calendar
  match form.clock with
  | none => return .date (← calendar (Time.Date.ofNumbers form.year form.month form.day))
  | some clock =>
      let offset ← clock.zone.mapM Zone.minutes
      let date ← calendar (Time.Date.ofNumbers form.year form.month form.day)
      let time ← calendar (Time.Clock.ofNumbers clock.hour clock.minute clock.second
        (microseconds clock.fraction))
      return .moment ⟨date, time, offset⟩

def base64Alphabet : List Char :=
  "ABCDEFGHIJKLMNOPQRSTUVWXYZabcdefghijklmnopqrstuvwxyz0123456789+/".toList

/-- The values of base-64 characters up to the padding that completes a group of four;
other characters are skipped. `pending` counts the values since the last whole group and
`pads` the padding since the last value. The flag tells whether the padding was found. -/
def base64Values (pending pads : Nat) : List Char → List Nat × Bool
  | [] => ([], false)
  | head :: tail =>
      if head = '=' then
        if 2 ≤ pending ∧ 4 ≤ pending + pads + 1 then ([], true)
        else base64Values pending (if 2 ≤ pending then pads + 1 else pads) tail
      else
        match base64Alphabet.idxOf? head with
        | none => base64Values pending pads tail
        | some value =>
            let (values, isPadded) := base64Values ((pending + 1) % 4) 0 tail
            (value :: values, isPadded)

def groupBytes : List Nat → List UInt8
  | a :: b :: c :: d :: rest =>
      UInt8.ofNat (4 * a + b / 16) :: UInt8.ofNat (16 * (b % 16) + c / 4)
        :: UInt8.ofNat (64 * (c % 4) + d) :: groupBytes rest
  | [a, b, c] => [UInt8.ofNat (4 * a + b / 16), UInt8.ofNat (16 * (b % 16) + c / 4)]
  | [a, b] => [UInt8.ofNat (4 * a + b / 16)]
  | _ => []

def bytesValue? (text : String) : Option (List UInt8) :=
  if text.toList.all fun char => char.toNat < 128 then
    let (values, isPadded) := base64Values 0 0 text.toList
    if isPadded ∨ values.length % 4 = 0 then some (groupBytes values) else none
  else none

/-! ## Scalars -/

def textValue (scalar : Nat) (tag : Tag) (text : String) : Except Fault Datum :=
  match tag with
  | .null => .ok .null
  | .text => .ok (.text text)
  | .bool => ((boolValue text).map Datum.bool).mapError .scalar
  | .int => ((intValue text).map Datum.int).mapError .scalar
  | .float => (floatDatum scalar text).mapError .scalar
  | .timestamp => (timeValue text).mapError .scalar
  | .binary =>
      match bytesValue? text with
      | some bytes => .ok (.bytes bytes)
      | none => .error .malformed
  | _ => .error .malformed

def scalarValue (scalar : Nat) (tag : Tag) (text : Coded) : Except Fault Datum :=
  match text.whole? with
  | some whole => textValue scalar tag whole
  | none =>
      let first := text.firstStandIn
      match textValue scalar tag (text.withStandIns first) with
      | .error fault => .error (fault.mapText (Coded.withoutStandIns first))
      | .ok (.text _) => .ok (.text text)
      | .ok value => .ok value

end ImportAtlas.Yaml
