import ImportAtlas.Text.Hex
import ImportAtlas.Text.Split

/-! # Tags

What a node stands for is said by its tag. The tag of a plain scalar without one follows
from its text. Every condition is on the whole text; the first tag in a fixed order that
fits is taken, and a text that fits none is just a text.
-/

namespace ImportAtlas.Yaml

inductive Tag
  | bool
  | float
  | int
  | merge
  | null
  | timestamp
  | value
  | text
  | binary
  | list
  | mapping
  | set
  | orderedMapping
  | pairs
  | unknown
deriving DecidableEq, Repr, Inhabited

def knownTags : List (String × Tag) :=
  [("bool", .bool), ("float", .float), ("int", .int), ("merge", .merge), ("null", .null),
   ("timestamp", .timestamp), ("value", .value), ("str", .text), ("binary", .binary),
   ("seq", .list), ("map", .mapping), ("set", .set), ("omap", .orderedMapping),
   ("pairs", .pairs)]

def commonTag : String := "tag:yaml.org,2002:"

def Tag.ofName (name : String) : Tag :=
  ((knownTags.find? fun entry => commonTag ++ entry.1 == name).map Prod.snd).getD .unknown

/-! ## Forms of numbers -/

def isSpacedDigit (char : Char) : Bool := char.isDigit || char == '_'

def isNumeral : List Char → Bool
  | [] => false
  | head :: tail => head.isDigit && tail.all isSpacedDigit

def unsigned : List Char → List Char
  | '+' :: tail | '-' :: tail => tail
  | chars => chars

def isSixtieth : List Char → Bool
  | [digit] => digit.isDigit
  | [tens, units] => decide ('0' ≤ tens ∧ tens ≤ '5') && units.isDigit
  | _ => false

def isExponent : List Char → Bool
  | [] => true
  | mark :: sign :: digits =>
      (mark == 'e' || mark == 'E') && (sign == '-' || sign == '+') && !digits.isEmpty
        && digits.all Char.isDigit
  | _ => false

def isFraction (chars : List Char) : Bool :=
  isExponent (chars.dropWhile isSpacedDigit)

def isSexagesimal (chars : List Char) : Bool :=
  match Text.split ':' chars with
  | first :: rest => isNumeral first && !rest.isEmpty && rest.all isSixtieth
  | [] => false

def isFloatForm (chars : List Char) : Bool :=
  let afterSign := unsigned chars
  let whole := afterSign.takeWhile (· ≠ '.')
  let infinite := [".inf", ".Inf", ".INF"].map String.toList
  let undefined := [".nan", ".NaN", ".NAN"].map String.toList
  match afterSign.drop whole.length with
  | [] => false
  | _ :: fraction =>
      (isNumeral whole && isFraction fraction)
        || (chars.head? == some '.' && (fraction.head?.any Char.isDigit) && isFraction fraction)
        || (isSexagesimal whole && fraction.all isSpacedDigit)
        || infinite.contains afterSign || undefined.contains chars

def isIntForm (chars : List Char) : Bool :=
  let afterSign := unsigned chars
  match afterSign with
  | ['0'] => true
  | '0' :: 'b' :: digits =>
      !digits.isEmpty && digits.all fun digit => digit == '0' || digit == '1' || digit == '_'
  | '0' :: 'x' :: digits =>
      !digits.isEmpty && digits.all fun digit => (Text.hexValue? digit).isSome || digit == '_'
  | '0' :: digits => digits.all fun digit => decide ('0' ≤ digit ∧ digit ≤ '7') || digit == '_'
  | _ => isNumeral afterSign || isSexagesimal afterSign

/-! ## Forms of times -/

def shortNumber : List Char → Option (Nat × List Char)
  | first :: second :: rest =>
      if first.isDigit ∧ second.isDigit then
        some (10 * (first.toNat - 48) + (second.toNat - 48), rest)
      else if first.isDigit then some (first.toNat - 48, second :: rest)
      else none
  | [digit] => if digit.isDigit then some (digit.toNat - 48, []) else none
  | [] => none

def twoDigits : List Char → Option (Nat × List Char)
  | first :: second :: rest =>
      if first.isDigit ∧ second.isDigit then
        some (10 * (first.toNat - 48) + (second.toNat - 48), rest)
      else none
  | _ => none

def literalChar (char : Char) : List Char → Option (List Char)
  | head :: rest => if head = char then some rest else none
  | [] => none

/-- The zone of a time: known to be universal time, or ahead of it by some minutes. -/
inductive Zone
  | universal
  | offset (isNegative : Bool) (hours minutes : Nat)
deriving DecidableEq, Repr

/-- The numbers of a time of day: hour, minute, second, digits of a fraction, zone. -/
structure ClockForm where
  hour : Nat
  minute : Nat
  second : Nat
  fraction : List Char
  zone : Option Zone
deriving DecidableEq, Repr

structure TimeForm where
  year : Nat
  month : Nat
  day : Nat
  clock : Option ClockForm
deriving DecidableEq, Repr

def isGap (char : Char) : Bool := char == ' ' || char == '\t'

def zoneForm (chars : List Char) : Option (Option Zone) :=
  match chars, chars.dropWhile isGap with
  | [], _ => some none
  | _, ['Z'] => some (some .universal)
  | _, sign :: rest =>
      if sign = '+' ∨ sign = '-' then
        (shortNumber rest).bind fun (hours, rest) =>
          match rest with
          | [] => some (some (.offset (sign = '-') hours 0))
          | _ =>
              ((literalChar ':' rest).bind twoDigits).bind fun (minutes, rest) =>
                if rest.isEmpty then some (some (.offset (sign = '-') hours minutes)) else none
      else none
  | _, [] => none

def clockForm (chars : List Char) : Option ClockForm := do
  let (hour, rest) ← shortNumber chars
  let (minute, rest) ← twoDigits (← literalChar ':' rest)
  let (second, rest) ← twoDigits (← literalChar ':' rest)
  match rest with
  | '.' :: rest =>
      let fraction := rest.takeWhile Char.isDigit
      return ⟨hour, minute, second, fraction, ← zoneForm (rest.drop fraction.length)⟩
  | _ => return ⟨hour, minute, second, [], ← zoneForm rest⟩

def timeForm (chars : List Char) : Option TimeForm := do
  let (century, rest) ← twoDigits chars
  let (years, rest) ← twoDigits rest
  let (month, rest) ← shortNumber (← literalChar '-' rest)
  let (day, rest) ← shortNumber (← literalChar '-' rest)
  let year := 100 * century + years
  match rest with
  | [] => return ⟨year, month, day, none⟩
  | mark :: rest =>
      if mark = 'T' ∨ mark = 't' then return ⟨year, month, day, some (← clockForm rest)⟩
      else if isGap mark then
        return ⟨year, month, day, some (← clockForm (rest.dropWhile isGap))⟩
      else none

def isTimeForm (chars : List Char) : Bool :=
  match timeForm chars with
  | none => false
  | some form => form.clock.isSome || chars.length == 10

/-! ## The tag of a text -/

def truthValues : List (String × Bool) :=
  [("yes", true), ("no", false), ("true", true), ("false", false), ("on", true), ("off", false)]

def isTruthWord (text : String) : Bool :=
  truthValues.any fun (word, _) =>
    text == word || text == word.capitalize || text == word.map Char.toUpper

def withoutFinalFeed (chars : List Char) : List Char :=
  if chars.getLast? = some '\n' then chars.dropLast else chars

/-- The tag of a scalar whose text chooses it. A line feed at the end has no influence,
unless it is the whole text. The characters that start a tag, an anchor and an alias have a
tag of their own, which means nothing. -/
def plainTag (text : String) : Tag :=
  let chars := withoutFinalFeed text.toList
  let line := String.ofList chars
  if text = "\n" then .text
  else if isTruthWord line then .bool
  else if isFloatForm chars then .float
  else if isIntForm chars then .int
  else if line = "<<" then .merge
  else if ["~", "null", "Null", "NULL", ""].contains line then .null
  else if isTimeForm chars then .timestamp
  else if line = "=" then .value
  else if ["!", "&", "*"].contains line then .unknown
  else .text

end ImportAtlas.Yaml
