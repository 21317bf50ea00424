import ImportAtlas.Json.Basic
import ImportAtlas.Limits
import ImportAtlas.Number.Shortest
import ImportAtlas.Text.Quoted
import ImportAtlas.Time.Calendar

/-! # Data

The values that a configuration can be given: everything a document can hold, before
anything is known about what it should hold. Messages show a datum in one of two
ways, and name its kind.
-/

namespace ImportAtlas

open Text (Coded)

/-- A value of a document. A collection that contains itself has a back reference in
the place where it occurs again. What is not a number either is the one value of its kind
that all documents share, or belongs to one scalar, whose number it has. -/
inductive Datum
  | null
  | bool (value : Bool)
  | int (value : Int)
  | float (value : Binary64)
  | ownNotANumber (scalar : Nat)
  | text (value : Coded)
  | bytes (value : List UInt8)
  | date (value : Time.Date)
  | moment (value : Time.Moment)
  | list (items : List Datum)
  | pair (first second : Datum)
  | mapping (entries : List (Datum × Datum))
  | set (members : List Datum)
  | backReference (isMapping : Bool)
deriving Repr, Inhabited

namespace Datum

def kindName : Datum → String
  | null => "NoneType"
  | bool _ => "bool"
  | int _ => "int"
  | float _ | ownNotANumber _ => "float"
  | text _ => "str"
  | bytes _ => "bytes"
  | date _ => "date"
  | moment _ => "datetime"
  | list _ => "list"
  | pair _ _ => "tuple"
  | mapping _ => "dict"
  | set _ => "set"
  | backReference isMapping => if isMapping then "dict" else "list"

def text? : Datum → Option Coded
  | text value => some value
  | _ => none

/-! ## Shown forms -/

def bytesLiteral (bytes : List UInt8) : String :=
  let chars := bytes.map fun byte => Char.ofNat byte.toNat
  let quote := Text.quoteFor chars
  let shown (char : Char) : List Char :=
    if char.toNat < 0x7F then Text.quotedChar quote char else Text.codeEscape char
  String.ofList ('b' :: quote :: chars.flatMap shown ++ [quote])

def dateLiteral (date : Time.Date) : String :=
  "datetime.date(" ++ ", ".intercalate ([date.year, date.month, date.day].map toString) ++ ")"

def momentLiteral (moment : Time.Moment) : String :=
  let clock := moment.clock
  let fraction :=
    if clock.microsecond ≠ 0 then [clock.second, clock.microsecond]
    else if clock.second ≠ 0 then [clock.second]
    else []
  let numbers :=
    [moment.date.year, moment.date.month, moment.date.day, clock.hour, clock.minute] ++ fraction
  let zone := moment.offset.map fun minutes =>
    if minutes = 0 then "tzinfo=datetime.timezone.utc"
    else "tzinfo=datetime.timezone(" ++ Time.spanText minutes ++ ")"
  "datetime.datetime(" ++ ", ".intercalate (numbers.map toString ++ zone.toList) ++ ")"

mutual

def literal : Datum → String
  | null => "None"
  | bool value => if value then "True" else "False"
  | int value => toString value
  | float value => value.text
  | ownNotANumber _ => Binary64.notANumber.text
  | text value => Text.quoted value
  | bytes value => bytesLiteral value
  | date value => dateLiteral value
  | moment value => momentLiteral value
  | list items => "[" ++ ", ".intercalate (literals items) ++ "]"
  | pair first second => "(" ++ literal first ++ ", " ++ literal second ++ ")"
  | mapping entries => "\x7B" ++ ", ".intercalate (entryLiterals entries) ++ "\x7D"
  | set [] => "set()"
  | set (first :: others) =>
      "\x7B" ++ ", ".intercalate (literal first :: literals others) ++ "\x7D"
  | backReference isMapping => if isMapping then "\x7B...\x7D" else "[...]"

def literals : List Datum → List String
  | [] => []
  | head :: tail => literal head :: literals tail

def entryLiterals : List (Datum × Datum) → List String
  | [] => []
  | (key, value) :: tail => (literal key ++ ": " ++ literal value) :: entryLiterals tail

end

def display : Datum → Coded
  | text value => value
  | date value => value.text
  | moment value => value.text " "
  | value => value.literal

/-! ## Data that cannot be shown -/

def zoneLevels : Option Int → Nat
  | none => 0
  | some minutes => if minutes = 0 then 1 else 2

mutual

def firstFault (room : Nat) : Datum → Option WriteFault
  | int value => WriteFault.ofInt value
  | moment value => if zoneLevels value.offset ≤ room then none else some .nested
  | list items => firstFaultBelow room items
  | pair first second =>
      match room with
      | 0 => some .nested
      | room + 1 => (firstFault room first).or (firstFault room second)
  | mapping entries => firstFaultOfEntries room entries
  | set [] => none
  | set members =>
      -- The members are listed before they are written, which takes a level of its own.
      match room with
      | 0 => some .nested
      | room + 1 => firstFaultBelow room members
  | _ => none

def firstFaultBelow (room : Nat) : List Datum → Option WriteFault
  | [] => none
  | head :: tail =>
      match room with
      | 0 => some .nested
      | below + 1 => (firstFault below head).or (firstFaultBelow room tail)

def firstFaultOfEntries (room : Nat) : List (Datum × Datum) → Option WriteFault
  | [] => none
  | (key, value) :: tail =>
      match room with
      | 0 => some .nested
      | below + 1 =>
          ((firstFault below key).or (firstFault below value)).or
            (firstFaultOfEntries room tail)

end

/-! ## Keys -/

/-- Whether two data are the same key. Truth values count as numbers, numbers are
compared by value, and moments by the point in time. What is not a number is the same key
only as itself. -/
def isSameKey : Datum → Datum → Bool
  | text key, text other => key == other
  | null, null => true
  | bytes key, bytes other => key == other
  | date key, date other => key == other
  | moment key, moment other => key.isSame other
  | ownNotANumber key, ownNotANumber other => key == other
  | key, other =>
      match whole? key, whole? other with
      | some number, some number' => number == number'
      | _, _ =>
          match key, other with
          | float number, float number' => number == number'
          | _, _ => false
where
  whole? : Datum → Option Int
    | bool value => some (if value then 1 else 0)
    | int value => some value
    | float value => value.toInt?
    | _ => none

def isKey : Datum → Bool
  | list _ | mapping _ | set _ | backReference _ => false
  | pair first second => isKey first && isKey second
  | _ => true

def insertEntry (key value : Datum) : List (Datum × Datum) → List (Datum × Datum)
  | [] => [(key, value)]
  | (head, old) :: tail =>
      if head.isSameKey key then (head, value) :: tail
      else (head, old) :: insertEntry key value tail

def ofEntries (entries : List (Datum × Datum)) : List (Datum × Datum) :=
  entries.foldl (fun entries (key, value) => insertEntry key value entries) []

/-! ## JSON -/

mutual

def ofJson : Json → Datum
  | .null => .null
  | .bool value => .bool value
  | .int value => .int value
  | .float value => .float value
  | .text value => .text value
  | .array items => .list (itemsOfJson items)
  | .object members => .mapping (membersOfJson members)

def itemsOfJson : List Json → List Datum
  | [] => []
  | head :: tail => ofJson head :: itemsOfJson tail

def membersOfJson : List (Coded × Json) → List (Datum × Datum)
  | [] => []
  | (name, value) :: tail => (.text name, ofJson value) :: membersOfJson tail

end

end Datum

end ImportAtlas
