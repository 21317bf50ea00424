/-! # Calendar dates and times

The proleptic Gregorian calendar from year 1 to year 9999, with times of day to the
microsecond and offsets from universal time in minutes.
-/

namespace ImportAtlas.Time

inductive CalendarFault
  | year (value : Int)
  | month
  | day
  | hour
  | minute
  | second
  | offset (minutes : Int)
deriving DecidableEq, Repr

structure Date where
  year : Nat
  month : Nat
  day : Nat
deriving DecidableEq, Repr, Inhabited

structure Clock where
  hour : Nat
  minute : Nat
  second : Nat
  microsecond : Nat
deriving DecidableEq, Repr, Inhabited

/-- A day and a time, at some minutes ahead of universal time if that is known. -/
structure Moment where
  date : Date
  clock : Clock
  offset : Option Int
deriving DecidableEq, Repr, Inhabited

def isLeapYear (year : Nat) : Bool :=
  year % 4 = 0 ∧ (year % 100 ≠ 0 ∨ year % 400 = 0)

def daysInMonth (year month : Nat) : Nat :=
  if month = 2 then (if isLeapYear year then 29 else 28)
  else if [4, 6, 9, 11].contains month then 30 else 31

def Date.ofNumbers (year month day : Nat) : Except CalendarFault Date :=
  if year < 1 ∨ 9999 < year then .error (.year year)
  else if month < 1 ∨ 12 < month then .error .month
  else if day < 1 ∨ daysInMonth year month < day then .error .day
  else .ok ⟨year, month, day⟩

def Clock.ofNumbers (hour minute second microsecond : Nat) : Except CalendarFault Clock :=
  if 23 < hour then .error .hour
  else if 59 < minute then .error .minute
  else if 59 < second then .error .second
  else .ok ⟨hour, minute, second, microsecond⟩

def Date.dayNumber (date : Date) : Nat :=
  let before := date.year - 1
  365 * before + before / 4 - before / 100 + before / 400
    + (List.range (date.month - 1)).foldl
        (fun days month => days + daysInMonth date.year (month + 1)) 0
    + (date.day - 1)

/-- Whether two moments are the same. One of known offset is never the same as one of
unknown offset; two of known offset are compared in universal time. -/
def Moment.isSame (moment other : Moment) : Bool :=
  let minutes (moment : Moment) (offset : Int) : Int :=
    1440 * moment.date.dayNumber + 60 * moment.clock.hour + moment.clock.minute - offset
  match moment.offset, other.offset with
  | none, none => moment == other
  | some offset, some offset' =>
      minutes moment offset == minutes other offset'
        && moment.clock.second == other.clock.second
        && moment.clock.microsecond == other.clock.microsecond
  | _, _ => false

def padded (width value : Nat) : String :=
  let digits := toString value
  String.ofList (List.replicate (width - digits.length) '0') ++ digits

def Date.text (date : Date) : String :=
  padded 4 date.year ++ "-" ++ padded 2 date.month ++ "-" ++ padded 2 date.day

def Clock.text (clock : Clock) : String :=
  padded 2 clock.hour ++ ":" ++ padded 2 clock.minute ++ ":" ++ padded 2 clock.second
    ++ (if clock.microsecond = 0 then "" else "." ++ padded 6 clock.microsecond)

def offsetText (minutes : Int) : String :=
  (if minutes < 0 then "-" else "+") ++ padded 2 (minutes.natAbs / 60) ++ ":"
    ++ padded 2 (minutes.natAbs % 60)

def Moment.text (between : String) (moment : Moment) : String :=
  moment.date.text ++ between ++ moment.clock.text ++ (moment.offset.map offsetText).getD ""

def spanText (minutes : Int) : String :=
  let days := minutes.fdiv 1440
  let seconds := minutes.fmod 1440 * 60
  let parts :=
    (if days = 0 then [] else ["days=" ++ toString days])
      ++ (if seconds = 0 then [] else ["seconds=" ++ toString seconds])
  "datetime.timedelta(" ++ (if parts.isEmpty then "0" else ", ".intercalate parts) ++ ")"

def CalendarFault.message : CalendarFault → String
  | year value => "year " ++ toString value ++ " is out of range"
  | month => "month must be in 1..12"
  | day => "day is out of range for month"
  | hour => "hour must be in 0..23"
  | minute => "minute must be in 0..59"
  | second => "second must be in 0..59"
  | offset minutes =>
      "offset must be a timedelta strictly between -timedelta(hours=24) and "
        ++ "timedelta(hours=24), not " ++ spanText minutes ++ "."

end ImportAtlas.Time
