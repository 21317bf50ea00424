import ImportAtlas.Number.Binary64
import ImportAtlas.Time.Calendar

/-! # Moments counted from 1970

A moment as a number of seconds since the start of 1970 in universal time, whole or with
a fraction. The number has to fit into 64 bits, and its year into 32.
-/

namespace ImportAtlas.Time

inductive EpochFault
  | year (value : Int)
  | yearTooLarge
  | tooLarge
  | notANumber
deriving DecidableEq, Repr

def EpochFault.message : EpochFault → String
  | year value => "year " ++ toString value ++ " is out of range"
  | yearTooLarge => "[Errno 75] Value too large for defined data type"
  | tooLarge => "timestamp out of range for platform time_t"
  | notANumber => "Invalid value NaN (not a number)"

def dateFromMarchDay (days : Int) : Int × Nat × Nat :=
  let era := days.fdiv 146097
  let dayOfEra := (days.fmod 146097).toNat
  let yearOfEra := (dayOfEra - dayOfEra / 1460 + dayOfEra / 36524 - dayOfEra / 146096) / 365
  let dayOfYear := dayOfEra - (365 * yearOfEra + yearOfEra / 4 - yearOfEra / 100)
  let marchMonth := (5 * dayOfYear + 2) / 153
  let day := dayOfYear - (153 * marchMonth + 2) / 5 + 1
  let month := if marchMonth < 10 then marchMonth + 3 else marchMonth - 9
  let year := (yearOfEra : Int) + era * 400
  (if month ≤ 2 then year + 1 else year, month, day)

def storedYear (year : Int) : Except EpochFault Int :=
  if year - 1900 < -0x80000000 ∨ 0x80000000 ≤ year - 1900 then .error .yearTooLarge
  else .ok (if 0x80000000 ≤ year then year - 0x100000000 else year)

def Moment.ofMicroseconds (microseconds : Int) : Except EpochFault Moment := do
  let seconds := microseconds.fdiv 1000000
  let second := (seconds.fmod 86400).toNat
  let (year, month, day) := dateFromMarchDay (seconds.fdiv 86400 + 719468)
  let year ← storedYear year
  if year < 1 ∨ 9999 < year then throw (.year year)
  return ⟨⟨year.toNat, month, day⟩,
    ⟨second / 3600, second / 60 % 60, second % 60, (microseconds.fmod 1000000).toNat⟩, some 0⟩

inductive Timestamp
  | whole (seconds : Int)
  | fractional (seconds : Binary64)
deriving DecidableEq, Repr, Inhabited

def storedSeconds (seconds : Int) : Except EpochFault Int :=
  if seconds < -0x8000000000000000 ∨ 0x8000000000000000 ≤ seconds then .error .tooLarge
  else .ok seconds

/-- The microseconds nearest to a fraction of a second, which is multiplied as a
double-precision number first. -/
def roundedMicroseconds (numerator : Int) (denominator : Nat) : Int :=
  match Binary64.ofSigned (numerator * 1000000) denominator with
  | .finite negative significand exponent =>
      let (top, bottom) := Binary64.ratio significand exponent
      let magnitude : Int := Binary64.roundHalfEven top bottom
      if negative then -magnitude else magnitude
  | _ => 0

def Timestamp.microseconds : Timestamp → Except EpochFault Int
  | .whole seconds => (storedSeconds seconds).map (· * 1000000)
  | .fractional (.finite negative significand exponent) => do
      let (numerator, denominator) := Binary64.signedRatio negative significand exponent
      let seconds ← storedSeconds (numerator.tdiv denominator)
      let rest := numerator - seconds * denominator
      return seconds * 1000000 + roundedMicroseconds rest denominator
  | .fractional (.infinite _) => .error .tooLarge
  | .fractional .notANumber => .error .notANumber

def Timestamp.moment (timestamp : Timestamp) : Except EpochFault Moment := do
  Moment.ofMicroseconds (← timestamp.microseconds)

end ImportAtlas.Time
