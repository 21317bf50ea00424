import ImportAtlas.Number.Decimal
import ImportAtlas.Text.Quoted
import ImportAtlas.Text.Utf8
import ImportAtlas.Time.Calendar

/-! # Faults of YAML documents

Most faults make a text no document at all and are told apart no further. Some
scalars have the form of a number, a truth value, a time or a character and yet have
no value; those faults keep their cause.
-/

namespace ImportAtlas.Yaml

inductive ScalarFault
  | emptyNumber
  | notInteger (base : Nat) (text : Text.Coded)
  | notFloat (text : Text.Coded)
  | overlongInteger (digits : Nat)
  | hugePlace
  | notBool (text : Text.Coded)
  | notTimestamp
  | noTimestampText
  | calendar (fault : Time.CalendarFault)
  | noCharacter (code : Nat)
  | endless
  | nested
deriving DecidableEq, Repr

def ScalarFault.mapText (change : Text.Coded → Text.Coded) : ScalarFault → ScalarFault
  | notInteger base text => .notInteger base (change text)
  | notFloat text => .notFloat (change text)
  | notBool text => .notBool (change text)
  | fault => fault

def ScalarFault.message : ScalarFault → String
  | emptyNumber => "string index out of range"
  | notInteger base text =>
      "invalid literal for int() with base " ++ toString base ++ ": "
        ++ String.ofList ((Text.quoteChars text).take 200)
  | notFloat text => "could not convert string to float: " ++ Text.quoted text
  | overlongInteger digits => Decimal.overlongMessage digits
  | hugePlace => "int too large to convert to float"
  | notBool text => Text.quoted text
  | notTimestamp => "'NoneType' object has no attribute 'groupdict'"
  | noTimestampText => "expected string or bytes-like object, got 'list'"
  | calendar fault => fault.message
  | noCharacter code =>
      if code < 0x80000000 then "chr() arg not in range(0x110000)"
      else "Python int too large to convert to C int"
  | endless | nested => "maximum recursion depth exceeded"

/-- Why a text is not read as a document. -/
inductive Fault
  | malformed
  | scalar (fault : ScalarFault)
  | undecodable (fault : Text.Utf8.Fault)
deriving DecidableEq, Repr

def Fault.mapText (change : Text.Coded → Text.Coded) : Fault → Fault
  | scalar fault => .scalar (fault.mapText change)
  | fault => fault

end ImportAtlas.Yaml
