import ImportAtlas.Keyed
import ImportAtlas.Number.Binary64
import ImportAtlas.Text.Coded

/-! # JSON values

Numbers are integers of any size or double-precision numbers, depending on how
they are written. The members of an object keep their order.
-/

namespace ImportAtlas

open Text (Coded)

inductive Json
  | null
  | bool (value : Bool)
  | int (value : Int)
  | float (value : Binary64)
  | text (value : Coded)
  | array (items : List Json)
  | object (members : List (Coded × Json))
deriving Repr, Inhabited, BEq

namespace Json

def member? (name : Coded) : Json → Option Json
  | object members => Keyed.get? name members
  | _ => none

def text? : Json → Option Coded
  | text value => some value
  | _ => none

def bool? : Json → Option Bool
  | bool value => some value
  | _ => none

def int? : Json → Option Int
  | int value => some value
  | _ => none

def items? : Json → Option (List Json)
  | array items => some items
  | _ => none

def members? : Json → Option (List (Coded × Json))
  | object members => some members
  | _ => none

def ofText? : Option Coded → Json
  | none => null
  | some value => text value

def ofTexts (values : List String) : Json :=
  array (values.map fun value : String => text value)

def ofNat (value : Nat) : Json :=
  int value

/-- The member with an optional value, which is left out if it is absent. -/
def optionalMember (name : Coded) (value : Option Json) : List (Coded × Json) :=
  value.toList.map fun value => (name, value)

end Json

end ImportAtlas
