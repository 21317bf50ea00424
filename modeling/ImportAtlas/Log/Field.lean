import ImportAtlas.FileSystem.Name
import ImportAtlas.Json.Basic
import ImportAtlas.Limits

/-! # Fields of log records

What a log record carries besides its message: JSON values in which places of the
file system may stand, at any depth. In a log line a place is its text.
-/

namespace ImportAtlas.Log

open Text (Coded)

inductive Field
  | null
  | bool (value : Bool)
  | int (value : Int)
  | float (value : Binary64)
  | text (value : Coded)
  | place (name : Coded)
  | list (items : List Field)
  | object (members : List (Coded × Field))
deriving Repr, Inhabited

namespace Field

mutual

def toJson : Field → Json
  | .null => .null
  | .bool value => .bool value
  | .int value => .int value
  | .float value => .float value
  | .text value => .text value
  | .place name => .text (Location.textOfName name)
  | .list items => .array (itemsToJson items)
  | .object members => .object (membersToJson members)

def itemsToJson : List Field → List Json
  | [] => []
  | head :: tail => toJson head :: itemsToJson tail

def membersToJson : List (Coded × Field) → List (Coded × Json)
  | [] => []
  | (name, value) :: tail => (name, toJson value) :: membersToJson tail

end

mutual

def ofJson : Json → Field
  | .null => .null
  | .bool value => .bool value
  | .int value => .int value
  | .float value => .float value
  | .text value => .text value
  | .array items => .list (itemsOfJson items)
  | .object members => .object (membersOfJson members)

def itemsOfJson : List Json → List Field
  | [] => []
  | head :: tail => ofJson head :: itemsOfJson tail

def membersOfJson : List (Coded × Json) → List (Coded × Field)
  | [] => []
  | (name, value) :: tail => (name, ofJson value) :: membersOfJson tail

end

mutual

/-- What keeps a field from being written, if there is room for so many arrays and objects inside
each other. A place among them takes some levels itself. The first fault counts. -/
def firstFault (place room : Nat) : Field → Option WriteFault
  | .int value => WriteFault.ofInt value
  | .place _ => if place ≤ room then none else some .nested
  | .list items =>
      match room with
      | 0 => some .nested
      | room + 1 => firstFaultOfItems place room items
  | .object members =>
      match room with
      | 0 => some .nested
      | room + 1 => firstFaultOfMembers place room members
  | _ => none

def firstFaultOfItems (place room : Nat) : List Field → Option WriteFault
  | [] => none
  | head :: tail => (firstFault place room head).or (firstFaultOfItems place room tail)

def firstFaultOfMembers (place room : Nat) : List (Coded × Field) → Option WriteFault
  | [] => none
  | (_, value) :: tail => (firstFault place room value).or (firstFaultOfMembers place room tail)

end

end Field

abbrev Fields := List (Coded × Field)

end ImportAtlas.Log
