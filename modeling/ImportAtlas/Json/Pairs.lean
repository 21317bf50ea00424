import ImportAtlas.Datum
import ImportAtlas.Json.Printer

/-! # Objects given in other ways

Where members are asked for, an object gives its own, and a row of pairs gives one for each
pair. Arrays, objects and texts are rows: of their items, their names and their characters.
-/

namespace ImportAtlas.Json

open Text (Coded)

inductive PairsFault
  | notRow (kind : String)
  | itemNotRow (index : Nat)
  | itemLength (index length : Nat)
  | noKey (kind : String)
deriving DecidableEq, Repr

def notRowMessage (kind : String) : String :=
  "'" ++ kind ++ "' object is not iterable"

def PairsFault.message : PairsFault → String
  | notRow kind => notRowMessage kind
  | itemNotRow index =>
      "cannot convert dictionary update sequence element #" ++ toString index ++ " to a sequence"
  | itemLength index length =>
      "dictionary update sequence element #" ++ toString index ++ " has length "
        ++ toString length ++ "; 2 is required"
  | noKey kind => "unhashable type: '" ++ kind ++ "'"

def kindName (value : Json) : String :=
  (Datum.ofJson value).kindName

def row? : Json → Option (List Json)
  | .array items => some items
  | .object members => some (members.map fun member => .text member.1)
  | .text value => some (value.map fun code => .text [code])
  | _ => none

def isNothing : Json → Bool
  | .null => true
  | .bool value => !value
  | .int value => value = 0
  | .float value => value.toInt? = some 0
  | .text value => value.isEmpty
  | .array items => items.isEmpty
  | .object members => members.isEmpty

def keyName (key : Datum) : Coded :=
  match key with
  | .text name => name
  | .null => "null"
  | .bool value => if value then "true" else "false"
  | .float value => floatText value
  | other => other.literal

def pairOf (item : Json) (index : Nat) : Except PairsFault (Datum × Json) :=
  match item.row? with
  | none => .error (.itemNotRow index)
  | some [key, value] =>
      let key := Datum.ofJson key
      if key.isKey then .ok (key, value) else .error (.noKey key.kindName)
  | some items => .error (.itemLength index items.length)

def putPair (key : Datum) (value : Json) : List (Datum × Json) → List (Datum × Json)
  | [] => [(key, value)]
  | (head, old) :: tail =>
      if head.isSameKey key then (head, value) :: tail else (head, old) :: putPair key value tail

/-- The members that a value gives. Of equal keys the first one keeps its place and the last
value counts. -/
def membersGiven (value : Json) : Except PairsFault (List (Coded × Json)) :=
  match value with
  | .object members => .ok members
  | _ =>
      match value.row? with
      | none => .error (.notRow value.kindName)
      | some items => do
          let pairs ← items.zipIdx.mapM fun (item, index) => pairOf item index
          let distinct := pairs.foldl (fun pairs (key, value) => putPair key value pairs) []
          return distinct.map fun (key, value) => (keyName key, value)

end ImportAtlas.Json
