import ImportAtlas.Json.Pairs
import ImportAtlas.Log.Field

/-! # Tagging records with a project root

Whoever reports about one project tags every record with the root of the project. A call
that reports something has options, and under `extra` and `extra_fields` among them the
fields of the record; a tag is put there, in front of the fields that the call gives.
-/

namespace ImportAtlas.Log

open Text (Coded)

def extraName : Coded := "extra"

def fieldsName : Coded := "extra_fields"

def rootName : Coded := "root"

def tagged (root : Coded) (fields : Fields) : Fields :=
  Keyed.update [(rootName, .text root)] fields

/-- The members under a name; what is missing or counts as nothing has none. -/
def membersUnder (name : Coded) (members : List (Coded × Json)) :
    Except Json.PairsFault (List (Coded × Json)) :=
  match Keyed.get? name members with
  | none => .ok []
  | some value => if value.isNothing then .ok [] else value.membersGiven

def taggedOptions (root : Coded) (options : List (Coded × Json)) :
    Except Json.PairsFault (List (Coded × Json)) := do
  let extra ← membersUnder extraName options
  let fields ← membersUnder fieldsName extra
  let tagged := Field.membersToJson (tagged root (Field.membersOfJson fields))
  return Keyed.put extraName (.object (Keyed.put fieldsName (.object tagged) extra)) options

end ImportAtlas.Log
