import ImportAtlas.Json.Printer
import ImportAtlas.Keyed
import ImportAtlas.Log.Event
import ImportAtlas.Log.Template
import ImportAtlas.Time.Epoch

/-! # Log records

What a logger is told once, and the two forms in which it is written: a JSON object on
one line of a log file, and a line to be read on a console.
-/

namespace ImportAtlas.Log

open Text (Coded)

/-- The room that there is where records are written, in levels. -/
structure Room where
  /-- What lies in an argument that is put into a message. -/
  arguments : Nat
  /-- Arrays and objects inside each other on a line. -/
  line : Nat
  /-- What a place among the fields takes itself. -/
  place : Nat
deriving DecidableEq, Repr, Inhabited

structure Exception where
  kind : String
  text : Coded
deriving DecidableEq, Repr

def Exception.summary (exception : Exception) : Coded :=
  if exception.text.isEmpty then exception.kind else exception.kind ++ ": " ++ exception.text

structure Record where
  logger : Coded
  level : Level
  template : Coded
  arguments : List Datum
  created : Time.Timestamp
  exception : Option Exception
  fields : Fields

namespace Record

inductive Fault
  | time (fault : Time.EpochFault)
  | template (fault : Template.Fault)
  | fields (fault : WriteFault)
deriving DecidableEq, Repr

def Fault.message : Fault → String
  | time fault => fault.message
  | template fault => fault.message
  | fields fault => fault.message "encoding a JSON object"

def ofEvent (created : Time.Timestamp) (event : Event) : Record where
  logger := event.logger
  level := event.level
  template := event.message
  arguments := []
  created := created
  exception := none
  fields := event.fields

def message (room : Room) (record : Record) : Except Fault Coded :=
  (Template.format room.arguments record.template record.arguments).mapError .template

def moment (record : Record) : Except Fault Time.Moment :=
  record.created.moment.mapError .time

/-! ## Log files -/

def standardFields (record : Record) (moment : Time.Moment) (message : Coded) : Fields :=
  ("timestamp", .text (moment.text "T")) :: ("level", .text (Level.name record.level)) ::
    ("logger", .text record.logger) :: ("message", .text message) ::
    record.exception.toList.map fun exception => ("exception", .text exception.summary)

/-- The object that is written for a record. Its own fields replace standard ones of the same
name in their place and follow them otherwise. -/
def entry (room : Room) (record : Record) : Except Fault Field := do
  let moment ← record.moment
  let message ← record.message room
  return .object (Keyed.update (record.standardFields moment message) record.fields)

def line (room : Room) (record : Record) : Except Fault String := do
  let entry ← record.entry room
  match entry.firstFault room.place room.line with
  | some fault => throw (.fields fault)
  | none => return entry.toJson.render

/-! ## The console -/

def paddedRight (width : Nat) (text : String) : String :=
  text ++ String.ofList (List.replicate (width - text.length) ' ')

def clockText (clock : Time.Clock) : String :=
  ({ clock with microsecond := 0 } : Time.Clock).text

def shownMessage (room : Room) (record : Record) : Except Fault String :=
  (record.message room).map Text.shown

def consoleText (room : Room) (record : Record) : Except Fault String := do
  let message ← record.shownMessage room
  let moment ← record.moment
  return clockText moment.clock ++ " " ++ paddedRight 7 (Level.name record.level) ++ " "
    ++ Text.shown record.logger ++ ": " ++ message

end Record

end ImportAtlas.Log
