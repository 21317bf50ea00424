import ImportAtlas.FileSystem.Edit
import ImportAtlas.Log.Record
import ImportAtlas.Text.Utf8

/-! # Log sessions

Where records go while a program runs. A session has a threshold below which records are
dropped and a list of handlers with thresholds of their own, which append a line to a log
file or show one on the console. Setting up the log puts new handlers in the place of
the old ones, whose files are closed; what they have written stays.
-/

namespace ImportAtlas.Log

/-! ## Handlers -/

inductive Sink
  | file (place : Location)
  | console
  | foreign (name : String)
deriving DecidableEq, Repr

structure Handler where
  sink : Sink
  threshold : Level
deriving DecidableEq, Repr

def Handler.file? (handler : Handler) : Option Location :=
  match handler.sink with
  | .file place => some place
  | _ => none

structure Session where
  room : Room
  system : FileSystem
  threshold : Level
  handlers : List Handler
  opened : List Location
  shown : String

namespace Session

def fresh (room : Room) (system : FileSystem) : Session where
  room := room
  system := system
  threshold := Level.warning
  handlers := []
  opened := []
  shown := ""

/-! ## Records -/

/-- Whether records of a level reach the handlers. Nothing at level zero or below is ever
recorded. -/
def isEnabled (session : Session) (level : Level) : Bool :=
  0 < level ∧ session.threshold ≤ level

def showText (session : Session) (text : String) : Session :=
  { session with shown := session.shown ++ text ++ "\n" }

def appendLine (session : Session) (place : Location) (line : String) : Session :=
  match session.system.appendTo place (Text.Utf8.encode (line.toList ++ ['\n'])) with
  | .ok system => { session with system }
  | .error _ => session

def deliver (session : Session) (record : Record) (handler : Handler) : Session :=
  if record.level < handler.threshold then session
  else
    match handler.sink with
    | .file place => (record.line session.room).toOption.elim session (session.appendLine place)
    | .console => (record.consoleText session.room).toOption.elim session session.showText
    | .foreign _ => session

def deliverUnhandled (session : Session) (record : Record) : Session :=
  if record.level < Level.warning then session
  else (record.shownMessage session.room).toOption.elim session session.showText

def emit (session : Session) (record : Record) : Session :=
  if session.isEnabled record.level then
    if session.handlers.isEmpty then session.deliverUnhandled record
    else session.handlers.foldl (fun session handler => session.deliver record handler) session
  else session

def emitEvents (session : Session) (created : Time.Timestamp) (events : List Event) : Session :=
  events.foldl (fun session event => session.emit (.ofEvent created event)) session

/-! ## Setting up -/

def defaultDirectoryName : String := ".projgraph_logs"

structure Settings where
  directory : Option Location
  threshold : Level
  showsConsole : Bool
deriving DecidableEq, Repr

def directoryOf (session : Session) (settings : Settings) : Location :=
  settings.directory.getD (session.system.absolute ⟨"", [defaultDirectoryName]⟩)

def fileName (day : Time.Date) : String :=
  "projgraph_" ++ Time.padded 4 day.year ++ Time.padded 2 day.month ++ Time.padded 2 day.day
    ++ ".log"

def fileIn (directory : Location) (day : Time.Date) : Location :=
  { directory with parts := directory.parts ++ [fileName day] }

def openedPlace (system : FileSystem) (file : Location) : Location :=
  .ofText (Path.canonical (system.absolute file).text)

/-- A log without handlers. Of the open files, those that handlers write are closed. -/
def release (session : Session) : Session :=
  { session with
    opened := (session.handlers.filterMap Handler.file?).foldl List.erase session.opened
    handlers := [] }

def addFile (session : Session) (place : Location) (threshold : Level) :
    Except SystemFault Session :=
  match session.system.appendTo place [] with
  | .error cause => .error ⟨cause, place.text⟩
  | .ok system =>
      .ok { session with
        system
        handlers := session.handlers ++ [⟨.file place, threshold⟩]
        opened := session.opened ++ [place] }

def addConsole (session : Session) (threshold : Level) : Session :=
  { session with handlers := session.handlers ++ [⟨.console, threshold⟩] }

def setupEvent (file : Location) (threshold : Level) : Event where
  level := Level.info
  logger := Logger.setup
  message := "Logging initialized. Log file: " ++ file.text
  fields := [("log_level", .text (Level.name threshold))]

/-- Set up the log: create its directory, replace all handlers, and log that this was done.
The result is the log file. If the directory cannot be created nothing changes; if the file
cannot be opened the log is left without handlers. -/
def setUp (session : Session) (created : Time.Timestamp) (day : Time.Date)
    (settings : Settings) : Session × Except SystemFault Location :=
  let directory := session.directoryOf settings
  let file := fileIn directory day
  match session.system.ensureDirectories directory with
  | .error fault => (session, .error fault)
  | .ok system =>
      let released := { session with system, threshold := settings.threshold }.release
      match released.addFile (openedPlace system file) settings.threshold with
      | .error fault => (released, .error fault)
      | .ok session =>
          let session :=
            if settings.showsConsole then session.addConsole settings.threshold else session
          (session.emitEvents created [setupEvent file settings.threshold], .ok file)

end Session

end ImportAtlas.Log
