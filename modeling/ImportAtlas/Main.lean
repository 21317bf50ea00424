import ImportAtlas.Server.Run
import Std.Time.DateTime.Timestamp

/-! # The program

The command line of the server. What the disk holds at the places that matter is read
into a file system first, the log is worked out on it, and what has been logged is then
written to disk. The server stays up until its input ends; the messages of its clients are
not read here.
-/

namespace ImportAtlas.Server

def limits : Limits := ⟨1000, 1000, 1000, 1000, 1000⟩

def room : Log.Room := ⟨1000, 1000, 1⟩

def presentInstant : IO Instant := do
  let now ← Std.Time.Timestamp.now
  let created : Time.Timestamp :=
    .fractional (.ofSigned now.toNanosecondsSinceUnixEpoch.val 1000000000)
  let day := (created.moment.toOption.map Time.Moment.date).getD ⟨1970, 1, 1⟩
  return ⟨created, day⟩

def diskEntry (place : Location) : IO (Option Entry) := do
  try
    let bytes ← IO.FS.readBinFile place.text
    return some (.file .newFile bytes.toList)
  catch problem =>
    match problem with
    | .inappropriateType .. => return some (.directory .newDirectory [])
    | .permissionDenied .. => return some (.file ⟨false, false⟩ [])
    | _ => return none

def workingDirectoryOnly (path : String) : FileSystem :=
  let place := Location.ofText path
  let system : FileSystem :=
    { top := .directory .newDirectory [], workingDirectory := place.parts, isPrivileged := false }
  (system.ensureDirectories place).toOption.getD system

/-- The file system in which an entry stands at a place, with the directories above it. -/
def withEntryAt (system : FileSystem) (place : Location) (entry : Entry) : FileSystem :=
  let above : Location := { place with parts := place.parts.dropLast }
  let system := (system.ensureDirectories above).toOption.getD system
  (system.create place entry).toOption.getD system

def diskOf (options : Options) : IO FileSystem := do
  let directory ← IO.currentDir
  let system := workingDirectoryOnly directory.toString
  match options.config with
  | none | some .nothing => return system
  | some (.value place) => return (← diskEntry place).elim system (withEntryAt system place)

def flushLog (session : Log.Session) : IO Log.Session := do
  for place in session.opened do
    let above : Location := { place with parts := place.parts.dropLast }
    IO.FS.createDirAll above.text
    let handle ← IO.FS.Handle.mk place.text .append
    let lines := (session.system.read place).toOption.getD []
    handle.write ⟨lines.toArray⟩
  IO.eprint session.shown
  let system := session.opened.foldl
    (fun system place => (system.write place []).toOption.getD system) session.system
  return { session with system, shown := "" }

partial def waitForEnd (input : IO.FS.Stream) : IO Unit := do
  let line ← input.getLine
  if line.isEmpty then return else waitForEnd input

def serve (options : Options) : IO UInt32 := do
  let session := Log.Session.fresh room (← diskOf options)
  let (session, prepared) := prepare limits session (← presentInstant) options
  let session ← flushLog session
  match prepared with
  | .error stop =>
      IO.eprintln (Text.shown stop.message)
      return 1
  | .ok _ =>
      waitForEnd (← IO.getStdin)
      let _ ← flushLog (finish session (← presentInstant))
      return 0

end ImportAtlas.Server

def main (words : List String) : IO UInt32 := do
  match ImportAtlas.Server.Command.ofWords words with
  | .error fault =>
      IO.eprintln fault.report
      return 2
  | .ok .showHelp =>
      for line in ImportAtlas.Server.helpLines do
        IO.println line
      return 0
  | .ok (.serve options) => ImportAtlas.Server.serve options
