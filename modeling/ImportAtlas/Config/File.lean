import ImportAtlas.Config.Basic
import ImportAtlas.Failure
import ImportAtlas.FileSystem.Source
import ImportAtlas.Reported
import ImportAtlas.Yaml.Document

/-! # Configuration files

A configuration file changes the parameters it gives a fitting datum. Whatever else is in
it is reported, and the defaults hold.
-/

namespace ImportAtlas.Config

open Text (Coded)

def fileName : String := ".projgraph.yml"

def event (level : Log.Level) (message : Coded) : Log.Event :=
  .plain level Log.Logger.configuration message

def notUsed (message : Coded) : Log.Event :=
  event Log.Level.warning (message ++ ", using defaults")

def unknownEntry (key : Datum) : Log.Event :=
  event Log.Level.warning ("Unknown configuration parameter '" ++ key.display ++ "', ignoring")

def unfitEntry (parameter : Parameter) (value : Datum) : Log.Event :=
  event Log.Level.warning
    ("Invalid value for '" ++ parameter.name ++ "': " ++ value.display ++ ", using default "
      ++ (default.get parameter).display)

def reportAbout (room : Nat) (datum : Datum) (event : Log.Event) : Reported Failure Unit :=
  match datum.firstFault room with
  | none => Reported.report event
  | some fault => Reported.fail (.unshown fault)

def mergeEntry (room : Nat) (config : Config) (entry : Datum × Datum) : Reported Failure Config :=
  match parameterOf? entry.1 with
  | none => do
      reportAbout room entry.1 (unknownEntry entry.1)
      return config
  | some parameter =>
      match config.set? parameter entry.2 with
      | none => do
          reportAbout room entry.2 (unfitEntry parameter entry.2)
          return config
      | some config => return config

def merge (room : Nat) (config : Config) : List (Datum × Datum) → Reported Failure Config
  | [] => pure config
  | head :: tail => do
      let config ← mergeEntry room config head
      merge room config tail

def ofDocument (room : Nat) (place : Location) (document : Datum) : Reported Failure Config :=
  match document with
  | .mapping entries => merge room default entries
  | .null => do
      Reported.report (notUsed (place.text ++ " is empty"))
      return default
  | other => do
      Reported.report
        (notUsed (place.text ++ " must contain a YAML mapping, got " ++ other.kindName))
      return default

/-- The configuration that a file gives. A file that is missing, cannot be read or holds no
document gives the defaults. -/
def load (limits : Limits) (system : FileSystem) (place : Location) : Reported Failure Config :=
  match system.exists? place with
  | .error cause => Reported.fail (.system ⟨cause, place.text⟩)
  | .ok false => do
      Reported.report
        (event Log.Level.debug ("No configuration file at " ++ place.text ++ ", using defaults"))
      return default
  | .ok true =>
      match system.readPortions place with
      | .error cause => do
          Reported.report
            (notUsed ("Could not read " ++ place.text ++ ": "
              ++ SystemFault.message ⟨cause, place.text⟩))
          return default
      | .ok text =>
          match Yaml.read limits text with
          | .error .malformed => do
              Reported.report (notUsed ("Error parsing " ++ place.text ++ ": ..."))
              return default
          | .error (.scalar fault) => Reported.fail (.scalar fault)
          | .error (.undecodable fault) => Reported.fail (.undecodable fault)
          | .ok document => ofDocument limits.shown place document

def loadForRoot (limits : Limits) (system : FileSystem) (root : Location) :
    Reported Failure Config :=
  load limits system (root.child fileName)

def loadForWorkingDirectory (limits : Limits) (system : FileSystem) : Reported Failure Config :=
  loadForRoot limits system (system.absolute ⟨"", []⟩)

end ImportAtlas.Config
