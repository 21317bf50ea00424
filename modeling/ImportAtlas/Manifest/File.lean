import ImportAtlas.Failure
import ImportAtlas.FileSystem.Name
import ImportAtlas.FileSystem.Source
import ImportAtlas.Json.Parser
import ImportAtlas.Manifest.Basic
import ImportAtlas.Reported

/-! # Manifest files

A manifest is optional: one that is missing, cannot be read or is malformed is reported
for tracing and otherwise counts as absent.
-/

namespace ImportAtlas.Manifest

def event (message : Text.Coded) : Log.Event :=
  .plain Log.Level.debug Log.Logger.manifest message

def absent (message : Text.Coded) : Reported Failure (Option Manifest) := do
  Reported.report (event message)
  return none

def loadAt (limit : Nat) (system : FileSystem) (place : Location) :
    Reported Failure (Option Manifest) :=
  match system.isFile? place with
  | .error cause => Reported.fail (.system ⟨cause, place.text⟩)
  | .ok false => pure none
  | .ok true =>
      match system.readText place with
      | .error _ => absent ("Could not read manifest " ++ place.text ++ ": ...")
      | .ok text =>
          match Json.parseWithin limit text with
          | .error (.overlongInteger digits) => Reported.fail (.overlongInteger digits)
          | .error (.nested isObject) => Reported.fail (.nested isObject)
          | .error .malformed => absent ("Manifest " ++ place.text ++ " is not valid JSON: ...")
          | .ok document =>
              match parse document with
              | .ok manifest => pure (some manifest)
              | .error fault =>
                  absent ("Ignoring malformed manifest " ++ place.text ++ ": " ++ fault.message)

def load (limit : Nat) (system : FileSystem) (root : Location) (filename : Text.Coded) :
    Reported Failure (Option Manifest) :=
  match root.named? filename with
  | none => pure none
  | some place => loadAt limit system place

end ImportAtlas.Manifest
