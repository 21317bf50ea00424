import ImportAtlas.Datum
import ImportAtlas.Json.Basic

/-! # Manifests

The part of a package manifest that is passed on. Fields with a meaning have to have
their shape; everything else in a manifest is ignored.
-/

namespace ImportAtlas

open Text (Coded)

structure Manifest where
  name : Option Coded
  version : Option Coded
  dependencies : Option (List (Coded × Coded))
  devDependencies : Option (List (Coded × Coded))
  scripts : Option (List (Coded × Coded))
deriving DecidableEq, Repr, Inhabited

namespace Manifest

/-- Why a JSON value is no manifest. -/
inductive Fault
  | notObject (kind : String)
  | notText (field : String)
  | notTexts (field : String)
deriving DecidableEq, Repr

def Fault.message : Fault → String
  | notObject kind => "Manifest must be a JSON object, got " ++ kind
  | notText field => "Manifest field '" ++ field ++ "' must be a string"
  | notTexts field => "Manifest field '" ++ field ++ "' must map strings to strings"

/-! ## Reading manifests -/

def textField (document : Json) (field : String) : Except Fault (Option Coded) :=
  match document.member? field with
  | none | some .null => .ok none
  | some (.text value) => .ok (some value)
  | some _ => .error (.notText field)

def textMembers? (members : List (Coded × Json)) : Option (List (Coded × Coded)) :=
  members.mapM fun (name, value) => value.text?.map fun text => (name, text)

def textsField (document : Json) (field : String) :
    Except Fault (Option (List (Coded × Coded))) :=
  match document.member? field with
  | none | some .null => .ok none
  | some (.object members) =>
      match textMembers? members with
      | some texts => .ok (some texts)
      | none => .error (.notTexts field)
  | some _ => .error (.notTexts field)

def parse (document : Json) : Except Fault Manifest :=
  match document with
  | .object _ => do
      let name ← textField document "name"
      let version ← textField document "version"
      let dependencies ← textsField document "dependencies"
      let devDependencies ← textsField document "devDependencies"
      let scripts ← textsField document "scripts"
      return { name, version, dependencies, devDependencies, scripts }
  | _ => .error (.notObject (Datum.ofJson document).kindName)

/-! ## Manifests in snapshots -/

def textsToJson (texts : List (Coded × Coded)) : Json :=
  .object (texts.map fun (name, text) => (name, .text text))

def toJson (manifest : Manifest) : Json :=
  .object <|
    Json.optionalMember "name" (manifest.name.map .text)
      ++ Json.optionalMember "version" (manifest.version.map .text)
      ++ Json.optionalMember "dependencies" (manifest.dependencies.map textsToJson)
      ++ Json.optionalMember "dev_dependencies" (manifest.devDependencies.map textsToJson)
      ++ Json.optionalMember "scripts" (manifest.scripts.map textsToJson)

end Manifest

end ImportAtlas
