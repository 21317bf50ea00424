import ImportAtlas.Manifest.Basic
import ImportAtlas.Project.Record

/-! # Snapshots

A project as it was at one moment: every file with its neighbours in the import graph, and
the manifest if there is one. A snapshot can be written as JSON.
-/

namespace ImportAtlas

open Text (Coded)

structure FileContext where
  path : String
  extension : Option String
  imports : List String
  importedBy : List String
deriving DecidableEq, Repr, Inhabited

namespace FileContext

def toJson (context : FileContext) : Json :=
  .object
    [("path", .text context.path), ("extension", .ofText? (context.extension.map .ofText)),
     ("imports", .ofTexts context.imports), ("imported_by", .ofTexts context.importedBy)]

def lineAbout (path : Coded) (imports importers : Nat) : Coded :=
  "- " ++ path ++ " (imports: " ++ toString imports ++ ", imported by: " ++ toString importers
    ++ ")"

def summaryLine (context : FileContext) : Coded :=
  lineAbout context.path context.imports.length context.importedBy.length

end FileContext

structure ProjectContext where
  files : List FileContext
  manifest : Option Manifest
deriving DecidableEq, Repr, Inhabited

namespace ProjectContext

def toJson (context : ProjectContext) : Json :=
  .object
    [("files", .array (context.files.map FileContext.toJson)),
     ("manifest", (context.manifest.map Manifest.toJson).getD .null)]

def find? (context : ProjectContext) (path : String) : Option FileContext :=
  context.files.find? fun file => file.path = path

def summaryLines (context : ProjectContext) : List Coded :=
  context.files.map FileContext.summaryLine

/-- The line above the files: the name of the project with its version. A manifest without
a name gives none. -/
def header? (context : ProjectContext) : Option Coded := do
  let manifest ← context.manifest
  let name ← manifest.name.filter (· ≠ [])
  match manifest.version.filter (· ≠ []) with
  | some version => return "# " ++ name ++ " " ++ version
  | none => return "# " ++ name

def summary (context : ProjectContext) : Coded :=
  Text.join ['\n'] (context.header?.toList ++ context.summaryLines)

end ProjectContext

end ImportAtlas
