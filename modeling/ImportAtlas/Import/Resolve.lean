import ImportAtlas.Log.Event
import ImportAtlas.Path.Lexical
import ImportAtlas.Text.Quoted

/-! # Resolution of import targets

A relative target is joined to the directory of the importing file and tried as it
stands, with each resolution extension, and as a directory with an index file. The
first candidate that is a known project file wins; the file system is not consulted.
-/

namespace ImportAtlas.Import

def resolutionExtensions : List String := ["ts", "tsx", "js", "jsx"]

def isRelative (target : String) : Bool :=
  target.toList.head? = some '.'

def basePath (target importer : String) : String :=
  Path.normalize (Path.join (Path.directoryName (Path.slashed importer)) target)

/-- Whether a path names a directory by its form alone, so that no extension fits it. -/
def isDirectoryName (path : String) : Bool :=
  Path.baseName path = "." ∨ Path.baseName path = ".."

def candidatesAt (base : String) : List String :=
  let files :=
    if isDirectoryName base then []
    else resolutionExtensions.map fun extension => base ++ "." ++ extension
  let indexes := resolutionExtensions.map fun extension =>
    Path.normalize (Path.join base ("index." ++ extension))
  base :: files ++ indexes

def candidates (target importer : String) : List String :=
  if isRelative target then candidatesAt (basePath target importer) else []

def resolve? (isKnown : String → Bool) (target importer : String) : Option String :=
  (candidates target importer).find? isKnown

def unresolved (target importer : String) : Log.Event :=
  .plain Log.Level.debug Log.Logger.resolution
    ("Unresolved import " ++ Text.quoted target ++ " in " ++ importer)

end ImportAtlas.Import
