import ImportAtlas.Datum

/-! # Configuration

Five parameters with defaults. A parameter takes a datum only if it has the right kind
and shape, so every configuration is usable as it stands.
-/

namespace ImportAtlas

open Text (Coded)

structure Config where
  /-- Ignore patterns that apply at the root, with the lowest precedence. -/
  ignorePatterns : List Coded
  /-- Names of the ignore files of a directory, lowest precedence first. -/
  ignoreFiles : List Coded
  /-- Where the manifest lies below the root. -/
  manifestFilename : Coded
  /-- Whether the manifest is read at all. -/
  readManifest : Bool
  /-- Larger files are not scanned for imports, in units of 1024 bytes. -/
  maxFileSizeKb : Option Nat
deriving DecidableEq, Repr, Inhabited

namespace Config

def default : Config where
  ignorePatterns := []
  ignoreFiles := [".gitignore", ".ignore"]
  manifestFilename := "package.json"
  readManifest := true
  maxFileSizeKb := none

def maxFileSize (config : Config) : Option Nat :=
  config.maxFileSizeKb.map (· * 1024)

inductive Parameter
  | ignorePatterns
  | ignoreFiles
  | manifestFilename
  | readManifest
  | maxFileSizeKb
deriving DecidableEq, Repr

namespace Parameter

def all : List Parameter :=
  [ignorePatterns, ignoreFiles, manifestFilename, readManifest, maxFileSizeKb]

def name : Parameter → String
  | ignorePatterns => "ignore_patterns"
  | ignoreFiles => "ignore_files"
  | manifestFilename => "manifest_filename"
  | readManifest => "read_manifest"
  | maxFileSizeKb => "max_file_size_kb"

def ofName? (text : Coded) : Option Parameter :=
  all.find? fun parameter => Coded.ofText parameter.name = text

end Parameter

def get (config : Config) : Parameter → Datum
  | .ignorePatterns => .list (config.ignorePatterns.map .text)
  | .ignoreFiles => .list (config.ignoreFiles.map .text)
  | .manifestFilename => .text config.manifestFilename
  | .readManifest => .bool config.readManifest
  | .maxFileSizeKb => (config.maxFileSizeKb.map fun size => Datum.int size).getD .null

def nonemptyText? (datum : Datum) : Option Coded :=
  datum.text?.filter (· ≠ [])

def texts? : Datum → Option (List Coded)
  | .list items => items.mapM nonemptyText?
  | _ => none

def filename? (datum : Datum) : Option Coded :=
  datum.text?.filter fun value => !value.isBlank

def truth? : Datum → Option Bool
  | .bool value => some value
  | _ => none

def size? : Datum → Option (Option Nat)
  | .null => some none
  | .int value => if 0 < value then some (some value.toNat) else none
  | _ => none

def set? (config : Config) (parameter : Parameter) (value : Datum) : Option Config :=
  match parameter with
  | .ignorePatterns => (texts? value).map fun patterns => { config with ignorePatterns := patterns }
  | .ignoreFiles => (texts? value).map fun names => { config with ignoreFiles := names }
  | .manifestFilename =>
      (filename? value).map fun filename => { config with manifestFilename := filename }
  | .readManifest => (truth? value).map fun read => { config with readManifest := read }
  | .maxFileSizeKb => (size? value).map fun size => { config with maxFileSizeKb := size }

def parameterOf? : Datum → Option Parameter
  | .text name => Parameter.ofName? name
  | _ => none

/-! ## Strict reading -/

/-- Why entries are no configuration. -/
inductive Fault
  | unknown (key : Datum)
  | invalid (parameter : Parameter) (value : Datum)
  /-- What is wrong cannot be shown. -/
  | unshown (fault : WriteFault)
deriving Repr

def showing : String := "getting the repr of an object"

def Fault.message : Fault → Coded
  | unknown key => "Unknown configuration parameter '" ++ key.display ++ "'"
  | invalid parameter value =>
      "Invalid value for '" ++ parameter.name ++ "': " ++ value.literal
  | unshown fault => fault.message showing

def Fault.about (room : Nat) (datum : Datum) (fault : Fault) : Fault :=
  (datum.firstFault room).elim fault unshown

def enter (room : Nat) (config : Config) (entry : Datum × Datum) : Except Fault Config :=
  match parameterOf? entry.1 with
  | none => .error ((Fault.unknown entry.1).about room entry.1)
  | some parameter =>
      match config.set? parameter entry.2 with
      | none => .error ((Fault.invalid parameter entry.2).about room entry.2)
      | some config => .ok config

/-- The configuration that a mapping gives; the first entry that does not fit is refused. -/
def ofMapping (room : Nat) (entries : List (Datum × Datum)) : Except Fault Config :=
  entries.foldlM (enter room) default

end Config

end ImportAtlas
