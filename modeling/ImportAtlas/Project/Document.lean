import ImportAtlas.Json.Pairs
import ImportAtlas.Project.Context

/-! # Snapshot documents

Snapshots as they are read from JSON. Reading looks for the parts that it needs and takes
every other value as it is, so a document may hold things that no snapshot has; some of them
are refused only when the document is written again. Every snapshot has a document, which
is what reading its JSON gives.
-/

namespace ImportAtlas

open Text (Coded)

/-! ## Faults -/

/-- Why JSON is no part of a snapshot, or a document cannot be written. -/
inductive DocumentFault
  | missingKey (key : Coded)
  | noMembers (kind : String)
  | unnamedItems (kind index : String)
  | missingAbility (kind ability : String)
  | pairs (fault : Json.PairsFault)
deriving DecidableEq, Repr

def DocumentFault.message : DocumentFault → String
  | missingKey key => Text.quoted key
  | noMembers kind => "'" ++ kind ++ "' object is not subscriptable"
  | unnamedItems kind index => kind ++ " indices must be " ++ index
  | missingAbility kind ability =>
      "'" ++ kind ++ "' object has no attribute " ++ Text.quoted ability
  | pairs fault => fault.message

namespace Document

def required (document : Json) (name : Coded) : Except DocumentFault Json :=
  match document with
  | .object members =>
      match Keyed.get? name members with
      | some value => .ok value
      | none => .error (.missingKey name)
  | .text _ => .error (.unnamedItems "string" "integers, not 'str'")
  | .array _ => .error (.unnamedItems "list" "integers or slices, not str")
  | other => .error (.noMembers other.kindName)

def optional? (document : Json) (name : Coded) : Except DocumentFault (Option Json) :=
  match document with
  | .object members => .ok (Keyed.get? name members)
  | other => .error (.missingAbility other.kindName "get")

def optional (document : Json) (name : Coded) : Except DocumentFault Json :=
  (optional? document name).map fun value => value.getD .null

def rowOf (document : Json) (name : Coded) : Except DocumentFault (List Json) := do
  match ← optional? document name with
  | none => return []
  | some value =>
      match value.row? with
      | some items => return items
      | none => throw (.pairs (.notRow value.kindName))

def writtenMembers (name : Coded) (value : Json) :
    Except DocumentFault (List (Coded × Json)) :=
  match value with
  | .null => .ok []
  | value =>
      ((value.membersGiven).mapError DocumentFault.pairs).map fun members =>
        [(name, .object members)]

end Document

/-! ## Records -/

structure RecordDocument where
  path : Json
  extension : Json
deriving Repr, BEq

namespace RecordDocument

def ofJson (json : Json) : Except DocumentFault RecordDocument := do
  return ⟨← Document.required json "path", ← Document.optional json "extension"⟩

def toJson (record : RecordDocument) : Json :=
  .object [("path", record.path), ("extension", record.extension)]

end RecordDocument

/-! ## Files of a snapshot -/

/-- A file of a snapshot as it is read. -/
structure FileDocument where
  path : Json
  extension : Json
  imports : List Json
  importedBy : List Json
deriving Repr, BEq

def FileContext.document (context : FileContext) : FileDocument :=
  ⟨.text context.path, .ofText? (context.extension.map .ofText),
    context.imports.map fun path : String => .text path,
    context.importedBy.map fun path : String => .text path⟩

namespace FileDocument

def ofJson (json : Json) : Except DocumentFault FileDocument := do
  let path ← Document.required json "path"
  let extension ← Document.optional json "extension"
  let imports ← Document.rowOf json "imports"
  let importedBy ← Document.rowOf json "imported_by"
  return ⟨path, extension, imports, importedBy⟩

def toJson (file : FileDocument) : Json :=
  .object
    [("path", file.path), ("extension", file.extension), ("imports", .array file.imports),
     ("imported_by", .array file.importedBy)]

def summaryLine (file : FileDocument) : Coded :=
  FileContext.lineAbout (Datum.ofJson file.path).display file.imports.length
    file.importedBy.length

end FileDocument

/-! ## Manifests -/

/-- A manifest as it is read; a missing field is `null`. -/
structure ManifestDocument where
  name : Json
  version : Json
  dependencies : Json
  devDependencies : Json
  scripts : Json
deriving Repr, BEq

def Manifest.document (manifest : Manifest) : ManifestDocument :=
  let texts (field : Option (List (Coded × Coded))) : Json :=
    (field.map Manifest.textsToJson).getD .null
  ⟨.ofText? manifest.name, .ofText? manifest.version, texts manifest.dependencies,
    texts manifest.devDependencies, texts manifest.scripts⟩

namespace ManifestDocument

def ofJson (json : Json) : Except DocumentFault ManifestDocument := do
  return {
    name := ← Document.optional json "name"
    version := ← Document.optional json "version"
    dependencies := ← Document.optional json "dependencies"
    devDependencies := ← Document.optional json "dev_dependencies"
    scripts := ← Document.optional json "scripts" }

def present (name : Coded) (value : Json) : List (Coded × Json) :=
  match value with
  | .null => []
  | value => [(name, value)]

def toJson (manifest : ManifestDocument) : Except DocumentFault Json := do
  let dependencies ← Document.writtenMembers "dependencies" manifest.dependencies
  let devDependencies ← Document.writtenMembers "dev_dependencies" manifest.devDependencies
  let scripts ← Document.writtenMembers "scripts" manifest.scripts
  return .object
    (present "name" manifest.name ++ present "version" manifest.version ++ dependencies
      ++ devDependencies ++ scripts)

end ManifestDocument

/-! ## Snapshots -/

structure ContextDocument where
  files : List FileDocument
  manifest : Option ManifestDocument
deriving Repr, BEq

def ProjectContext.document (context : ProjectContext) : ContextDocument :=
  ⟨context.files.map FileContext.document, context.manifest.map Manifest.document⟩

namespace ContextDocument

def ofJson (json : Json) : Except DocumentFault ContextDocument := do
  let manifest ← Document.optional json "manifest"
  let files ← (← Document.rowOf json "files").mapM FileDocument.ofJson
  match manifest with
  | .null => return ⟨files, none⟩
  | manifest => return ⟨files, some (← ManifestDocument.ofJson manifest)⟩

def toJson (context : ContextDocument) : Except DocumentFault Json := do
  let manifest ←
    match context.manifest with
    | none => pure Json.null
    | some manifest => manifest.toJson
  return .object
    [("files", .array (context.files.map FileDocument.toJson)), ("manifest", manifest)]

def find? (context : ContextDocument) (path : Coded) : Option FileDocument :=
  context.files.find? fun file => (Datum.ofJson file.path).isSameKey (.text path)

def summaryLines (context : ContextDocument) : List Coded :=
  context.files.map FileDocument.summaryLine

end ContextDocument

end ImportAtlas
