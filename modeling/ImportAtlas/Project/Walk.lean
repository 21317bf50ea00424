import ImportAtlas.Failure
import ImportAtlas.FileSystem.Source
import ImportAtlas.Ignore.Rules
import ImportAtlas.Project.Record

/-! # Listing project files

A walk over the directories below a root. In every directory the ignore files are read
first; then the directories that are ignored are left out, and the regular files that are
not ignored are listed, each in the order of names; then the directories are visited.
Links are neither followed nor listed, and `.git` is left out whatever the rules say. A
directory that cannot be listed is reported and counts as empty.
-/

namespace ImportAtlas

def gitDirectory : String := ".git"

/-- What a walk has found: records in order, and the number of directories that could not
be listed. -/
structure Found where
  records : List FileRecord
  errors : Nat
deriving DecidableEq, Repr, Inhabited

namespace Found

def nothing : Found := ⟨[], 0⟩

def append (first second : Found) : Found :=
  ⟨first.records ++ second.records, first.errors + second.errors⟩

end Found

structure Scan where
  system : FileSystem
  root : Location
  ignorePatterns : List Text.Coded
  ignoreFiles : List Location

abbrev Visit := List String → Ignore.Rules → Reported Failure Found

/-- A member of a directory, with its visit for the case that it is one itself. -/
structure Member where
  name : String
  entry : Entry
  visit : Visit

namespace Scan

def pathText (names : List String) : String := Text.joinText "/" names

def place (scan : Scan) (names : List String) : Location :=
  { scan.root with parts := scan.root.parts ++ names }

def event (scan : Scan) (level : Log.Level) (message : Text.Coded) (fields : Log.Fields) :
    Log.Event :=
  ⟨level, Log.Logger.enumeration, message, ("root", .text scan.root.text) :: fields⟩

def refused {α : Type} (cause : Cause) (place : Location) : Reported Failure α :=
  Reported.fail (.system ⟨cause, place.text⟩)

/-! ## Rules -/

def ignoreLines (scan : Scan) (place : Location) : Reported Failure (List Text.Coded) :=
  match scan.system.readLines place with
  | .ok lines => pure lines
  | .error cause => do
      Reported.report (.plain Log.Level.warning Log.Logger.enumeration
        ("Could not read ignore file " ++ place.text ++ ": "
          ++ SystemFault.message ⟨cause, place.text⟩))
      return []

def addFile (scan : Scan) (rules : Ignore.Rules) (base : String) (place : Location) :
    Reported Failure Ignore.Rules := do
  let lines ← scan.ignoreLines place
  (rules.withLines base lines place.text).mapError .pattern

def excludePlace (scan : Scan) : Location := scan.place [gitDirectory, "info", "exclude"]

def rootRules (scan : Scan) : Reported Failure Ignore.Rules := do
  let rules ←
    (Ignore.Rules.empty.withLines "" scan.ignorePatterns "configuration").mapError Failure.pattern
  match scan.system.isFile? scan.excludePlace with
  | .error cause => refused cause scan.excludePlace
  | .ok false => return rules
  | .ok true => scan.addFile rules "" scan.excludePlace

def ignoreFileRules (scan : Scan) (names : List String) (rules : Ignore.Rules) (file : Location) :
    Reported Failure Ignore.Rules :=
  let place := (scan.place names).append file
  match scan.system.isFile? place with
  | .error cause => refused cause place
  | .ok false => pure rules
  | .ok true =>
      match scan.system.isLink? place with
      | .error cause => refused cause place
      | .ok true => pure rules
      | .ok false => scan.addFile rules (pathText names) place

/-- Rules extended by some ignore files of a directory, the later ones taking precedence. -/
def directoryRules (scan : Scan) (names : List String) (rules : Ignore.Rules) :
    (ignoreFiles : List Location) → Reported Failure Ignore.Rules
  | [] => pure rules
  | file :: rest => do
      let rules ← scan.ignoreFileRules names rules file
      scan.directoryRules names rules rest

/-! ## Members of a directory -/

def leadsToDirectory (scan : Scan) (names : List String) (member : Member) : Bool :=
  match member.entry with
  | .directory _ _ => true
  | .link _ =>
      match scan.system.isDirectory? (scan.place (names ++ [member.name])) with
      | .ok answer => answer
      | .error _ => false
  | _ => false

def keptDirectories (scan : Scan) (names : List String) (rules : Ignore.Rules) :
    List Member → Reported Failure (List Member)
  | [] => pure []
  | member :: rest =>
      let path := pathText (names ++ [member.name])
      if member.name = gitDirectory then scan.keptDirectories names rules rest
      else if rules.isIgnored path true then do
        Reported.report
          (scan.event Log.Level.debug ("Pruning ignored directory: " ++ path) [])
        scan.keptDirectories names rules rest
      else do
        let kept ← scan.keptDirectories names rules rest
        return member :: kept

def record? (scan : Scan) (names : List String) (rules : Ignore.Rules) (member : Member) :
    Reported Failure (Option FileRecord) :=
  let file := scan.place (names ++ [member.name])
  match scan.system.entryAt false file with
  | .error cause => do
      Reported.report (scan.event Log.Level.warning
        ("Could not stat " ++ file.text ++ ": " ++ SystemFault.message ⟨cause, file.text⟩) [])
      return none
  | .ok entry =>
      let path := pathText (names ++ [member.name])
      if !entry.isFile || (names ++ [member.name]).contains gitDirectory
          || rules.isIgnored path false then
        pure none
      else pure (some (.ofPath path))

def fileRecords (scan : Scan) (names : List String) (rules : Ignore.Rules) :
    List Member → Reported Failure (List FileRecord)
  | [] => pure []
  | member :: rest => do
      let record ← scan.record? names rules member
      let records ← scan.fileRecords names rules rest
      return record.toList ++ records

def visitAll (names : List String) (rules : Ignore.Rules) : List Member → Reported Failure Found
  | [] => pure .nothing
  | member :: rest => do
      let first ← member.visit (names ++ [member.name]) rules
      let others ← visitAll names rules rest
      return first.append others

/-! ## The walk -/

def walkText (scan : Scan) (names : List String) : String :=
  if names.isEmpty then scan.root.text else Path.join scan.root.text (pathText names)

def visitDirectory (scan : Scan) (members : List Member) : Visit := fun names rules =>
  match scan.system.list (scan.place names) with
  | .error cause => do
      Reported.report (scan.event Log.Level.warning
        ("Error walking directory: " ++ scan.walkText names ++ ": " ++ cause.text) [])
      return ⟨[], 1⟩
  | .ok _ => do
      let rules ← scan.directoryRules names rules scan.ignoreFiles
      let sorted := members.mergeSort fun left right => left.name ≤ right.name
      let kept ← scan.keptDirectories names rules (sorted.filter (scan.leadsToDirectory names))
      let records ←
        scan.fileRecords names rules (sorted.filter fun member =>
          !scan.leadsToDirectory names member)
      let below ← visitAll names rules kept
      return ⟨records ++ below.records, below.errors⟩

mutual

def visit (scan : Scan) : Entry → Visit
  | .directory _ members => scan.visitDirectory (visits scan members)
  | _ => fun _ _ => pure .nothing

def visits (scan : Scan) : List (String × Entry) → List Member
  | [] => []
  | (name, entry) :: rest => ⟨name, entry, visit scan entry⟩ :: visits scan rest

end

def validateRoot (system : FileSystem) (root : Location) : Except Failure Unit :=
  match system.exists? root with
  | .error cause => .error (.system ⟨cause, root.text⟩)
  | .ok false => .error (.missingRoot root.text)
  | .ok true =>
      match system.isDirectory? root with
      | .error cause => .error (.system ⟨cause, root.text⟩)
      | .ok false => .error (.rootNotDirectory root.text)
      | .ok true =>
          if system.isAccessible root then .ok () else .error (.unreadableRoot root.text)

def run (scan : Scan) : Reported Failure Found := do
  Reported.ofExcept (validateRoot scan.system scan.root)
  let rules ← scan.rootRules
  match scan.system.entryAt true scan.root with
  | .error cause => refused cause scan.root
  | .ok entry => do
      let found ← scan.visit entry [] rules
      Reported.report (scan.event Log.Level.debug
        ("Enumerated " ++ toString found.records.length ++ " files")
        [("files", .int found.records.length)])
      return found

end Scan

end ImportAtlas
