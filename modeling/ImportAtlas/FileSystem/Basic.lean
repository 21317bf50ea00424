import ImportAtlas.FileSystem.Cause
import ImportAtlas.Keyed
import ImportAtlas.Text.Utf8

/-! # File systems

A file system is a tree of directories, regular files, symbolic links and pipes, with
the directory that relative places are read from. Only what a reader can tell apart is
kept of the permissions: whether an entry can be read, and whether a directory can be
passed through.
-/

namespace ImportAtlas

/-- What others than the owner may do with an entry. -/
structure Permission where
  canRead : Bool
  canSearch : Bool
deriving DecidableEq, Repr, Inhabited

def Permission.ofMode (mode : Nat) : Permission :=
  ⟨decide (4 ≤ mode % 8), mode % 2 = 1⟩

def Permission.newFile : Permission := ⟨true, false⟩

def Permission.newDirectory : Permission := ⟨true, true⟩

inductive Entry
  | file (permission : Permission) (content : List UInt8)
  | directory (permission : Permission) (members : List (String × Entry))
  | link (target : String)
  | pipe (permission : Permission)
deriving Repr, Inhabited

abbrev Trail := List String

namespace Entry

def isDirectory : Entry → Bool
  | directory _ _ => true
  | _ => false

def isFile : Entry → Bool
  | file _ _ => true
  | _ => false

def isLink : Entry → Bool
  | link _ => true
  | _ => false

def permission : Entry → Permission
  | file permission _ | directory permission _ | pipe permission => permission
  | link _ => ⟨true, true⟩

def at? (entry : Entry) : Trail → Option Entry
  | [] => some entry
  | name :: trail =>
      match entry with
      | directory _ members => (Keyed.get? name members).bind fun member => member.at? trail
      | _ => none

end Entry

/-- A file system as one user sees it. A privileged user is not bound by permissions. -/
structure FileSystem where
  top : Entry
  workingDirectory : Trail
  isPrivileged : Bool
deriving Repr, Inhabited

namespace FileSystem

def canRead (system : FileSystem) (entry : Entry) : Bool :=
  system.isPrivileged || entry.permission.canRead

def canSearch (system : FileSystem) (entry : Entry) : Bool :=
  system.isPrivileged || entry.permission.canSearch

/-! ## Looking up places -/

def linkLimit : Nat := 40

def isTooLong (limit : Nat) (text : String) : Bool :=
  decide (limit < (Text.Utf8.encode text.toList).length)

/-- What a lookup comes to: an entry, or a free name in a directory. -/
inductive Destination
  | entry (trail : Trail)
  | free (trail : Trail)
deriving DecidableEq, Repr

def linkParts (target : String) : List String :=
  let parts := (Path.components target).filter (· ≠ "")
  if target.toList.getLast? = some '/' then parts ++ ["."] else parts

/-- Follow names from a directory on. Links on the way are followed, by what is done with the
directory where a link starts and the names that it puts in its place; one at the end is
followed only if that is asked for. -/
def followParts (system : FileSystem) (followsLast : Bool)
    (followLink : Trail → List String → Except Cause Destination) (trail : Trail) :
    List String → Except Cause Destination
  | [] => .ok (.entry trail)
  | part :: rest =>
      match system.top.at? trail with
      | some (.directory permission members) =>
          if !system.canSearch (.directory permission members) then .error .denied
          else if part = "." then followParts system followsLast followLink trail rest
          else if part = ".." then followParts system followsLast followLink trail.dropLast rest
          else if isTooLong 255 part then .error .nameTooLong
          else
            match Keyed.get? part members with
            | none => if rest.isEmpty then .ok (.free (trail ++ [part])) else .error .missing
            | some (.link target) =>
                if rest.isEmpty && !followsLast then .ok (.entry (trail ++ [part]))
                else
                  let start := if target.toList.head? = some '/' then [] else trail
                  followLink start (linkParts target ++ rest)
            | some _ => followParts system followsLast followLink (trail ++ [part]) rest
      | some _ => .error .notDirectory
      | none => .error .missing

def follow (system : FileSystem) (followsLast : Bool) :
    (links : Nat) → Trail → List String → Except Cause Destination
  | 0 => system.followParts followsLast fun _ _ => .error .linkLoop
  | links + 1 => system.followParts followsLast (follow system followsLast links)

def lookup (system : FileSystem) (followsLast : Bool) (place : Location) :
    Except Cause Destination :=
  if place.text.toList.contains '\x00' then .error .nullCharacter
  else if isTooLong 4095 place.text then .error .nameTooLong
  else
    follow system followsLast linkLimit
      (if place.isAbsolute then [] else system.workingDirectory) place.parts

def trailOf (system : FileSystem) (followsLast : Bool) (place : Location) : Except Cause Trail :=
  match system.lookup followsLast place with
  | .error cause => .error cause
  | .ok (.free _) => .error .missing
  | .ok (.entry trail) => .ok trail

def entryAt (system : FileSystem) (followsLast : Bool) (place : Location) : Except Cause Entry :=
  match system.trailOf followsLast place with
  | .error cause => .error cause
  | .ok trail =>
      match system.top.at? trail with
      | none => .error .missing
      | some entry => .ok entry

/-! ## Questions about places -/

def test (system : FileSystem) (followsLast : Bool) (condition : Entry → Bool)
    (place : Location) : Except Cause Bool :=
  match system.entryAt followsLast place with
  | .ok entry => .ok (condition entry)
  | .error cause => if cause.isAbsence then .ok false else .error cause

def exists? (system : FileSystem) (place : Location) : Except Cause Bool :=
  system.test true (fun _ => true) place

def isFile? (system : FileSystem) (place : Location) : Except Cause Bool :=
  system.test true Entry.isFile place

def isDirectory? (system : FileSystem) (place : Location) : Except Cause Bool :=
  system.test true Entry.isDirectory place

def isLink? (system : FileSystem) (place : Location) : Except Cause Bool :=
  system.test false Entry.isLink place

def isAccessible (system : FileSystem) (place : Location) : Bool :=
  match system.entryAt true place with
  | .ok entry => system.canRead entry && system.canSearch entry
  | .error _ => false

def list (system : FileSystem) (place : Location) : Except Cause (List (String × Entry)) :=
  match system.entryAt true place with
  | .error cause => .error cause
  | .ok (.directory permission members) =>
      if system.canRead (.directory permission members) then .ok members else .error .denied
  | .ok _ => .error .notDirectory

def read (system : FileSystem) (place : Location) : Except Cause (List UInt8) :=
  match system.entryAt true place with
  | .error cause => .error cause
  | .ok entry =>
      if !system.canRead entry then .error .denied
      else
        match entry with
        | .file _ content => .ok content
        | .directory _ _ => .error .isDirectory
        | _ => .ok []

def directorySize : Nat := 4096

def size (system : FileSystem) (place : Location) : Except Cause Nat :=
  match system.entryAt true place with
  | .error cause => .error cause
  | .ok (.file _ content) => .ok content.length
  | .ok (.directory _ _) => .ok directorySize
  | .ok _ => .ok 0

def absolute (system : FileSystem) (place : Location) : Location :=
  if place.isAbsolute then place else ⟨"/", system.workingDirectory ++ place.parts⟩

end FileSystem

end ImportAtlas
