import ImportAtlas.FileSystem.Basic

/-! # Changing a file system

Creating, writing and removing entries. An operation that is refused changes nothing.
-/

namespace ImportAtlas

namespace Entry

def withMember (name : String) (member : Option Entry) (members : List (String × Entry)) :
    List (String × Entry) :=
  match member with
  | some entry => Keyed.put name entry members
  | none => Keyed.erase name members

def withEntry (tree : Entry) (trail : Trail) (entry : Option Entry) : Entry :=
  match trail, tree with
  | [], _ => entry.getD tree
  | [name], .directory permission members => .directory permission (withMember name entry members)
  | name :: rest, .directory permission members =>
      match Keyed.get? name members with
      | none => tree
      | some member => .directory permission (Keyed.put name (member.withEntry rest entry) members)
  | _, _ => tree

def withPermission (permission : Permission) : Entry → Entry
  | .file _ content => .file permission content
  | .directory _ members => .directory permission members
  | .link target => .link target
  | .pipe _ => .pipe permission

end Entry

namespace FileSystem

def withEntry (system : FileSystem) (trail : Trail) (entry : Option Entry) : FileSystem :=
  { system with top := system.top.withEntry trail entry }

def create (system : FileSystem) (place : Location) (entry : Entry) : Except Cause FileSystem :=
  match system.lookup false place with
  | .error cause => .error cause
  | .ok (.entry _) => .error .present
  | .ok (.free trail) => .ok (system.withEntry trail (some entry))

def createDirectory (system : FileSystem) (place : Location) : Except Cause FileSystem :=
  system.create place (.directory .newDirectory [])

def ensureDirectory (system : FileSystem) (place : Location) : Except Cause FileSystem :=
  match system.createDirectory place with
  | .ok system => .ok system
  | .error .missing => .error .missing
  | .error cause =>
      match system.isDirectory? place with
      | .ok true => .ok system
      | .ok false => .error cause
      | .error other => .error other

/-- Create a directory and the directories on the way to it, unless they are there already.
The last names of the place are given in reverse. -/
def ensureDirectoriesFrom (system : FileSystem) (anchor : String) :
    (reversed : List String) → Except SystemFault FileSystem
  | [] =>
      let place : Location := ⟨anchor, []⟩
      (system.ensureDirectory place).mapError fun cause => ⟨cause, place.text⟩
  | name :: above =>
      let place : Location := ⟨anchor, (name :: above).reverse⟩
      match system.ensureDirectory place with
      | .ok system => .ok system
      | .error .missing =>
          match ensureDirectoriesFrom system anchor above with
          | .error fault => .error fault
          | .ok system =>
              (system.ensureDirectory place).mapError fun cause => ⟨cause, place.text⟩
      | .error cause => .error ⟨cause, place.text⟩

/-- Create a directory and the directories on the way to it, unless they are there already. -/
def ensureDirectories (system : FileSystem) (place : Location) : Except SystemFault FileSystem :=
  system.ensureDirectoriesFrom place.anchor place.parts.reverse

def edit (system : FileSystem) (place : Location) (change : List UInt8 → List UInt8) :
    Except Cause FileSystem :=
  match system.lookup true place with
  | .error cause => .error cause
  | .ok (.free trail) => .ok (system.withEntry trail (some (.file .newFile (change []))))
  | .ok (.entry trail) =>
      match system.top.at? trail with
      | some (.file permission content) =>
          .ok (system.withEntry trail (some (.file permission (change content))))
      | some (.directory _ _) => .error .isDirectory
      | _ => .ok system

def write (system : FileSystem) (place : Location) (content : List UInt8) :
    Except Cause FileSystem :=
  system.edit place fun _ => content

def appendTo (system : FileSystem) (place : Location) (content : List UInt8) :
    Except Cause FileSystem :=
  system.edit place (· ++ content)

def remove (system : FileSystem) (place : Location) : Except Cause FileSystem :=
  match system.trailOf false place with
  | .error cause => .error cause
  | .ok trail => .ok (system.withEntry trail none)

def setPermission (system : FileSystem) (place : Location) (permission : Permission) :
    Except Cause FileSystem :=
  match system.trailOf true place with
  | .error cause => .error cause
  | .ok trail =>
      match system.top.at? trail with
      | none => .error .missing
      | some entry => .ok (system.withEntry trail (some (entry.withPermission permission)))

end FileSystem

end ImportAtlas
