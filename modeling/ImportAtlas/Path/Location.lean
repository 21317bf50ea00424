import ImportAtlas.Path.Lexical

/-! # Locations

Places in a file system as programs name them: an anchor and the components below
it, with empty and `.` components dropped and `..` kept, since only the file system
knows where it leads.
-/

namespace ImportAtlas

/-- A place in a file system. -/
structure Location where
  anchor : String
  parts : List String
deriving DecidableEq, Repr, Inhabited

namespace Location

def ofText (text : String) : Location where
  anchor := Path.anchor text
  parts := (Path.components text).filter fun part => part ≠ "" ∧ part ≠ "."

def text (location : Location) : String :=
  let joined := location.anchor ++ Text.joinText "/" location.parts
  if joined.isEmpty then "." else joined

def isAbsolute (location : Location) : Bool :=
  !location.anchor.isEmpty

def append (base next : Location) : Location :=
  if next.isAbsolute then next else { base with parts := base.parts ++ next.parts }

def child (base : Location) (text : String) : Location :=
  base.append (ofText text)

def relativeTo? (location base : Location) : Option Location :=
  if location.anchor = base.anchor ∧ base.parts.isPrefixOf location.parts then
    some ⟨"", location.parts.drop base.parts.length⟩
  else none

end Location

end ImportAtlas
