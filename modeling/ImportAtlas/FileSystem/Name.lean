import ImportAtlas.Path.Location
import ImportAtlas.Text.Coded
import ImportAtlas.Text.Utf8

/-! # Names of files

A file system takes a name as a row of bytes. A text is such a row when its characters are
encoded; half of a surrogate pair can stand for a byte that is part of no character, and a
text with any other half names no file.
-/

namespace ImportAtlas

open Text (Code Coded)

namespace Text

def Code.nameBytes? : Code → Option (List UInt8)
  | .char value => some (Utf8.encodeChar value)
  | .half position =>
      if 0x480 ≤ position.val ∧ position.val < 0x500 then
        some [UInt8.ofNat (position.val - 0x400)]
      else none

def Coded.nameBytes? (text : Coded) : Option (List UInt8) :=
  (text.mapM Code.nameBytes?).map List.flatten

end Text

namespace Location

/-- The place with some bytes as its name, which are not UTF-8. A byte that is part of no
character is a slash inside a component, as there is in the name of no file. -/
def ofStrayBytes (bytes : List UInt8) : Location :=
  let chars := (Text.Utf8.pieces bytes).flatMap fun
    | .char char => [some char]
    | .fault _ count _ => List.replicate count none
  let components := (Text.split (some '/') chars).map fun part =>
    String.ofList (part.map fun char => char.getD '/')
  { anchor := Path.anchor (String.ofList (Text.Utf8.decodeLenient bytes))
    parts := components.filter fun part => part ≠ "" ∧ part ≠ "." }

def ofName? (name : Coded) : Option Location :=
  name.nameBytes?.map fun bytes =>
    match Text.Utf8.decode? bytes with
    | some chars => .ofText (String.ofList chars)
    | none => ofStrayBytes bytes

def named? (base : Location) (name : Coded) : Option Location :=
  (ofName? name).map base.append

def textOfName (name : Coded) : Coded :=
  let first := name.firstStandIn
  .withoutStandIns first (ofText (name.withStandIns first)).text

end Location

end ImportAtlas
