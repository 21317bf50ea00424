import ImportAtlas.FileSystem.Basic
import ImportAtlas.Text.Portion

/-! # Reading text files

Text files are UTF-8, with the three kinds of line ends read as one. They are read whole,
line by line or in portions.
-/

namespace ImportAtlas.FileSystem

inductive TextFault
  | refused (cause : Cause)
  | undecodable
deriving DecidableEq, Repr

def decodeText? (bytes : List UInt8) : Option (List Char) :=
  (Text.Utf8.decode? bytes).map Text.unifyNewlines

def readText (system : FileSystem) (place : Location) : Except TextFault (List Char) :=
  match system.read place with
  | .error cause => .error (.refused cause)
  | .ok bytes => (decodeText? bytes).elim (.error .undecodable) .ok

def readPortions (system : FileSystem) (place : Location) : Except Cause Text.Portioned :=
  (system.read place).map Text.Portioned.ofBytes

/-- The lines of the file at a place, with a replacement character for what is not UTF-8. -/
def readLines (system : FileSystem) (place : Location) : Except Cause (List Text.Coded) :=
  (system.read place).map fun bytes =>
    (Text.lines (Text.Utf8.decodeLenient bytes)).map Text.Coded.ofChars

end ImportAtlas.FileSystem
