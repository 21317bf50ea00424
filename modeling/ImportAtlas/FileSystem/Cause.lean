import ImportAtlas.Path.Location
import ImportAtlas.Text.Quoted

/-! # Causes of failure in a file system

Why a place cannot be used, with the wording that the user sees.
-/

namespace ImportAtlas

inductive Cause
  | missing
  | denied
  | present
  | notDirectory
  | isDirectory
  | nameTooLong
  | linkLoop
  | nullCharacter
deriving DecidableEq, Repr, Inhabited

namespace Cause

def number : Cause → Nat
  | missing => 2
  | denied => 13
  | present => 17
  | notDirectory => 20
  | isDirectory => 21
  | nameTooLong => 36
  | linkLoop => 40
  | nullCharacter => 22

def text : Cause → String
  | missing => "No such file or directory"
  | denied => "Permission denied"
  | present => "File exists"
  | notDirectory => "Not a directory"
  | isDirectory => "Is a directory"
  | nameTooLong => "File name too long"
  | linkLoop => "Too many levels of symbolic links"
  | nullCharacter => "embedded null byte"

def isAbsence : Cause → Bool
  | missing | notDirectory | linkLoop | nullCharacter => true
  | _ => false

end Cause

/-- A refused operation with the place as it was named. A name with a null character does
not reach the file system. -/
structure SystemFault where
  cause : Cause
  place : String
deriving DecidableEq, Repr, Inhabited

def SystemFault.message (fault : SystemFault) : String :=
  if fault.cause = .nullCharacter then fault.cause.text
  else
    "[Errno " ++ toString fault.cause.number ++ "] " ++ fault.cause.text ++ ": "
      ++ Text.quoted fault.place

end ImportAtlas
