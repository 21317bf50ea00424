import ImportAtlas.Json.Basic
import ImportAtlas.Path.Lexical

/-! # File records

A project file as it is found: its path, relative to the root and with slashes, and its
extension.
-/

namespace ImportAtlas

structure FileRecord where
  path : String
  extension : Option String
deriving DecidableEq, Repr, Inhabited

namespace FileRecord

def ofPath (path : String) : FileRecord := ⟨path, Path.extension? path⟩

def toJson (record : FileRecord) : Json :=
  .object [("path", .text record.path), ("extension", .ofText? (record.extension.map .ofText))]

end FileRecord

end ImportAtlas
