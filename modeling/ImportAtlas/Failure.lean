import ImportAtlas.Config.Basic
import ImportAtlas.FileSystem.Cause
import ImportAtlas.Ignore.Pattern
import ImportAtlas.Json.Parser
import ImportAtlas.Text.Utf8
import ImportAtlas.Yaml.Fault

/-! # Failures

What ends a pass over a project without a result. Everything else that goes wrong on
the way is reported and worked around.
-/

namespace ImportAtlas

open Text (Coded)

inductive Failure
  | system (fault : SystemFault)
  | missingRoot (root : String)
  | rootNotDirectory (root : String)
  | unreadableRoot (root : String)
  | pattern (error : Ignore.PatternError)
  | undecodable (fault : Text.Utf8.Fault)
  | scalar (fault : Yaml.ScalarFault)
  | overlongInteger (digits : Nat)
  | nested (isObject : Bool)
  | unshown (fault : WriteFault)
  | outsideRoot (path : String)
  | unknownFile (path : String)
deriving DecidableEq, Repr

def Failure.message : Failure → Coded
  | system fault => fault.message
  | missingRoot root => "Project root not found: " ++ root
  | rootNotDirectory root => "Project root is not a directory: " ++ root
  | unreadableRoot root => "Project root is not readable: " ++ root
  | pattern error => error.message
  | undecodable fault => fault.message
  | scalar fault => fault.message
  | overlongInteger digits => Decimal.overlongMessage digits
  | nested isObject => Json.nestedMessage isObject
  | unshown fault => fault.message Config.showing
  | outsideRoot path => "Path is outside the project root: " ++ path
  | unknownFile path => "Not a project file: " ++ path

end ImportAtlas
