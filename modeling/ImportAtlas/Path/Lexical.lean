import ImportAtlas.Text.Split

/-! # Lexical paths

Paths as texts, read without looking at any file system. Components stand between
slashes; a backslash in source code is read as a slash before anything else.
-/

namespace ImportAtlas.Path

def components (path : String) : List String :=
  Text.splitText '/' path

theorem components_ne_nil (path : String) : components path ≠ [] := by
  simp [components, Text.splitText, Text.split]

def slashed (path : String) : String :=
  String.ofList (path.toList.map fun char => if char = '\\' then '/' else char)

def baseName (path : String) : String :=
  (components path).getLastD ""

def throughLastSlash (chars : List Char) : List Char :=
  (chars.reverse.dropWhile (· ≠ '/')).reverse

def stripTrailingSlashes (chars : List Char) : List Char :=
  if chars.all (· = '/') then chars else (chars.reverse.dropWhile (· = '/')).reverse

def directoryName (path : String) : String :=
  String.ofList (stripTrailingSlashes (throughLastSlash path.toList))

def join (directory path : String) : String :=
  if path.toList.head? = some '/' then path
  else if directory.isEmpty ∨ directory.toList.getLast? = some '/' then directory ++ path
  else directory ++ "/" ++ path

/-- Slashes that make a path absolute: two are kept apart from one, and any larger
number is read as one. -/
def anchor (path : String) : String :=
  match path.toList with
  | '/' :: '/' :: '/' :: _ => "/"
  | '/' :: '/' :: _ => "//"
  | '/' :: _ => "/"
  | _ => ""

/-- One component on a stack of evaluated components, the last one first. Going up
from nothing is kept in a relative path and has no effect in an absolute one. -/
def climb (absolute : Bool) (stack : List String) (component : String) : List String :=
  if component = "" ∨ component = "." then stack
  else if component ≠ ".." then component :: stack
  else
    match stack with
    | [] => if absolute then [] else [".."]
    | top :: below => if top = ".." then ".." :: top :: below else below

def collapse (absolute : Bool) (parts : List String) : List String :=
  (parts.foldl (climb absolute) []).reverse

def canonical (path : String) : String :=
  let anchorText := anchor path
  let text := anchorText ++ Text.joinText "/" (collapse (!anchorText.isEmpty) (components path))
  if text.isEmpty then "." else text

def normalize (path : String) : String :=
  canonical (slashed path)

def splitLastDot? (name : List Char) : Option (List Char × List Char) :=
  let reversed := name.reverse
  match reversed.dropWhile (· ≠ '.') with
  | [] => none
  | _ :: stem => some (stem.reverse, (reversed.takeWhile (· ≠ '.')).reverse)

def extension? (path : String) : Option String :=
  let name := baseName (slashed path)
  if name = "." ∨ name = ".." then none
  else
    match splitLastDot? name.toList with
    | none => none
    | some (stem, suffix) => if stem.isEmpty then none else some (String.ofList suffix)

end ImportAtlas.Path
