import ImportAtlas.Text.Alphanumeric
import ImportAtlas.Text.Blank
import ImportAtlas.Text.Matching

/-! # Import statements

Import targets in source text, found without parsing the language: the word
`import`, optionally with a clause that ends in `from`, or a call of `require`,
followed by a quoted target. What looks like one in a comment counts as well, and
the two quotes need not be alike.
-/

namespace ImportAtlas.Import

open Text (isBlank isWord restsOfChar restsOfSome restsOfWord)

def scannedExtensions : List String := ["ts", "tsx", "js", "jsx", "rs"]

def isScannable (extension : Option String) : Bool :=
  match extension with
  | none => false
  | some extension => scannedExtensions.contains extension

def isQuote (char : Char) : Bool := char == '\'' || char == '"'

def isClauseChar (char : Char) : Bool :=
  isWord char || isBlank char || ['\x7B', '\x7D', ',', '*'].contains char

def restsOfClause (text : List Char) : List (List Char) :=
  ((restsOfSome isClauseChar text).flatMap (restsOfWord "from".toList)).flatMap
    (restsOfSome isBlank)

def restsOfImport (text : List Char) : List (List Char) :=
  ((restsOfWord "import".toList text).flatMap (restsOfSome isBlank)).flatMap fun rest =>
    restsOfClause rest ++ [rest]

def restsOfOpening (text : List Char) : List (List Char) :=
  (restsOfImport text ++ restsOfWord "require(".toList text).flatMap (restsOfChar isQuote)

def target? (text : List Char) : Option (List Char × List Char) :=
  match text.takeWhile (!isQuote ·), text.dropWhile (!isQuote ·) with
  | target@(_ :: _), _ :: rest => some (target, rest)
  | _, _ => none

def statement? (text : List Char) : Option (List Char × List Char) :=
  (restsOfOpening text).findSome? target?

/-- The targets in a text after skipping some characters of it. Statements do not overlap. -/
def targetsFrom : (skipped : Nat) → List Char → List (List Char)
  | _, [] => []
  | skipped + 1, _ :: tail => targetsFrom skipped tail
  | 0, head :: tail =>
      match statement? (head :: tail) with
      | none => targetsFrom 0 tail
      | some (target, rest) => target :: targetsFrom (tail.length - rest.length) tail

def targets (content : String) : List String :=
  (targetsFrom 0 content.toList).map String.ofList

end ImportAtlas.Import
