import ImportAtlas.Ignore.Glob
import ImportAtlas.Text.Quoted

/-! # Ignore patterns

One line of an ignore file as a pattern over paths. A line is cut at its slashes;
each component is a glob, `*` alone stands for one component and `**` for any number
of them. A directory is presented to a pattern with a slash at its end, so that a
pattern for directories can ask for the slash.
-/

namespace ImportAtlas.Ignore

open Text (Code Coded restsOfChar restsOfRun restsOfSome)

inductive PathPiece
  /-- A slash. -/
  | slash
  /-- One symbol of a glob. -/
  | symbol (glob : GlobSymbol)
  /-- One whole component. -/
  | component
  /-- Any number of leading directories, none included. -/
  | leadingDirectories
  /-- A slash and whatever follows. -/
  | descendants
  /-- Any number of directories in the middle, none included. -/
  | innerDirectories
  /-- The end of the path, or a slash and whatever follows. -/
  | selfOrDescendants
  /-- Anything in a directory that is not the anchor itself. -/
  | belowAnyDirectory
deriving DecidableEq, Repr

/-- A pattern with its effect on the paths that it matches. -/
structure Pattern where
  ignores : Bool
  pieces : List PathPiece
deriving DecidableEq, Repr

inductive PatternError
  /-- The line has an unfinished escape or no component. -/
  | invalid (line : Coded)
  /-- A bracket expression has a range that ends before it starts. -/
  | reversedRange (range : ReversedRange) (expanded : Coded)
deriving DecidableEq, Repr

def lineAndColumn (text : Coded) (position : Nat) : Nat × Nat :=
  let before := text.take position
  (before.count (.char '\n') + 1, (before.reverse.takeWhile (· ≠ .char '\n')).length + 1)

def placeText (text : Coded) (position : Nat) : String :=
  let (line, column) := lineAndColumn text position
  "at position " ++ toString position
    ++ (if text.contains (.char '\n') then
        " (line " ++ toString line ++ ", column " ++ toString column ++ ")"
      else "")

def PatternError.message : PatternError → Coded
  | invalid line => "Invalid git pattern: " ++ Text.quoted line
  | reversedRange range expanded =>
      "bad character range " ++ expandedCode range.first ++ "-" ++ expandedCode range.last ++ " "
        ++ placeText expanded range.position

abbrev Segment := Coded

def anyDepth : Segment := ['*', '*']

def anyName : Segment := ['*']

def mergeAnyDepth : List Segment → List Segment
  | [] => []
  | [segment] => [segment]
  | head :: next :: tail =>
      if head = anyDepth ∧ next = anyDepth then mergeAnyDepth (next :: tail)
      else head :: mergeAnyDepth (next :: tail)

/-- Components anchored where the line says: a leading slash anchors at the directory of
the ignore file, and a line of one component applies at any depth. -/
def anchorSegments (segments : List Segment) : List Segment :=
  match segments with
  | [] => []
  | [] :: tail => tail
  | [only] => if only = anyDepth then segments else anyDepth :: segments
  | [only, []] => if only = anyDepth then segments else anyDepth :: segments
  | _ => segments

def openTrailingSlash (segments : List Segment) : List Segment :=
  if segments.length > 1 ∧ segments.getLast? = some [] then segments.dropLast ++ [anyDepth]
  else segments

/-- The pieces of anchored components. The flags tell whether this is the first component
and whether a slash has to come before the next name. -/
def piecesOf? (isFirst needsSlash : Bool) : List Segment → Option (List PathPiece)
  | [] => some []
  | segment :: tail =>
      let slash : List PathPiece := if needsSlash then [.slash] else []
      let close : List PathPiece := if tail.isEmpty then [.selfOrDescendants] else []
      if segment = anyDepth then
        if isFirst && tail.isEmpty then some [.component, .selfOrDescendants]
        else if isFirst then (piecesOf? false false tail).map (.leadingDirectories :: ·)
        else if tail.isEmpty then some [.descendants]
        else (piecesOf? false true tail).map (.innerDirectories :: ·)
      else if segment = anyName then
        (piecesOf? false true tail).map (slash ++ .component :: close ++ ·)
      else do
        let symbols ← globSymbols? segment
        let rest ← piecesOf? false true tail
        some (slash ++ symbols.map .symbol ++ close ++ rest)

def linePieces? (text : Coded) : Option (List PathPiece) :=
  let segments := mergeAnyDepth (Text.split (.char '/') text)
  if segments = [anyDepth, []] then some [.belowAnyDirectory]
  else
    let anchored := anchorSegments segments
    if anchored.isEmpty then none else piecesOf? true false (openTrailingSlash anchored)

def trimLine (line : Coded) : Coded :=
  match line.reverse with
  | .char ' ' :: .char '\\' :: _ => line.dropWhile Code.isBlank
  | _ => line.trim

def PathPiece.expanded : PathPiece → Coded
  | .slash => "/"
  | .symbol glob => glob.expanded
  | .component => "[^/]+"
  | .leadingDirectories => "(?:.+/)?"
  | .descendants => "/.*"
  | .innerDirectories => "(?:/.+)?"
  | .selfOrDescendants => "(?:/.*)?"
  | .belowAnyDirectory => ".+/.*"

def expandedPattern (pieces : List PathPiece) : Coded :=
  "^" ++ pieces.flatMap PathPiece.expanded ++ "$"

def reversedRange? (position : Nat) : List PathPiece → Option ReversedRange
  | [] => none
  | .symbol glob :: tail =>
      match glob.reversedRange? position with
      | some range => some range
      | none => reversedRange? (position + glob.expanded.length) tail
  | piece :: tail => reversedRange? (position + piece.expanded.length) tail

def compileLine (line : Coded) : Except PatternError (Option Pattern) :=
  let text := trimLine line
  if text = [] ∨ text.head? = some (.char '#') ∨ text = [.char '/'] then .ok none
  else
    let (ignores, body) :=
      match text with
      | .char '!' :: body => (false, body)
      | _ => (true, text)
    match linePieces? body with
    | none => .error (.invalid line)
    | some pieces =>
        match reversedRange? 1 pieces with
        | some range => .error (.reversedRange range (expandedPattern pieces))
        | none => .ok (some ⟨ignores, pieces⟩)

def isLineChar (char : Char) : Bool := char ≠ '\n'

def restsOfSlash (text : List Char) : List (List Char) :=
  restsOfChar (· == '/') text

def PathPiece.rests (text : List Char) : PathPiece → List (List Char)
  | .slash => restsOfSlash text
  | .symbol glob => glob.rests text
  | .component => restsOfSome isNameChar text
  | .leadingDirectories => (restsOfSome isLineChar text).flatMap restsOfSlash ++ [text]
  | .descendants => (restsOfSlash text).flatMap (restsOfRun isLineChar)
  | .innerDirectories => (restsOfSlash text).flatMap (restsOfSome isLineChar) ++ [text]
  | .selfOrDescendants => (restsOfSlash text).flatMap (restsOfRun isLineChar) ++ [text]
  | .belowAnyDirectory =>
      ((restsOfSome isLineChar text).flatMap restsOfSlash).flatMap (restsOfRun isLineChar)

def matchPieces : List PathPiece → List Char → Bool
  | [], text => text.isEmpty || text == ['\n']
  | piece :: pieces, text => (piece.rests text).any (matchPieces pieces)

def Pattern.matchesPath (pattern : Pattern) (path : List Char) : Bool :=
  matchPieces pattern.pieces path

end ImportAtlas.Ignore
