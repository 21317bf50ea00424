import ImportAtlas.Ignore.Pattern
import ImportAtlas.Reported

/-! # Ignore rules

Layers of patterns, each anchored at a directory. Within a layer the last matching
pattern decides, and among the layers the last one that decides at all.
-/

namespace ImportAtlas.Ignore

open Text (Code Coded)

/-- Patterns from one source, anchored at a directory relative to the root. The root
itself is the empty text. -/
structure Layer where
  base : String
  patterns : List Pattern
  source : String
deriving DecidableEq, Repr

structure Rules where
  layers : List Layer
deriving DecidableEq, Repr

def pathBelow? (base path : String) : Option (List Char) :=
  if base = "" then some path.toList
  else
    let opening := base.toList ++ ['/']
    if opening.isPrefixOf path.toList then some (path.toList.drop opening.length) else none

def presented (path : List Char) (isDirectory : Bool) : List Char :=
  if isDirectory then path ++ ['/'] else path

def lastDecision (patterns : List Pattern) (path : List Char) : Option Bool :=
  patterns.foldl
    (fun decision pattern => if pattern.matchesPath path then some pattern.ignores else decision)
    none

def Layer.decide (layer : Layer) (path : String) (isDirectory : Bool) : Option Bool :=
  (pathBelow? layer.base path).bind fun below =>
    lastDecision layer.patterns (presented below isDirectory)

namespace Rules

def empty : Rules := ⟨[]⟩

def size (rules : Rules) : Nat := rules.layers.length

def isIgnored (rules : Rules) (path : String) (isDirectory : Bool) : Bool :=
  (rules.layers.reverse.findSome? fun layer => layer.decide path isDirectory).getD false

def push (rules : Rules) (base : String) (patterns : List Pattern) (source : String) : Rules :=
  if patterns.isEmpty then rules else ⟨rules.layers ++ [⟨base, patterns, source⟩]⟩

end Rules

def isLineEnd (code : Code) : Bool :=
  code = .char '\r' ∨ code = .char '\n'

def dropLineEnds (line : Coded) : Coded :=
  Text.dropEndWhile isLineEnd line

def skippedLine (line : Coded) (source : String) (error : PatternError) : Log.Event :=
  .plain Log.Level.warning Log.Logger.enumeration
    ("Skipping invalid ignore pattern " ++ Text.quoted line ++ " in " ++ source ++ ": "
      ++ error.message)

/-- The patterns of some lines in order. Invalid lines are reported and skipped; a reversed
range is not recovered from. -/
def compileLines (source : String) : List Coded → Reported PatternError (List Pattern)
  | [] => pure []
  | head :: tail =>
      let line := dropLineEnds head
      match compileLine line with
      | .error (.invalid text) => do
          Reported.report (skippedLine line source (.invalid text))
          compileLines source tail
      | .error (.reversedRange range expanded) => Reported.fail (.reversedRange range expanded)
      | .ok none => compileLines source tail
      | .ok (some pattern) => do
          let patterns ← compileLines source tail
          pure (pattern :: patterns)

def Rules.withLines (rules : Rules) (base : String) (lines : List Coded) (source : String) :
    Reported PatternError Rules := do
  let patterns ← compileLines source lines
  pure (rules.push base patterns source)

end ImportAtlas.Ignore
