import ImportAtlas.Text.Coded
import ImportAtlas.Text.Hex
import ImportAtlas.Yaml.Cursor

/-! # Scalar styles

The text of plain, quoted and block scalars. Line ends inside a scalar are folded by
the rules of its style; a document marker ends every scalar but a block scalar.
-/

namespace ImportAtlas.Yaml

open Text (Coded)

namespace Reading

def many {α : Type} (step : Reading (Option α)) (cursor : Cursor) :
    Except Fault (List α × Cursor) :=
  match step cursor with
  | .error fault => .error fault
  | .ok (none, next) => .ok ([], next)
  | .ok (some item, next) =>
      if _moved : next.rest.length < cursor.rest.length then
        match many step next with
        | .error fault => .error fault
        | .ok (items, last) => .ok (item :: items, last)
      else .error .malformed
termination_by cursor.rest.length

end Reading

open Reading

def atEitherMarker : Reading Bool := do
  if ← atMarker '-' then return true
  else atMarker '.'

def refuseMarker : Reading Unit := do
  if ← atEitherMarker then malformed

def foldedBreaks (first : List Char) (more : List (List Char)) : List Char :=
  if first ≠ ['\n'] then first ++ more.flatten
  else if more.isEmpty then [' ']
  else more.flatten

/-! ## Quoted scalars -/

def quotedBreaks : Reading (List (List Char)) :=
  many do
    refuseMarker
    discard (takeWhile fun char => char == ' ' || char == '\t')
    let lineEnd ← lineBreak
    return if lineEnd.isEmpty then none else some lineEnd

def quotedSpaces : Reading (List Char) := do
  let blanks ← takeWhile fun char => char == ' ' || char == '\t'
  let char ← peek 0
  if char = '\x00' then malformed
  else if isBreak char then
    let first ← lineBreak
    return foldedBreaks first (← quotedBreaks)
  else return blanks

def escapedChars : List (Char × Char) :=
  [('0', '\x00'), ('a', '\x07'), ('b', '\x08'), ('t', '\t'), ('\t', '\t'), ('n', '\n'),
   ('v', '\x0B'), ('f', '\x0C'), ('r', '\r'), ('e', '\x1B'), (' ', ' '), ('"', '"'),
   ('\\', '\\'), ('/', '/'), ('N', '\u0085'), ('_', '\u00A0'), ('L', '\u2028'), ('P', '\u2029')]

def escapeWidths : List (Char × Nat) := [('x', 2), ('u', 4), ('U', 8)]

def hexAhead (width : Nat) : Reading Nat := do
  let digits := ((← get).rest.take width).takeWhile fun char => (Text.hexValue? char).isSome
  demand (min width (digits.length + 1))
  if digits.length < width then malformed
  else return (Text.hexNumber? digits).getD 0

def escape : Reading Coded := do
  let char ← peek 0
  match escapedChars.lookup char with
  | some escaped =>
      forward 1
      return [.char escaped]
  | none =>
      match escapeWidths.lookup char with
      | some width =>
          forward 1
          let code ← hexAhead width
          if 0x110000 ≤ code then throw (.scalar (.noCharacter code))
          forward width
          return [.ofNumber code]
      | none =>
          if isBreak char then
            discard lineBreak
            return Coded.ofChars (← quotedBreaks).flatten
          else malformed

def quotedWord (double : Bool) : Reading (List Coded) :=
  many do
    let run ← takeWhile fun char =>
      !isGapOrEnd char && char != '\'' && char != '"' && char != '\\'
    if !run.isEmpty then return some (Coded.ofChars run)
    let char ← peek 0
    if !double && char == '\'' && (← peek 1) == '\'' then
      forward 2
      return some [.char '\'']
    else if (double && char == '\'') || (!double && (char == '"' || char == '\\')) then
      forward 1
      return some [.char char]
    else if double && char == '\\' then
      forward 1
      return some (← escape)
    else return none

def quotedScalar (double : Bool) : Reading Coded := do
  let quote := if double then '"' else '\''
  forward 1
  let first ← quotedWord double
  let more ← many do
    if (← peek 0) = quote then return none
    let blanks ← quotedSpaces
    let word ← quotedWord double
    return some (Coded.ofChars blanks ++ word.flatten)
  forward 1
  return first.flatten ++ more.flatten

/-! ## Plain scalars -/

def plainLength (inFlow : Bool) : List Char → Nat
  | [] => 0
  | head :: tail =>
      let next := tail.headD '\x00'
      let pausesAtColon :=
        head == ':' && (isGapOrEnd next
          || (inFlow && [',', '[', ']', '\x7B', '\x7D'].contains next))
      let pausesInFlow := inFlow && [',', '?', '[', ']', '\x7B', '\x7D'].contains head
      if isGapOrEnd head || pausesAtColon || pausesInFlow then 0 else plainLength inFlow tail + 1

/-- Spaces and line ends inside a plain scalar, and whether a line ended. Nothing is
left of them before a document marker. -/
def plainSpaces : Reading (List Char × Bool) := do
  let spaces ← takeWhile (· == ' ')
  if !isBreak (← peek 0) then return (spaces, false)
  let first ← lineBreak
  let endsHere : Reading Bool := do
    if (← get).column = 0 then atEitherMarker else return false
  if ← endsHere then return ([], true)
  let more ← many do
    if ← endsHere then return none
    discard (takeWhile (· == ' '))
    let lineEnd ← lineBreak
    return if lineEnd.isEmpty then none else some lineEnd
  if ← endsHere then return ([], true)
  return (foldedBreaks first more, true)

/-- The characters of a plain scalar up to where it pauses; a comment is none of it. At a
colon, what follows it decides. -/
def plainWord (inFlow : Bool) : Reading (List Char) := do
  if (← peek 0) = '#' then return []
  let cursor ← get
  let length := plainLength inFlow cursor.rest
  if (← peek length) = ':' then demand (length + 2)
  forward length
  return cursor.rest.take length

/-- A plain scalar from some point on, after spaces that belong to it if it goes on: its
text, and whether its last line has ended. -/
def plainFrom (inFlow : Bool) (indent : Int) (spaces : List Char) (ended : Bool)
    (cursor : Cursor) : Except Fault ((List Char × Bool) × Cursor) :=
  let read : Reading (List Char × List Char × Bool) := do
    let word ← plainWord inFlow
    if word.isEmpty then return ([], [], ended)
    let (spaces, ended) ← plainSpaces
    return (word, spaces, ended)
  match read cursor with
  | .error fault => .error fault
  | .ok (([], _, ended), next) => .ok (([], ended), next)
  | .ok ((word, blanks, ended), next) =>
      let isWithin := inFlow || decide (indent ≤ next.column)
      if blanks.isEmpty || next.peek 0 == '#' || !isWithin then
        .ok ((spaces ++ word, ended), next)
      else if _moved : next.rest.length < cursor.rest.length then
        match plainFrom inFlow indent blanks ended next with
        | .error fault => .error fault
        | .ok ((more, ended), last) => .ok ((spaces ++ word ++ more, ended), last)
      else .error .malformed
termination_by cursor.rest.length

def plainScalar (inFlow : Bool) (indent : Int) : Reading (List Char × Bool) :=
  plainFrom inFlow indent [] false

/-! ## Block scalars -/

inductive Chomping
  | strip
  | clip
  | keep
deriving DecidableEq, Repr

def chompingIndicator : Reading (Option Chomping) := do
  let char ← peek 0
  if char = '+' then
    forward 1
    return some .keep
  else if char = '-' then
    forward 1
    return some .strip
  else return none

def indentIndicator : Reading (Option Nat) := do
  let char ← peek 0
  if char = '0' then malformed
  else if char.isDigit then
    forward 1
    return some (char.toNat - 48)
  else return none

def blockHeader : Reading (Chomping × Option Nat) := do
  match ← chompingIndicator with
  | some chomping => return (chomping, ← indentIndicator)
  | none =>
      match ← indentIndicator with
      | none => return (.clip, none)
      | some indent => return ((← chompingIndicator).getD .clip, some indent)

def skipIndent (indent : Nat) : Reading Unit := do
  let cursor ← get
  forward (min (indent - cursor.column) (cursor.countWhile (· == ' ')))

def blockBreaks (indent : Nat) : Reading (List (List Char)) := do
  skipIndent indent
  many do
    let lineEnd ← lineBreak
    if lineEnd.isEmpty then return none
    skipIndent indent
    return some lineEnd

def blockIndent : Reading (List (List Char) × Nat) := do
  let items ← many do
    let lineEnd ← lineBreak
    if !lineEnd.isEmpty then return some (lineEnd, 0)
    else if (← peek 0) = ' ' then
      forward 1
      return some ([], (← get).column)
    else return none
  return ((items.map Prod.fst).filter (!·.isEmpty), (items.map Prod.snd).foldl max 0)

def atBlank (cursor : Cursor) : Bool :=
  cursor.peek 0 == ' ' || cursor.peek 0 == '\t'

def blockLines (folded : Bool) (indent : Nat) (breaks : List (List Char)) (cursor : Cursor) :
    Except Fault ((List Char × List Char × List (List Char)) × Cursor) :=
  let atLine (cursor : Cursor) : Bool := cursor.column == indent && cursor.peek 0 != '\x00'
  if !atLine cursor then .ok (([], [], breaks), cursor)
  else
    let read : Reading (List Char × List Char × List (List Char)) := do
      let line ← takeWhile (!isBreakOrEnd ·)
      let lineEnd ← lineBreak
      return (breaks.flatten ++ line, lineEnd, ← blockBreaks indent)
    match read cursor with
    | .error fault => .error fault
    | .ok ((text, lineEnd, breaks), next) =>
        if !atLine next then .ok ((text, lineEnd, breaks), next)
        else if _moved : next.rest.length < cursor.rest.length then
          let folds := folded && lineEnd == ['\n'] && !atBlank cursor && !atBlank next
          let between := if folds then (if breaks.isEmpty then [' '] else []) else lineEnd
          match blockLines folded indent breaks next with
          | .error fault => .error fault
          | .ok ((more, lineEnd, breaks), last) =>
              .ok ((text ++ between ++ more, lineEnd, breaks), last)
        else .error .malformed
termination_by cursor.rest.length

def blockScalar (folded : Bool) (parentIndent : Int) : Reading (List Char) := do
  forward 1
  let (chomping, increment) ← blockHeader
  unless isSpaceOrEnd (← peek 0) do malformed
  endOfLine
  let least := (max (parentIndent + 1) 1).toNat
  let (breaks, indent) ← match increment with
    | none => do
        let (breaks, found) ← blockIndent
        pure (breaks, max least found)
    | some increment => do
        let indent := least + increment - 1
        pure (← blockBreaks indent, indent)
  let (text, lineEnd, trailing) ← blockLines folded indent breaks
  return match chomping with
    | .strip => text
    | .clip => text ++ lineEnd
    | .keep => text ++ lineEnd ++ trailing.flatten

end ImportAtlas.Yaml
