import ImportAtlas.Text.Portion
import ImportAtlas.Yaml.Fault

/-! # Reading positions

A place in a text with the number of the character, the line and the column. Only
printable characters and line ends may occur in a text, so the null character can
stand for the end. A text comes in blocks, and may be readable only up to some block. That
is a fault once a character from there on is asked for, which may never happen.
-/

namespace ImportAtlas.Yaml

def isAllowed (char : Char) : Bool :=
  let code := char.toNat
  code == 0x09 || code == 0x0A || code == 0x0D || decide (0x20 ≤ code ∧ code ≤ 0x7E)
    || code == 0x85 || decide (0xA0 ≤ code ∧ code ≤ 0xFFFD) || decide (0x10000 ≤ code)

/-- The blocks of a text that can be read, and the fault of the one after them. -/
structure Source where
  chars : List Char
  ending : Option Fault
deriving Repr, Inhabited

namespace Source

/-- Where the block with some character starts. The first block is two portions, any other
is one. -/
def blockStart (index : Nat) : Nat :=
  if index < 2 * Text.portionSize then 0 else index - index % Text.portionSize

/-- What can be read of a text. A portion in which a fault of the bytes is met gives no block,
nor does one with a character that may not occur. -/
def ofText (text : Text.Portioned) : Source :=
  let decoded :=
    match text.fault with
    | none => text.chars
    | some _ => text.chars.take (blockStart text.chars.length)
  match decoded.findIdx? (!isAllowed ·) with
  | some index => ⟨decoded.take (blockStart index), some .malformed⟩
  | none => ⟨decoded, text.fault.map .undecodable⟩

end Source

structure Cursor where
  rest : List Char
  ending : Option Fault
  index : Nat
  line : Nat
  column : Nat
deriving Repr, Inhabited

abbrev Reading := StateT Cursor (Except Fault)

def isBreak (char : Char) : Bool :=
  char == '\n' || char == '\u0085' || char == '\u2028' || char == '\u2029'

def isBreakOrEnd (char : Char) : Bool := isBreak char || char == '\x00'

def isSpaceOrEnd (char : Char) : Bool := isBreakOrEnd char || char == ' '

def isGapOrEnd (char : Char) : Bool := isSpaceOrEnd char || char == '\t'

def isNameChar (char : Char) : Bool := char.isAlphanum || char == '-' || char == '_'

namespace Cursor

def start (source : Source) : Cursor := ⟨source.chars, source.ending, 0, 0, 0⟩

def shortage? (cursor : Cursor) (count : Nat) : Option Fault :=
  match cursor.ending with
  | none => none
  | some fault => if count ≠ 0 ∧ (cursor.rest.drop (count - 1)).isEmpty then some fault else none

def peek (cursor : Cursor) (ahead : Nat) : Char :=
  cursor.rest.getD ahead '\x00'

def next (cursor : Cursor) : Cursor :=
  match cursor.rest with
  | [] => cursor
  | head :: tail =>
      if isBreak head then
        { cursor with
          rest := tail, index := cursor.index + 1, line := cursor.line + 1, column := 0 }
      else
        let column := if head = '\uFEFF' then cursor.column else cursor.column + 1
        { cursor with rest := tail, index := cursor.index + 1, column }

def forward (cursor : Cursor) : Nat → Cursor
  | 0 => cursor
  | count + 1 => cursor.next.forward count

def countWhile (cursor : Cursor) (accepts : Char → Bool) : Nat :=
  (cursor.rest.takeWhile accepts).length

end Cursor

namespace Reading

def malformed {α : Type} : Reading α := throw Fault.malformed

def demand (count : Nat) : Reading Unit := do
  match (← get).shortage? count with
  | none => return
  | some fault => throw fault

def peek (ahead : Nat) : Reading Char := do
  demand (ahead + 1)
  return (← get).peek ahead

def forward (count : Nat) : Reading Unit := do
  demand (count + 1)
  modify fun cursor => cursor.forward count

def lookWhile (accepts : Char → Bool) : Reading (List Char) := do
  let found := (← get).rest.takeWhile accepts
  demand (found.length + 1)
  return found

def takeWhile (accepts : Char → Bool) : Reading (List Char) := do
  let taken ← lookWhile accepts
  forward taken.length
  return taken

def atMarker (mark : Char) : Reading Bool := do
  demand 3
  if (← get).rest.take 3 = [mark, mark, mark] then return isGapOrEnd (← peek 3)
  else return false

def skipSpaces : Reading Unit := discard (takeWhile (· == ' '))

def lineBreak : Reading (List Char) := do
  let char ← peek 0
  if isBreak char then
    forward 1
    return [if char = '\u0085' then '\n' else char]
  else return []

def endOfLine : Reading Unit := do
  skipSpaces
  if (← peek 0) = '#' then discard (takeWhile (!isBreakOrEnd ·))
  unless isBreakOrEnd (← peek 0) do malformed
  discard lineBreak

end Reading

end ImportAtlas.Yaml
