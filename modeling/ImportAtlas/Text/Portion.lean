import ImportAtlas.Number.Binary64
import ImportAtlas.Text.Lines
import ImportAtlas.Text.Utf8

/-! # Text in portions

A text that is looked at from the front need not be decoded whole. It is read a portion of
characters at a time, and whenever the characters do not suffice for a portion, one more
chunk of bytes is decoded. So a fault in the bytes is met in the portion that needs their
chunk, and its position counts from the start of that chunk.
-/

namespace ImportAtlas.Text

def portionSize : Nat := 4096

def chunkSize : Nat := 8192

structure Portioned where
  chars : List Char
  fault : Option Utf8.Fault
deriving DecidableEq, Repr

/-- What is known before a chunk is decoded: the bytes that are left, those before them that
are part of a character, whether a carriage return waits for what comes after it, the number
of characters so far, and the number of bytes and characters of the chunk before. -/
structure ChunkState where
  bytes : List UInt8
  carried : List UInt8
  holdsReturn : Bool
  count : Nat
  lastBytes : Nat
  lastChars : Nat

namespace ChunkState

def chunkLength (state : ChunkState) : Nat :=
  let missing := portionSize - state.count % portionSize
  let bytesPerChar := Binary64.ofRatio false state.lastBytes (max state.lastChars 1)
  let expected := ((bytesPerChar.times (Binary64.ofInt missing)).truncate?).getD 0
  max chunkSize (if state.lastChars = 0 then 0 else expected.toNat)

def unified (state : ChunkState) (chars : List Char) : List Char × Bool :=
  if chars.isEmpty then ([], state.holdsReturn)
  else
    let chars := if state.holdsReturn then '\r' :: chars else chars
    if chars.getLast? = some '\r' then (unifyNewlines chars.dropLast, true)
    else (unifyNewlines chars, false)

def rest (state : ChunkState) : Portioned :=
  if _more : 0 < state.bytes.length then
    let chunk := state.bytes.take state.chunkLength
    let bytes := state.carried ++ chunk
    match Utf8.decodeBlock false bytes with
    | .error fault => ⟨[], some fault⟩
    | .ok block =>
        let (chars, holdsReturn) := state.unified block.chars
        let next : ChunkState :=
          { bytes := state.bytes.drop (max state.chunkLength 1)
            carried := bytes.drop (bytes.length - block.leftOver)
            holdsReturn
            count := state.count + chars.length
            lastBytes := chunk.length
            lastChars := chars.length }
        let rest := next.rest
        ⟨chars ++ rest.chars, rest.fault⟩
  else
    match Utf8.decodeBlock true state.carried with
    | .error fault => ⟨[], some fault⟩
    | .ok _ => ⟨if state.holdsReturn then ['\n'] else [], none⟩
termination_by state.bytes.length
decreasing_by simp only [List.length_drop]; omega

end ChunkState

namespace Portioned

def ofBytes (bytes : List UInt8) : Portioned :=
  ChunkState.rest ⟨bytes, [], false, 0, 0, 0⟩

end Portioned

end ImportAtlas.Text
