import ImportAtlas.Text.Hex

/-! # UTF-8

Decoding of bytes, one byte at a time. Bytes that begin no character, stop one
short, or are left over at the end are faults: a strict reader stops at the
first, a lenient one puts a replacement character for each.
-/

namespace ImportAtlas.Text.Utf8

inductive Reason
  | invalidStart
  | invalidContinuation
  | unexpectedEnd
deriving DecidableEq, Repr

def Reason.message : Reason → String
  | invalidStart => "invalid start byte"
  | invalidContinuation => "invalid continuation byte"
  | unexpectedEnd => "unexpected end of data"

structure Fault where
  position : Nat
  first : UInt8
  count : Nat
  reason : Reason
deriving DecidableEq, Repr

def Fault.message (fault : Fault) : String :=
  let place :=
    if fault.count = 1 then
      "byte 0x" ++ String.ofList (hexDigits 2 fault.first.toNat) ++ " in position "
        ++ toString fault.position
    else
      "bytes in position " ++ toString fault.position ++ "-"
        ++ toString (fault.position + fault.count - 1)
  "'utf-8' codec can't decode " ++ place ++ ": " ++ fault.reason.message

inductive Piece
  | char (char : Char)
  | fault (first : UInt8) (count : Nat) (reason : Reason)
deriving DecidableEq, Repr

structure Unfinished where
  first : UInt8
  seen : Nat
  code : Nat
  missing : Nat
  lowest : UInt8
  highest : UInt8
deriving DecidableEq, Repr

def start (byte : UInt8) : List Piece × Option Unfinished :=
  if byte < 0x80 then ([.char (Char.ofNat byte.toNat)], none)
  else if byte < 0xC2 then ([.fault byte 1 .invalidStart], none)
  else if byte < 0xE0 then ([], some ⟨byte, 1, byte.toNat - 0xC0, 1, 0x80, 0xBF⟩)
  else if byte = 0xE0 then ([], some ⟨byte, 1, 0, 2, 0xA0, 0xBF⟩)
  else if byte = 0xED then ([], some ⟨byte, 1, 0xD, 2, 0x80, 0x9F⟩)
  else if byte < 0xF0 then ([], some ⟨byte, 1, byte.toNat - 0xE0, 2, 0x80, 0xBF⟩)
  else if byte = 0xF0 then ([], some ⟨byte, 1, 0, 3, 0x90, 0xBF⟩)
  else if byte < 0xF4 then ([], some ⟨byte, 1, byte.toNat - 0xF0, 3, 0x80, 0xBF⟩)
  else if byte = 0xF4 then ([], some ⟨byte, 1, 4, 3, 0x80, 0x8F⟩)
  else ([.fault byte 1 .invalidStart], none)

def feed : Option Unfinished → UInt8 → List Piece × Option Unfinished
  | none, byte => start byte
  | some unfinished, byte =>
      if unfinished.lowest ≤ byte ∧ byte ≤ unfinished.highest then
        let code := unfinished.code * 64 + (byte.toNat - 0x80)
        if unfinished.missing ≤ 1 then ([.char (Char.ofNat code)], none)
        else
          ([], some { unfinished with
            seen := unfinished.seen + 1, code
            missing := unfinished.missing - 1, lowest := 0x80, highest := 0xBF })
      else
        let (pieces, next) := start byte
        (.fault unfinished.first unfinished.seen .invalidContinuation :: pieces, next)

def piecesFrom (pending : Option Unfinished) : List UInt8 → List Piece
  | [] =>
      match pending with
      | none => []
      | some unfinished => [.fault unfinished.first unfinished.seen .unexpectedEnd]
  | head :: tail =>
      let (pieces, next) := feed pending head
      pieces ++ piecesFrom next tail

def pieces (bytes : List UInt8) : List Piece :=
  piecesFrom none bytes

def replacement : Char := '\uFFFD'

def decodeLenient (bytes : List UInt8) : List Char :=
  (pieces bytes).map fun
    | .char char => char
    | .fault _ _ _ => replacement

def decode? (bytes : List UInt8) : Option (List Char) :=
  (pieces bytes).mapM fun
    | .char char => some char
    | .fault _ _ _ => none

/-! ## Blocks -/

def isHalfSurrogate (pending : Option Unfinished) (byte : UInt8) : Bool :=
  match pending with
  | some unfinished =>
      unfinished.first = 0xED ∧ unfinished.seen = 1 ∧ 0xA0 ≤ byte ∧ byte ≤ 0xBF
  | none => false

/-- A decoded block of bytes: its characters, and how many bytes at its end are left for the
next block to complete. -/
structure Block where
  chars : List Char
  leftOver : Nat
deriving DecidableEq, Repr

def Block.push (char : Char) (block : Block) : Block :=
  { block with chars := char :: block.chars }

/-- Decode a block from some position on, after an unfinished character. Only the last block
has nothing after it; in any other one, an unfinished character or half a surrogate at the
end is left over. Positions of faults count from the start of the block. -/
def decodeFrom (isLast : Bool) (pending : Option Unfinished) (position : Nat) :
    List UInt8 → Except Fault Block
  | [] =>
      match pending with
      | none => .ok ⟨[], 0⟩
      | some unfinished =>
          if isLast then
            .error ⟨position - unfinished.seen, unfinished.first, unfinished.seen, .unexpectedEnd⟩
          else .ok ⟨[], unfinished.seen⟩
  | head :: tail =>
      match feed pending head with
      | (.fault first count .invalidContinuation :: _, _) =>
          if isHalfSurrogate pending head ∧ tail = [] ∧ ¬isLast then .ok ⟨[], 2⟩
          else .error ⟨position - count, first, count, .invalidContinuation⟩
      | (.fault first count reason :: _, _) => .error ⟨position, first, count, reason⟩
      | (.char char :: _, next) =>
          (decodeFrom isLast next (position + 1) tail).map (Block.push char)
      | ([], next) => decodeFrom isLast next (position + 1) tail

def decodeBlock (isLast : Bool) (bytes : List UInt8) : Except Fault Block :=
  decodeFrom isLast none 0 bytes

/-! ## Encoding -/

def encodeChar (char : Char) : List UInt8 :=
  let code := char.toNat
  let continuation (shift : Nat) : UInt8 := UInt8.ofNat (0x80 + (code >>> shift) % 64)
  if code < 0x80 then [UInt8.ofNat code]
  else if code < 0x800 then [UInt8.ofNat (0xC0 + code / 64), continuation 0]
  else if code < 0x10000 then
    [UInt8.ofNat (0xE0 + code / 4096), continuation 6, continuation 0]
  else
    [UInt8.ofNat (0xF0 + code / 262144), continuation 12, continuation 6, continuation 0]

def encode (chars : List Char) : List UInt8 :=
  chars.flatMap encodeChar

end ImportAtlas.Text.Utf8
