import ImportAtlas.Datum

/-! # The order of set members

The members of a set are shown in the order of their slots. A hash code selects the slot of
a member; when it is taken, its neighbours are tried, and then other slots that depend on
the code. Only numbers and empty texts have the same hash code in every run, so a set with
any other member is shown in the order in which it was written.
-/

namespace ImportAtlas.SlotOrder

/-! ## Hash codes -/

def codeCount : Nat := 0x10000000000000000

def modulus : Nat := 0x1FFFFFFFFFFFFFFF

def infiniteResidue : Nat := 314159

def signedCode (negative : Bool) (residue : Nat) : Nat :=
  if negative && residue ≠ 0 then codeCount - max residue 2 else residue

/-- The hash code of a datum, if it is the same in every run. Since `2 ^ 61` is one modulo
the prime, an exponent counts only modulo 61, and equal numbers have equal codes. -/
def code? : Datum → Option Nat
  | .bool value => some value.toNat
  | .int value => some (signedCode (decide (value < 0)) (value.natAbs % modulus))
  | .float (.finite negative significand exponent) =>
      some (signedCode negative (significand * Nat.pow 2 (exponent % 61).toNat % modulus))
  | .float (.infinite negative) => some (signedCode negative infiniteResidue)
  | .text value => if value.isEmpty then some 0 else none
  | .bytes value => if value.isEmpty then some 0 else none
  | _ => none

/-! ## Slots -/

abbrev Slots := Array (Option Datum)

def slotCount (members : Nat) : Nat :=
  if members < 5 then 8 else Nat.pow 2 ((2 * members).log2 + 1)

def neighbours (count place : Nat) : List Nat :=
  if place + 9 < count then List.range' place 10 else [place]

def freeSlot? (slots : Slots) (rounds place code : Nat) : Option Nat :=
  match rounds with
  | 0 => none
  | rounds + 1 =>
      let free? := (neighbours slots.size place).find? fun slot => slots[slot]?.join.isNone
      match free? with
      | some slot => some slot
      | none =>
          let code := code / 32
          freeSlot? slots rounds ((5 * place + 1 + code) % slots.size) code

def put (slots : Slots) (code : Nat) (member : Datum) : Slots :=
  match freeSlot? slots (slots.size + 13) (code % slots.size) code with
  | some slot => slots.setIfInBounds slot (some member)
  | none => slots

def fill (members : List (Nat × Datum)) : Slots :=
  members.foldl (fun slots (code, member) => put slots code member)
    (.replicate (slotCount members.length) none)

def arrange (members : List Datum) : List Datum :=
  match members.mapM fun member => (code? member).map fun code => (code, member) with
  | some members => (fill members).toList.filterMap id
  | none => members

end ImportAtlas.SlotOrder
