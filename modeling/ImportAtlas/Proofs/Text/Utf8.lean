import ImportAtlas.Text.Utf8
import Mathlib.Tactic.SplitIfs

/-! # Decoding what was encoded

The first byte of an encoded character tells how many bytes follow and between which bounds the
second one lies; all bytes together then give the character back. So encoded characters are
decoded one after the other, whatever follows them.
-/

namespace ImportAtlas.Text.Utf8

theorem toNat_byte {code : Nat} (small : code < 0x100) : (UInt8.ofNat code).toNat = code :=
  UInt8.toNat_ofNat_of_lt small

/-- The byte that continues a character by six bits of its code. -/
def continuation (bits : Nat) : UInt8 := UInt8.ofNat (0x80 + bits % 64)

theorem toNat_continuation (bits : Nat) : (continuation bits).toNat = 0x80 + bits % 64 :=
  toNat_byte (by omega)

def Unfinished.Takes (unfinished : Unfinished) (bits : Nat) : Prop :=
  unfinished.lowest.toNat ≤ 0x80 + bits % 64 ∧ 0x80 + bits % 64 ≤ unfinished.highest.toNat

private theorem feed_last {unfinished : Unfinished} {bits : Nat} (takes : unfinished.Takes bits)
    (last : unfinished.missing = 1) :
    feed (some unfinished) (continuation bits) =
      ([.char (Char.ofNat (unfinished.code * 64 + bits % 64))], none) := by
  have between : unfinished.lowest ≤ continuation bits ∧
      continuation bits ≤ unfinished.highest := by
    rw [UInt8.le_iff_toNat_le, UInt8.le_iff_toNat_le, toNat_continuation]
    exact takes
  simp only [feed, if_pos between, last, Nat.le_refl, if_true, toNat_continuation]
  rw [Nat.add_sub_cancel_left]

private theorem feed_more {unfinished : Unfinished} {bits : Nat} (takes : unfinished.Takes bits)
    (more : 1 < unfinished.missing) :
    feed (some unfinished) (continuation bits) =
      ([], some { unfinished with
        seen := unfinished.seen + 1
        code := unfinished.code * 64 + bits % 64
        missing := unfinished.missing - 1
        lowest := 0x80
        highest := 0xBF }) := by
  have between : unfinished.lowest ≤ continuation bits ∧
      continuation bits ≤ unfinished.highest := by
    rw [UInt8.le_iff_toNat_le, UInt8.le_iff_toNat_le, toNat_continuation]
    exact takes
  simp only [feed, if_pos between, if_neg (Nat.not_le.mpr more), toNat_continuation]
  rw [Nat.add_sub_cancel_left]

/-! ## First bytes -/

section Start

variable {code : Nat}

/-- A byte starts a character of which some bits are known and some bytes are missing, and can be
followed by some further bits. -/
def Begins (byte : UInt8) (code missing bits : Nat) : Prop :=
  ∃ unfinished, start byte = ([], some unfinished) ∧ unfinished.code = code ∧
    unfinished.missing = missing ∧ unfinished.Takes bits

private theorem start_single (small : code < 0x80) :
    start (UInt8.ofNat code) = ([.char (Char.ofNat code)], none) := by
  have byte : (UInt8.ofNat code).toNat = code := toNat_byte (by omega)
  have below : UInt8.ofNat code < 0x80 := by
    rw [UInt8.lt_iff_toNat_lt, byte]
    exact small
  rw [start, if_pos below, byte]

private theorem begins_double (large : 0x80 ≤ code) (small : code < 0x800) :
    Begins (UInt8.ofNat (0xC0 + code / 64)) (code / 64) 1 code := by
  have byte : (UInt8.ofNat (0xC0 + code / 64)).toNat = 0xC0 + code / 64 := toNat_byte (by omega)
  unfold Begins start Unfinished.Takes
  simp only [UInt8.lt_iff_toNat_lt, ← UInt8.toNat_inj, byte, UInt8.reduceToNat]
  rw [if_neg (by omega), if_neg (by omega), if_pos (by omega)]
  exact ⟨_, rfl, by simp only; omega, rfl, by simp only [UInt8.reduceToNat]; omega⟩

private theorem begins_triple (large : 0x800 ≤ code) (small : code < 0x10000)
    (whole : code < 0xD800 ∨ 0xDFFF < code) :
    Begins (UInt8.ofNat (0xE0 + code / 4096)) (code / 4096) 2 (code / 64) := by
  have byte : (UInt8.ofNat (0xE0 + code / 4096)).toNat = 0xE0 + code / 4096 :=
    toNat_byte (by omega)
  unfold Begins start Unfinished.Takes
  simp only [UInt8.lt_iff_toNat_lt, ← UInt8.toNat_inj, byte, UInt8.reduceToNat]
  rw [if_neg (by omega), if_neg (by omega), if_neg (by omega)]
  split_ifs
  · exact ⟨_, rfl, by simp only; omega, rfl, by simp only [UInt8.reduceToNat]; omega⟩
  · exact ⟨_, rfl, by simp only; omega, rfl, by simp only [UInt8.reduceToNat]; omega⟩
  · exact ⟨_, rfl, by simp only; omega, rfl, by simp only [UInt8.reduceToNat]; omega⟩
  all_goals omega

private theorem begins_quadruple (large : 0x10000 ≤ code) (small : code < 0x110000) :
    Begins (UInt8.ofNat (0xF0 + code / 262144)) (code / 262144) 3 (code / 4096) := by
  have byte : (UInt8.ofNat (0xF0 + code / 262144)).toNat = 0xF0 + code / 262144 :=
    toNat_byte (by omega)
  unfold Begins start Unfinished.Takes
  simp only [UInt8.lt_iff_toNat_lt, ← UInt8.toNat_inj, byte, UInt8.reduceToNat]
  rw [if_neg (by omega), if_neg (by omega), if_neg (by omega), if_neg (by omega),
    if_neg (by omega), if_neg (by omega)]
  split_ifs
  · exact ⟨_, rfl, by simp only; omega, rfl, by simp only [UInt8.reduceToNat]; omega⟩
  · exact ⟨_, rfl, by simp only; omega, rfl, by simp only [UInt8.reduceToNat]; omega⟩
  · exact ⟨_, rfl, by simp only; omega, rfl, by simp only [UInt8.reduceToNat]; omega⟩
  · omega

end Start

/-! ## Characters -/

private theorem piecesFrom_last {unfinished : Unfinished} {bits : Nat}
    (takes : unfinished.Takes bits)
    (last : unfinished.missing = 1) (rest : List UInt8) :
    piecesFrom (some unfinished) (continuation bits :: rest) =
      .char (Char.ofNat (unfinished.code * 64 + bits % 64)) :: piecesFrom none rest := by
  rw [piecesFrom, feed_last takes last]
  rfl

private theorem piecesFrom_more {unfinished : Unfinished} {bits : Nat}
    (takes : unfinished.Takes bits)
    (more : 1 < unfinished.missing) (rest : List UInt8) :
    ∃ next : Unfinished, piecesFrom (some unfinished) (continuation bits :: rest) =
        piecesFrom (some next) rest ∧ next.code = unfinished.code * 64 + bits % 64 ∧
      next.missing = unfinished.missing - 1 ∧ ∀ further, next.Takes further := by
  rw [piecesFrom, feed_more takes more]
  refine ⟨_, rfl, rfl, rfl, ?_⟩
  intro further
  simp only [Unfinished.Takes, UInt8.reduceToNat]
  omega

private theorem piecesFrom_begins {byte : UInt8} {code missing bits : Nat}
    (begins : Begins byte code missing bits) (rest : List UInt8) :
    ∃ unfinished : Unfinished, piecesFrom none (byte :: rest) = piecesFrom (some unfinished) rest ∧
      unfinished.code = code ∧ unfinished.missing = missing ∧ unfinished.Takes bits := by
  rcases begins with ⟨unfinished, started, known⟩
  refine ⟨unfinished, ?_, known⟩
  rw [piecesFrom, feed, started]
  rfl

private theorem encodeChar_eq (char : Char) :
    encodeChar char =
      if char.toNat < 0x80 then [UInt8.ofNat char.toNat]
      else if char.toNat < 0x800 then
        [UInt8.ofNat (0xC0 + char.toNat / 64), continuation char.toNat]
      else if char.toNat < 0x10000 then
        [UInt8.ofNat (0xE0 + char.toNat / 4096), continuation (char.toNat / 64),
          continuation char.toNat]
      else
        [UInt8.ofNat (0xF0 + char.toNat / 262144), continuation (char.toNat / 4096),
          continuation (char.toNat / 64), continuation char.toNat] := by
  simp only [encodeChar, continuation, Nat.shiftRight_eq_div_pow, Nat.reducePow, Nat.div_one]

private theorem piecesFrom_encodeChar (char : Char) (rest : List UInt8) :
    piecesFrom none (encodeChar char ++ rest) = .char char :: piecesFrom none rest := by
  have valid : char.toNat < 0xD800 ∨ 0xDFFF < char.toNat ∧ char.toNat < 0x110000 := char.valid
  rw [encodeChar_eq]
  split_ifs with single double triple
  · rw [List.singleton_append, piecesFrom, feed, start_single single, Char.ofNat_toNat]
    rfl
  · simp only [List.cons_append, List.nil_append]
    rcases piecesFrom_begins (begins_double (Nat.le_of_not_lt single) double)
        (continuation char.toNat :: rest) with ⟨first, begun, code, missing, takes⟩
    have all : first.code * 64 + char.toNat % 64 = char.toNat := by omega
    rw [begun, piecesFrom_last takes missing, all, Char.ofNat_toNat]
  · simp only [List.cons_append, List.nil_append]
    rcases piecesFrom_begins (begins_triple (Nat.le_of_not_lt double) triple (by omega))
        (continuation (char.toNat / 64) :: continuation char.toNat :: rest) with
      ⟨first, begun, code, missing, takes⟩
    rcases piecesFrom_more takes (by omega) (continuation char.toNat :: rest) with
      ⟨second, further, secondCode, secondMissing, takesAll⟩
    have all : second.code * 64 + char.toNat % 64 = char.toNat := by omega
    rw [begun, further, piecesFrom_last (takesAll _) (by omega), all, Char.ofNat_toNat]
  · simp only [List.cons_append, List.nil_append]
    rcases piecesFrom_begins (begins_quadruple (Nat.le_of_not_lt triple) (by omega))
        (continuation (char.toNat / 4096) :: continuation (char.toNat / 64) ::
          continuation char.toNat :: rest) with
      ⟨first, begun, code, missing, takes⟩
    rcases piecesFrom_more takes (by omega)
        (continuation (char.toNat / 64) :: continuation char.toNat :: rest) with
      ⟨second, further, secondCode, secondMissing, takesAll⟩
    rcases piecesFrom_more (takesAll (char.toNat / 64)) (by omega)
        (continuation char.toNat :: rest) with
      ⟨third, furthest, thirdCode, thirdMissing, thirdTakesAll⟩
    have all : third.code * 64 + char.toNat % 64 = char.toNat := by omega
    rw [begun, further, furthest, piecesFrom_last (thirdTakesAll _) (by omega), all,
      Char.ofNat_toNat]

private theorem pieces_encode (chars : List Char) : pieces (encode chars) = chars.map .char := by
  unfold pieces encode
  induction chars with
  | nil => rfl
  | cons head tail induction =>
      rw [List.flatMap_cons, piecesFrom_encodeChar, induction, List.map_cons]

theorem decode?_encode (chars : List Char) : decode? (encode chars) = some chars := by
  rw [decode?, pieces_encode]
  induction chars with
  | nil => rfl
  | cons head tail induction => simp [induction]

/-! ## Single bytes

A byte below 0x80 stands for one character and is part of no other.
-/

theorem toNat_of_mem_encodeChar {char : Char} {byte : UInt8} (member : byte ∈ encodeChar char)
    (small : byte.toNat < 0x80) : char.toNat = byte.toNat := by
  have valid : char.toNat < 0xD800 ∨ 0xDFFF < char.toNat ∧ char.toNat < 0x110000 := char.valid
  have continued (bits : Nat) : byte ≠ continuation bits := by
    rintro rfl
    rw [toNat_continuation] at small
    omega
  have first {code : Nat} (large : 0x80 ≤ code) (bounded : code < 0x100) :
      byte ≠ UInt8.ofNat code := by
    rintro rfl
    rw [toNat_byte bounded] at small
    omega
  rw [encodeChar_eq] at member
  split_ifs at member <;> simp only [List.mem_cons, List.not_mem_nil, or_false, continued] at member
  · rw [member, toNat_byte (by omega)]
  all_goals exact absurd member (first (by omega) (by omega))

/-- Whether the character that is left unfinished has a code above those of single bytes. -/
def Unfinished.IsLong (unfinished : Unfinished) : Prop :=
  2 ≤ unfinished.code ∨
    1 < unfinished.missing ∧ (1 ≤ unfinished.code ∨ 0x82 ≤ unfinished.lowest.toNat)

private theorem toNat_ofNat_of_pos {code : Nat} (positive : 0 < (Char.ofNat code).toNat) :
    (Char.ofNat code).toNat = code := by
  by_cases valid : code.isValidChar
  · rw [Char.ofNat, dif_pos valid]
    rfl
  · rw [Char.ofNat, dif_neg valid] at positive
    cases positive

private theorem isLong_of_start {byte : UInt8} {unfinished : Unfinished}
    (started : (start byte).2 = some unfinished) : unfinished.IsLong := by
  unfold start at started
  simp only [UInt8.lt_iff_toNat_lt, ← UInt8.toNat_inj, UInt8.reduceToNat] at started
  split_ifs at started <;> cases started <;> simp only [Unfinished.IsLong, UInt8.reduceToNat] <;>
    omega

private theorem toNat_of_mem_start {byte : UInt8} {char : Char} (positive : 0 < char.toNat)
    (member : .char char ∈ (start byte).1) : byte.toNat = char.toNat := by
  unfold start at member
  split at member
  · obtain rfl : char = Char.ofNat byte.toNat := by simpa using member
    exact (toNat_ofNat_of_pos positive).symm
  · split_ifs at member <;> simp at member

private theorem isLong_of_feed {pending : Option Unfinished}
    (long : ∀ unfinished ∈ pending, unfinished.IsLong) {byte : UInt8} :
    ∀ unfinished ∈ (feed pending byte).2, unfinished.IsLong := by
  intro next isNext
  cases pending with
  | none => exact isLong_of_start isNext
  | some unfinished =>
      simp only [feed] at isNext
      split_ifs at isNext with between last
      · cases isNext
      · cases isNext
        simp only [UInt8.le_iff_toNat_le] at between
        have isLong := long unfinished rfl
        simp only [Unfinished.IsLong] at isLong ⊢
        omega
      · exact isLong_of_start isNext

private theorem toNat_of_mem_feed {pending : Option Unfinished}
    (long : ∀ unfinished ∈ pending, unfinished.IsLong) {byte : UInt8} {char : Char}
    (positive : 0 < char.toNat) (small : char.toNat < 0x80)
    (member : .char char ∈ (feed pending byte).1) : byte.toNat = char.toNat := by
  cases pending with
  | none => exact toNat_of_mem_start positive member
  | some unfinished =>
      simp only [feed] at member
      split_ifs at member with between last
      · rw [List.mem_singleton, Piece.char.injEq] at member
        rw [member] at positive small
        rw [toNat_ofNat_of_pos positive] at small
        have isLong := long unfinished rfl
        simp only [Unfinished.IsLong] at isLong
        omega
      · cases member
      · exact toNat_of_mem_start positive (by simpa using member)

private theorem exists_byte_of_mem_piecesFrom {char : Char} (positive : 0 < char.toNat)
    (small : char.toNat < 0x80) {bytes : List UInt8} {pending : Option Unfinished}
    (long : ∀ unfinished ∈ pending, unfinished.IsLong)
    (member : .char char ∈ piecesFrom pending bytes) :
    ∃ byte ∈ bytes, byte.toNat = char.toNat := by
  induction bytes generalizing pending with
  | nil => cases pending <;> simp [piecesFrom] at member
  | cons byte rest induction =>
      rw [piecesFrom, List.mem_append] at member
      rcases member with now | later
      · exact ⟨byte, List.mem_cons_self, toNat_of_mem_feed long positive small now⟩
      · rcases induction (isLong_of_feed long) later with ⟨other, inRest, equal⟩
        exact ⟨other, List.mem_cons_of_mem byte inRest, equal⟩

theorem exists_byte_of_mem_pieces {char : Char} (positive : 0 < char.toNat)
    (small : char.toNat < 0x80) {bytes : List UInt8} (member : .char char ∈ pieces bytes) :
    ∃ byte ∈ bytes, byte.toNat = char.toNat :=
  exists_byte_of_mem_piecesFrom positive small (fun _ pending => absurd pending (by simp)) member

end ImportAtlas.Text.Utf8
