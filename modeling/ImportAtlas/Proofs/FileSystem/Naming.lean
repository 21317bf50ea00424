import ImportAtlas.FileSystem.Name
import ImportAtlas.Proofs.Outcome
import ImportAtlas.Proofs.Path.Lexical
import ImportAtlas.Proofs.Text.Utf8

/-! # Texts that name files

A text of characters is taken as a row of bytes and read back from it. So it names the file with
that very name. A text without a slash, whatever bytes it stands for, names a directory itself or
one of its members.
-/

namespace ImportAtlas

namespace Text.Coded

private theorem nameBytes?_ofText (text : String) :
    (ofText text).nameBytes? = some (Utf8.encode text.toList) := by
  have named (chars : List Char) :
      (chars.map Code.char).mapM Code.nameBytes? = some (chars.map Utf8.encodeChar) := by
    induction chars with
    | nil => rfl
    | cons head tail induction => simp [Code.nameBytes?, induction]
  rw [nameBytes?, ofText, named, Option.map_some, ← List.flatMap_def]
  rfl

private theorem toNat_ne_slash {name : Coded} (plain : .char '/' ∉ name) {bytes : List UInt8}
    (named : name.nameBytes? = some bytes) : ∀ byte ∈ bytes, byte.toNat ≠ '/'.toNat := by
  intro byte member isSlash
  rcases Option.map_eq_some_iff.mp named with ⟨rows, areRows, rfl⟩
  rcases List.mem_flatten.mp member with ⟨row, isRow, inRow⟩
  rcases Outcome.exists_of_mem_mapM areRows isRow with ⟨code, inName, ofCode⟩
  cases code with
  | char value =>
      cases ofCode
      have same := Utf8.toNat_of_mem_encodeChar inRow (by rw [isSlash]; decide)
      rw [Char.toNat_inj.mp (same.trans isSlash)] at inName
      exact plain inName
  | half position =>
      simp only [Code.nameBytes?] at ofCode
      split at ofCode
      · cases ofCode
        rw [List.mem_singleton.mp inRow, Utf8.toNat_byte (by omega)] at isSlash
        have slash : '/'.toNat = 0x2F := rfl
        omega
      · cases ofCode

end Text.Coded

namespace Location

theorem ofName?_ofText (text : String) : ofName? (.ofText text) = some (.ofText text) := by
  simp [ofName?, Text.Coded.nameBytes?_ofText, Text.Utf8.decode?_encode]

theorem named?_ofText (base : Location) (text : String) :
    base.named? (.ofText text) = some (base.child text) := by
  rw [named?, ofName?_ofText]
  rfl

/-- Whether a place is a directory itself or a member, as seen from the directory. -/
def IsUndivided (file : Location) : Prop :=
  file.anchor = "" ∧ file.parts.length ≤ 1

instance (file : Location) : Decidable file.IsUndivided :=
  inferInstanceAs (Decidable (_ ∧ _))

private theorem isUndivided_ofText {text : String} (plain : '/' ∉ text.toList) :
    (ofText text).IsUndivided := by
  constructor
  · exact Path.anchor_eq_empty fun first => plain (List.mem_of_mem_head? first)
  · rw [ofText, Path.components_of_not_mem plain]
    exact List.length_filter_le _ _

private theorem isUndivided_ofStrayBytes {bytes : List UInt8}
    (plain : .char '/' ∉ Text.Utf8.pieces bytes) : (ofStrayBytes bytes).IsUndivided := by
  constructor
  · refine Path.anchor_eq_empty fun first => ?_
    rw [String.toList_ofList, Text.Utf8.decodeLenient] at first
    rcases List.mem_map.mp (List.mem_of_mem_head? first) with ⟨piece, member, isSlash⟩
    cases piece with
    | char value =>
        cases isSlash
        exact plain member
    | fault => cases isSlash
  · refine Nat.le_trans (List.length_filter_le _ _) ?_
    rw [List.length_map, Text.split_of_not_mem]
    · exact Nat.le_refl 1
    · intro member
      rcases List.mem_flatMap.mp member with ⟨piece, inPieces, isSlash⟩
      cases piece with
      | char value =>
          cases List.mem_singleton.mp isSlash
          exact plain inPieces
      | fault => cases List.eq_of_mem_replicate isSlash

theorem isUndivided_of_ofName? {name : Text.Coded} (plain : .char '/' ∉ name) {file : Location}
    (named : ofName? name = some file) : file.IsUndivided := by
  rcases Option.map_eq_some_iff.mp named with ⟨bytes, areBytes, rfl⟩
  have whole : .char '/' ∉ Text.Utf8.pieces bytes := by
    intro member
    rcases Text.Utf8.exists_byte_of_mem_pieces (by decide) (by decide) member with
      ⟨byte, inBytes, isSlash⟩
    exact Text.Coded.toNat_ne_slash plain areBytes byte inBytes isSlash
  cases decoded : Text.Utf8.decode? bytes with
  | none => exact isUndivided_ofStrayBytes whole
  | some chars =>
      refine isUndivided_ofText fun member => whole ?_
      rw [String.toList_ofList] at member
      rcases Outcome.exists_of_mem_mapM decoded member with ⟨piece, inPieces, isSlash⟩
      cases piece with
      | char value =>
          cases isSlash
          exact inPieces
      | fault => cases isSlash

end Location

end ImportAtlas
