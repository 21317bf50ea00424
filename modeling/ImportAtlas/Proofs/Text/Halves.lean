import ImportAtlas.Json.Token
import Mathlib.Data.List.Chain

/-! # Halves of surrogate pairs

Main statement: reading the codes of a text one after the other, and joining two halves as soon as
they stand side by side, gives the text with its pairs joined.
-/

namespace ImportAtlas.Text

variable {code next : Code} {text rest : Coded}

/-! ## Codes -/

private theorem number_lt (char : Char) :
    char.toNat < firstHalf ∨ firstHalf + 0x800 ≤ char.toNat := by
  have valid : char.toNat < 0xD800 ∨ 0xDFFF < char.toNat ∧ char.toNat < 0x110000 := char.valid
  rw [firstHalf]
  omega

theorem toNat_lt (char : Char) : char.toNat < 0x110000 := by
  have valid : char.toNat < 0xD800 ∨ 0xDFFF < char.toNat ∧ char.toNat < 0x110000 := char.valid
  omega

theorem Code.ofNumber_toNat (char : Char) : ofNumber char.toNat = .char char := by
  have apart := number_lt char
  rw [ofNumber, dif_neg (by omega), Char.ofNat_toNat]

theorem Code.ofNumber_firstHalf_add {position : Nat} (isHalf : position < 0x800) :
    ofNumber (firstHalf + position) = .half ⟨position, isHalf⟩ := by
  simp [ofNumber, isHalf]

theorem Code.ofNumber_number (code : Code) : ofNumber code.number = code := by
  cases code with
  | char value => exact ofNumber_toNat value
  | half position => exact ofNumber_firstHalf_add position.isLt

/-! ## Texts without halves -/

namespace Coded

theorem whole?_ofText (text : String) : (ofText text).whole? = some text := by
  have each : (ofText text).mapM Code.char? = some text.toList := by
    rw [ofText]
    induction text.toList with
    | nil => rfl
    | cons char others induction => simp [List.mapM_cons, Code.char?, induction]
  rw [whole?, each, Option.map_some, String.ofList_toList]

theorem ofText_injective : Function.Injective ofText := by
  intro left right same
  have wholes := whole?_ofText left
  rw [same, whole?_ofText] at wholes
  exact (Option.some.inj wholes).symm

@[simp] theorem ofText_inj {left right : String} : ofText left = ofText right ↔ left = right :=
  ofText_injective.eq_iff

@[simp] theorem mem_ofText {char : Char} {text : String} :
    .char char ∈ ofText text ↔ char ∈ text.toList := by
  simp [ofText]

@[simp] theorem ofText_append (front back : String) :
    ofText (front ++ back) = ofText front ++ ofText back := by
  simp [ofText]

/-! ## Joining -/

/-- Whether no two halves that make a character stand side by side in a text. -/
def IsUnpaired (text : Coded) : Prop :=
  text.IsChain fun code next => pair? code next = none

instance (text : Coded) : Decidable text.IsUnpaired :=
  inferInstanceAs (Decidable (List.IsChain _ text))

private theorem pair?_char (code : Code) (char : Char) : pair? code (.char char) = none := by
  cases code <;> rfl

theorem joinPairs_cons (noPair : ∀ next ∈ rest.head?, pair? code next = none) :
    joinPairs (code :: rest) = code :: joinPairs rest := by
  cases rest with
  | nil => rfl
  | cons next tail => rw [joinPairs, noPair next rfl]

private theorem joinPairs_char_cons (char : Char) (rest : Coded) :
    joinPairs (.char char :: rest) = .char char :: joinPairs rest :=
  joinPairs_cons fun _ _ => rfl

private theorem joinPairs_cons_cons {char : Char} (isPair : pair? code next = some char)
    (rest : Coded) :
    joinPairs (code :: next :: rest) = .char char :: joinPairs rest := by
  rw [joinPairs, isPair]

theorem joinPairs_of_isUnpaired (unpaired : text.IsUnpaired) : joinPairs text = text := by
  induction text with
  | nil => rfl
  | cons code rest induction =>
      rcases List.isChain_cons.mp unpaired with ⟨noPair, unpairedRest⟩
      rw [joinPairs_cons noPair, induction unpairedRest]

theorem isUnpaired_ofText (text : String) : (ofText text).IsUnpaired := by
  rw [ofText]
  induction text.toList with
  | nil => exact .nil
  | cons char others induction => exact List.isChain_cons.mpr ⟨fun _ _ => rfl, induction⟩

theorem isUnpaired_ofText_append (front : String) (unpaired : text.IsUnpaired) :
    (ofText front ++ text).IsUnpaired := by
  refine List.isChain_append.mpr ⟨isUnpaired_ofText front, unpaired, fun code isLast next _ => ?_⟩
  rcases List.mem_map.mp (List.mem_of_getLast? isLast) with ⟨char, _, rfl⟩
  rfl

end Coded

/-! ## Joining while reading -/

open Coded

theorem pushCode_char (char : Char) (reversed : Coded) :
    Json.pushCode (.char char) reversed = .char char :: reversed := by
  cases reversed with
  | nil => rfl
  | cons last before => rw [Json.pushCode, pair?_char]

-- The last code that has been read may still become one with the next, so the induction keeps
-- it apart from those before it.
private theorem foldl_pushCode_cons (text : Coded) (last : Code) (before : Coded) :
    (text.foldl (fun reversed code => Json.pushCode code reversed) (last :: before)).reverse =
      before.reverse ++ joinPairs (last :: text) := by
  induction text generalizing last before with
  | nil => rw [List.foldl_nil, List.reverse_cons]; rfl
  | cons code rest induction =>
      rw [List.foldl_cons, Json.pushCode]
      cases found : pair? last code with
      | none => rw [induction, joinPairs, found, List.reverse_cons, List.append_assoc]; rfl
      | some char => rw [induction, joinPairs_cons_cons found, joinPairs_char_cons]

theorem foldl_pushCode (text : Coded) :
    (text.foldl (fun reversed code => Json.pushCode code reversed) []).reverse =
      joinPairs text := by
  cases text with
  | nil => rfl
  | cons code rest => exact foldl_pushCode_cons rest code []

end ImportAtlas.Text
