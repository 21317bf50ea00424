import ImportAtlas.Limits
import ImportAtlas.Proofs.Json.Words
import ImportAtlas.Proofs.Text.Halves

/-! # What is written in JSON

The tokens of a value, and the characters that spell them for the lexer. Main statements: the
characters that are written for a value spell its tokens, and all of them are printable and in
ASCII.
-/

namespace ImportAtlas.Json

open Text (Code Coded unitEscape)

/-! ## Spelling -/

def EndsWord (rest : List Char) : Prop :=
  ∀ char ∈ rest.head?, isWordChar char = false

/-- Whether characters give some tokens wherever they stand, unless a word goes on behind them. -/
def Spells (chars : List Char) (tokens : List Token) : Prop :=
  ∀ rest, EndsWord rest → tokensFrom .idle (chars ++ rest) = tokens ++ tokensFrom .idle rest

theorem endsWord_cons {char : Char} {rest : List Char} (isNoPart : isWordChar char = false) :
    EndsWord (char :: rest) := by
  rintro _ ⟨⟩
  exact isNoPart

theorem Spells.tokens_eq {chars : List Char} {expected : List Token}
    (spells : Spells chars expected) : tokens chars = expected := by
  have all := spells [] (by simp [EndsWord])
  rwa [List.append_nil, tokensFrom, lexEnd, List.append_nil] at all

theorem tokensFrom_cons (state : LexState) (char : Char) (rest : List Char) :
    tokensFrom state (char :: rest) =
      (lexStep state char).1 ++ tokensFrom (lexStep state char).2 rest :=
  rfl

/-! ## Words -/

private theorem idleStep_of_isWordChar {char : Char} (isPart : isWordChar char = true) :
    idleStep char = ([], .word [char]) := by
  unfold idleStep
  split
  all_goals first
    | (exfalso; revert isPart; decide)
    | rw [if_pos isPart]

private theorem tokensFrom_word_append {chars : List Char} (isWord : IsWord chars)
    (reversed rest : List Char) :
    tokensFrom (.word reversed) (chars ++ rest) =
      tokensFrom (.word (chars.reverse ++ reversed)) rest := by
  induction chars generalizing reversed with
  | nil => rfl
  | cons char others induction =>
      have isPart := isWord char List.mem_cons_self
      simp only [List.cons_append, tokensFrom, lexStep, isPart, if_true, List.nil_append]
      rw [induction fun other member => isWord other (.tail char member)]
      simp

private theorem tokensFrom_word_end {rest : List Char} (ends : EndsWord rest)
    (reversed : List Char) :
    tokensFrom (.word reversed) rest = wordTokens reversed.reverse ++ tokensFrom .idle rest := by
  cases rest with
  | nil => simp [tokensFrom, lexEnd]
  | cons char others =>
      have isNoPart := ends char rfl
      simp [tokensFrom, lexStep, isNoPart]

theorem spells_word {chars : List Char} (isWord : IsWord chars) (nonempty : chars ≠ []) :
    Spells chars (wordTokens chars) := by
  intro rest ends
  obtain ⟨first, others, rfl⟩ := List.exists_cons_of_ne_nil nonempty
  have isPart := isWord first List.mem_cons_self
  rw [List.cons_append, tokensFrom_cons, lexStep, idleStep_of_isWordChar isPart, List.nil_append,
    tokensFrom_word_append (fun char member => isWord char (.tail first member)),
    tokensFrom_word_end ends]
  simp

/-! ## Texts -/

private theorem hexValue?_hexDigit (number : Nat) :
    Text.hexValue? (Text.hexDigit number) = some (number % 16) := by
  have ofDigit : ∀ digit : Fin 16,
      Text.hexValue? (Text.hexAlphabet.getD digit.val '0') = some digit.val := by decide
  exact ofDigit ⟨number % 16, Nat.mod_lt _ (by decide)⟩

private theorem tokensFrom_unitEscape {unit : Nat} (isUnit : unit < 0x10000) (reversed : Coded)
    (rest : List Char) :
    tokensFrom (.text reversed) (unitEscape unit ++ rest) =
      tokensFrom (.text (pushCode (.ofNumber unit) reversed)) rest := by
  have whole : 16 * (16 * (16 * (unit / 16 / 16 / 16 % 16) + unit / 16 / 16 % 16) +
      unit / 16 % 16) + unit % 16 = unit := by omega
  simp [unitEscape, Text.hexDigits, tokensFrom, lexStep, Text.hexNumber?, hexValue?_hexDigit, whole]

private theorem pushCode_high {position : Fin 0x800} (isHigh : position.val < 0x400)
    (reversed : Coded) :
    pushCode (.half position) reversed = .half position :: reversed := by
  match reversed with
  | [] => rfl
  | .char _ :: _ => rfl
  | .half last :: before => rw [pushCode, Coded.pair?, if_neg (by omega)]

/-- The two units of a character outside the basic plane are read as that character. -/
private theorem pushCode_units {offset : Nat} (isOffset : offset < 0x100000) (reversed : Coded) :
    pushCode (.ofNumber (0xDC00 + offset % 0x400))
        (pushCode (.ofNumber (0xD800 + offset / 0x400)) reversed) =
      .char (Char.ofNat (0x10000 + offset)) :: reversed := by
  have highSmall : offset / 0x400 < 0x800 := by omega
  have lowSmall : 0x400 + offset % 0x400 < 0x800 := by omega
  have high : Code.ofNumber (0xD800 + offset / 0x400) = .half ⟨offset / 0x400, highSmall⟩ :=
    Code.ofNumber_firstHalf_add highSmall
  have low : Code.ofNumber (0xDC00 + offset % 0x400) =
    .half ⟨0x400 + offset % 0x400, lowSmall⟩ := by
    rw [← Code.ofNumber_firstHalf_add lowSmall, ← Nat.add_assoc]
    rfl
  have isHigh : offset / 0x400 < 0x400 := by omega
  have whole : 0x10000 + offset / 0x400 * 0x400 + (0x400 + offset % 0x400 - 0x400) =
      0x10000 + offset := by omega
  have pushed : pushCode (.half ⟨offset / 0x400, highSmall⟩) reversed =
      .half ⟨offset / 0x400, highSmall⟩ :: reversed := pushCode_high isHigh reversed
  rw [high, low, pushed, pushCode, Coded.pair?, if_pos ⟨isHigh, by simp⟩]
  simp only [whole]

/-- What is written for a code is read as that code, after all that was read before it. -/
private theorem tokensFrom_codeChars (code : Code) (reversed : Coded) (rest : List Char) :
    tokensFrom (.text reversed) (codeChars code ++ rest) =
      tokensFrom (.text (pushCode code reversed)) rest := by
  cases code with
  | half position =>
      have isUnit : (Code.half position).number < 0x10000 := by
        rw [Code.number, Text.firstHalf]
        omega
      rw [codeChars, tokensFrom_unitEscape isUnit, Code.ofNumber_number]
      simp
  | char value =>
      have small := Text.toNat_lt value
      rw [codeChars, textChar, Text.pushCode_char]
      -- One case for each character with an escape of its own.
      iterate 7
        split
        · rename_i isSpecial
          subst isSpecial
          rfl
      split
      · rename_i notQuote notBackslash _ _ _ _ _ isPlain
        simp [tokensFrom_cons, lexStep, notQuote, notBackslash, Nat.not_lt.mpr isPlain.1]
      · split
        · rename_i isUnit
          rw [tokensFrom_unitEscape isUnit, Code.ofNumber_toNat, Text.pushCode_char]
        · rename_i notUnit
          have whole : 0x10000 + (value.toNat - 0x10000) = value.toNat := by omega
          rw [List.append_assoc, tokensFrom_unitEscape (by omega), tokensFrom_unitEscape (by omega),
            pushCode_units (by omega), whole, Char.ofNat_toNat]

private theorem tokensFrom_codes (text reversed : Coded) (rest : List Char) :
    tokensFrom (.text reversed) (text.flatMap codeChars ++ rest) =
      tokensFrom (.text (text.foldl (fun reversed code => pushCode code reversed) reversed))
        rest := by
  induction text generalizing reversed with
  | nil => rfl
  | cons code others induction =>
      rw [List.flatMap_cons, List.append_assoc, tokensFrom_codeChars, induction, List.foldl_cons]

theorem spells_textChars (text : Coded) : Spells (textChars text) [.text text.joinPairs] := by
  intro rest _
  have opened : tokensFrom .idle (textChars text ++ rest) =
      tokensFrom (.text []) (text.flatMap codeChars ++ ('"' :: rest)) := by
    simp [textChars, tokensFrom_cons, lexStep, idleStep]
  rw [opened, tokensFrom_codes, tokensFrom_cons]
  simp [lexStep, Text.foldl_pushCode]

/-! ## Rows -/

theorem Spells.append {front tail : List Char} {tokens others : List Token}
    (isFront : Spells front tokens) (isTail : Spells tail others)
    (ends : ∀ rest, EndsWord (tail ++ rest)) : Spells (front ++ tail) (tokens ++ others) := by
  intro rest restEnds
  rw [List.append_assoc, isFront _ (ends rest), isTail rest restEnds, List.append_assoc]

theorem Spells.cons (char : Char) {chars : List Char} {marks tokens : List Token}
    (isMark : idleStep char = (marks, .idle)) (spelled : Spells chars tokens) :
    Spells (char :: chars) (marks ++ tokens) := by
  intro rest ends
  rw [List.cons_append, tokensFrom_cons, lexStep, isMark, spelled rest ends, List.append_assoc]

theorem spells_nil : Spells [] [] :=
  fun _ _ => rfl

theorem spells_commaSeparated {written : List (List Char)} {tokens : List (List Token)}
    (spelled : List.Forall₂ Spells written tokens) :
    Spells (commaSeparated written) ([.comma].intercalate tokens) := by
  induction spelled with
  | nil => exact spells_nil
  | cons first others induction =>
      cases others with
      | nil => simpa [commaSeparated] using first
      | cons next rest =>
          have more := Spells.cons ',' rfl (Spells.cons ' ' rfl induction)
          rw [commaSeparated, List.intercalate_cons_cons, List.intercalate_cons_cons,
            List.append_assoc, List.append_assoc]
          exact first.append more fun _ => endsWord_cons rfl

theorem Spells.enclosed {opening closing : Char} {first last : Token} {body : List Char}
    {tokens : List Token} (spelled : Spells body tokens)
    (opens : idleStep opening = ([first], .idle))
    (closes : idleStep closing = ([last], .idle)) (isNoPart : isWordChar closing = false) :
    Spells (opening :: body ++ [closing]) (first :: tokens ++ [last]) := by
  have closed := spelled.append (Spells.cons closing closes spells_nil) fun _ =>
    endsWord_cons isNoPart
  exact (Spells.cons opening opens closed :)

/-! ## Values -/

mutual

/-- The tokens of a value. In its texts the halves that stand side by side make one character. -/
def valueTokens : Json → List Token
  | .text value => [.text value.joinPairs]
  | .array items => .openArray :: [.comma].intercalate (itemsTokens items) ++ [.closeArray]
  | .object members => .openObject :: [.comma].intercalate (membersTokens members) ++ [.closeObject]
  | value => [.scalar value]

def itemsTokens : List Json → List (List Token)
  | [] => []
  | head :: tail => valueTokens head :: itemsTokens tail

def membersTokens : List (Coded × Json) → List (List Token)
  | [] => []
  | (name, value) :: tail =>
      (.text name.joinPairs :: .colon :: valueTokens value) :: membersTokens tail

end

def SpellsMember (written : Coded × List Char) (member : Coded × Json) : Prop :=
  written.1 = member.1 ∧ Spells written.2 (valueTokens member.2)

private theorem spells_member {written : Coded × List Char} {member : Coded × Json}
    (spelled : SpellsMember written member) :
    Spells (textChars written.1 ++ ':' :: ' ' :: written.2)
      (.text member.1.joinPairs :: .colon :: valueTokens member.2) := by
  have value := Spells.cons ':' rfl (Spells.cons ' ' rfl spelled.2)
  rw [spelled.1]
  exact (spells_textChars member.1).append value fun _ => endsWord_cons rfl

private theorem spells_objectChars {written : List (Coded × List Char)}
    {members : List (Coded × Json)}
    (spelled : List.Forall₂ SpellsMember written members) :
    Spells (objectChars written) (valueTokens (.object members)) := by
  have rows : List.Forall₂ Spells
      (written.map fun member => textChars member.1 ++ ':' :: ' ' :: member.2)
      (membersTokens members) := by
    induction spelled with
    | nil => exact .nil
    | cons first others induction => exact .cons (spells_member first) induction
  exact (spells_commaSeparated rows).enclosed rfl rfl rfl

mutual

/-- Whether a value can be written and read back: its integers are not too long, and its numbers are
doubles. -/
def isWritable : Json → Bool
  | .int value => value.natAbs < WriteFault.integerBound
  | .float (.finite _ significand exponent) => Binary64.IsDouble significand exponent
  | .array items => itemsWritable items
  | .object members => membersWritable members
  | _ => true

def itemsWritable : List Json → Bool
  | [] => true
  | head :: tail => isWritable head && itemsWritable tail

def membersWritable : List (Coded × Json) → Bool
  | [] => true
  | (_, value) :: tail => isWritable value && membersWritable tail

end

theorem membersWritable_iff {members : List (Coded × Json)} :
    membersWritable members = true ↔ ∀ member ∈ members, member.2.isWritable = true := by
  induction members with
  | nil => simp [membersWritable]
  | cons member others induction => simp [membersWritable, induction]

theorem length_toDigits_le_iff {number : Nat} :
    (Nat.toDigits 10 number).length ≤ Decimal.digitLimit ↔ number < WriteFault.integerBound := by
  have bounded {limit : Nat} (positive : 0 < limit) :
      (Nat.toDigits 10 number).length ≤ limit ↔ number < Nat.pow 10 limit :=
    Nat.length_toDigits_le_iff (by decide) positive
  unfold WriteFault.integerBound
  exact bounded (by decide)

private theorem spells_float {number : Binary64} (writable : isWritable (.float number) = true) :
    Spells (floatText number).toList [.scalar (.float number)] := by
  have read : wordTokens (floatText number).toList = [.scalar (.float number)] := by
    cases number with
    | notANumber => rfl
    | infinite negative => cases negative <;> rfl
    | finite negative significand exponent =>
        exact wordTokens_finite (of_decide_eq_true (by simpa [isWritable] using writable)) negative
  refine read ▸ spells_word (isWord_floatText number) fun isEmpty => ?_
  rw [isEmpty] at read
  cases read

private theorem spells_int {number : Int} (writable : isWritable (.int number) = true) :
    Spells (toString number).toList [.scalar (.int number)] := by
  have few : number.natAbs < WriteFault.integerBound :=
    of_decide_eq_true (by rwa [isWritable] at writable)
  have read := wordTokens_int (length_toDigits_le_iff.mpr few)
  refine read ▸ spells_word (isWord_toString_int number) fun isEmpty => ?_
  rw [isEmpty] at read
  cases read

mutual

theorem spells_chars : (value : Json) → value.isWritable = true →
    Spells value.chars (valueTokens value)
  | .null, _ => spells_word (by decide) (by decide)
  | .bool true, _ => spells_word (by decide) (by decide)
  | .bool false, _ => spells_word (by decide) (by decide)
  | .int _, writable => spells_int writable
  | .float _, writable => spells_float writable
  | .text value, _ => spells_textChars value
  | .array items, writable =>
      (spells_commaSeparated (spells_itemsChars items writable)).enclosed rfl rfl rfl
  | .object members, writable =>
      spells_objectChars (spells_membersChars members writable)

theorem spells_itemsChars : (items : List Json) → itemsWritable items = true →
    List.Forall₂ Spells (itemsChars items) (itemsTokens items)
  | [], _ => .nil
  | head :: tail, writable =>
      .cons (spells_chars head (Bool.and_eq_true_iff.mp writable).1)
        (spells_itemsChars tail (Bool.and_eq_true_iff.mp writable).2)

theorem spells_membersChars : (members : List (Coded × Json)) → membersWritable members = true →
    List.Forall₂ SpellsMember (membersChars members) members
  | [], _ => .nil
  | (_, value) :: tail, writable =>
      .cons ⟨rfl, spells_chars value (Bool.and_eq_true_iff.mp writable).1⟩
        (spells_membersChars tail (Bool.and_eq_true_iff.mp writable).2)

end

/-! ## Printable characters -/

/-- Whether all characters are printable ones of ASCII, of which none ends a line. -/
def IsPrintable (chars : List Char) : Prop :=
  ∀ char ∈ chars, 32 ≤ char.toNat ∧ char.toNat < 127

instance (chars : List Char) : Decidable (IsPrintable chars) :=
  List.decidableBAll (fun char : Char => 32 ≤ char.toNat ∧ char.toNat < 127) chars

theorem IsPrintable.append {front tail : List Char} (isFront : IsPrintable front)
    (isTail : IsPrintable tail) : IsPrintable (front ++ tail) := by
  intro char member
  exact (List.mem_append.mp member).elim (isFront char) (isTail char)

theorem IsPrintable.cons {char : Char} {tail : List Char}
    (isFirst : 32 ≤ char.toNat ∧ char.toNat < 127) (isTail : IsPrintable tail) :
    IsPrintable (char :: tail) :=
  List.forall_mem_cons.mpr ⟨isFirst, isTail⟩

private theorem isPrintable_flatMap {α : Type} {rows : List α} {write : α → List Char}
    (each : ∀ row ∈ rows, IsPrintable (write row)) : IsPrintable (rows.flatMap write) := by
  intro char member
  obtain ⟨row, inRows, inRow⟩ := List.mem_flatMap.mp member
  exact each row inRows char inRow

private theorem isPrintable_of_isWord {chars : List Char} (isWord : IsWord chars) :
    IsPrintable chars := by
  intro char member
  have kinds : char.isAlphanum = true ∨ char = '+' ∨ char = '-' ∨ char = '.' := by
    simpa [isWordChar, or_assoc] using isWord char member
  rcases kinds with alphanumeric | rfl | rfl | rfl
  · rcases Bool.or_eq_true_iff.mp alphanumeric with letter | digit
    · rcases Bool.or_eq_true_iff.mp letter with upper | lower
      · have inRange : 'A'.toNat ≤ char.toNat ∧ char.toNat ≤ 'Z'.toNat := of_decide_eq_true upper
        simp only [Char.reduceToNat] at inRange
        omega
      · have inRange : 'a'.toNat ≤ char.toNat ∧ char.toNat ≤ 'z'.toNat :=
          (Bool.and_eq_true_iff.mp lower).imp of_decide_eq_true of_decide_eq_true
        simp only [Char.reduceToNat] at inRange
        omega
    · have inRange := Char.isDigit_iff_toNat.mp digit
      simp only [Char.reduceToNat] at inRange
      omega
  all_goals decide

private theorem isPrintable_hexDigits (width number : Nat) :
    IsPrintable (Text.hexDigits width number) := by
  have ofDigit : ∀ digit : Fin 16, IsPrintable [Text.hexAlphabet.getD digit.val '0'] := by decide
  induction width generalizing number with
  | zero => exact fun _ member => nomatch member
  | succ width induction =>
      exact (induction (number / 16)).append (ofDigit ⟨number % 16, Nat.mod_lt _ (by decide)⟩)

theorem isPrintable_unitEscape (unit : Nat) : IsPrintable (unitEscape unit) :=
  .cons (by decide) (.cons (by decide) (isPrintable_hexDigits 4 unit))

private theorem isPrintable_textChar (char : Char) : IsPrintable (textChar char) := by
  unfold textChar
  iterate 7
    split
    · decide
  split
  · rename_i isPlain
    rintro _ (_ | ⟨_, ⟨⟩⟩)
    exact isPlain
  · split
    · exact isPrintable_unitEscape _
    · exact (isPrintable_unitEscape _).append (isPrintable_unitEscape _)

theorem isPrintable_textChars (text : Coded) : IsPrintable (textChars text) := by
  have each : ∀ code ∈ text, IsPrintable (codeChars code) := by
    intro code _
    cases code with
    | char value => exact isPrintable_textChar value
    | half position => exact isPrintable_unitEscape _
  exact (IsPrintable.cons (by decide) (isPrintable_flatMap each)).append (by decide)

theorem isPrintable_commaSeparated {written : List (List Char)}
    (each : ∀ row ∈ written, IsPrintable row) : IsPrintable (commaSeparated written) := by
  induction written with
  | nil => exact fun _ member => nomatch member
  | cons row others induction =>
      rcases List.forall_mem_cons.mp each with ⟨first, rest⟩
      cases others with
      | nil => simpa [commaSeparated] using first
      | cons next tail =>
          rw [commaSeparated, List.intercalate_cons_cons]
          exact (first.append (by decide)).append (induction rest)

private theorem isPrintable_objectChars {written : List (Coded × List Char)}
    (each : ∀ member ∈ written, IsPrintable member.2) : IsPrintable (objectChars written) := by
  refine (IsPrintable.cons (by decide) (isPrintable_commaSeparated ?_)).append (by decide)
  intro row isRow
  obtain ⟨member, inMembers, rfl⟩ := List.mem_map.mp isRow
  exact (isPrintable_textChars member.1).append
    (.cons (by decide) (.cons (by decide) (each member inMembers)))

mutual

theorem isPrintable_chars : (value : Json) → IsPrintable value.chars
  | .null => by decide
  | .bool true => by decide
  | .bool false => by decide
  | .int number => isPrintable_of_isWord (isWord_toString_int number)
  | .float number => isPrintable_of_isWord (isWord_floatText number)
  | .text value => isPrintable_textChars value
  | .array items =>
      (IsPrintable.cons (by decide)
        (isPrintable_commaSeparated (isPrintable_itemsChars items))).append (by decide)
  | .object members => isPrintable_objectChars (isPrintable_membersChars members)

theorem isPrintable_itemsChars : (items : List Json) → ∀ row ∈ itemsChars items, IsPrintable row
  | [] => fun _ member => nomatch member
  | head :: tail => List.forall_mem_cons.mpr ⟨isPrintable_chars head, isPrintable_itemsChars tail⟩

theorem isPrintable_membersChars : (members : List (Coded × Json)) →
    ∀ member ∈ membersChars members, IsPrintable member.2
  | [] => fun _ member => nomatch member
  | (_, value) :: tail =>
      List.forall_mem_cons.mpr ⟨isPrintable_chars value, isPrintable_membersChars tail⟩

end

end ImportAtlas.Json
