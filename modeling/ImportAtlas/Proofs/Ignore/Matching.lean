import ImportAtlas.Ignore.Pattern
import ImportAtlas.Proofs.Text.Matching

/-! # What patterns match

A piece of a pattern consumes texts of a certain form, whatever comes after them, and pieces one
after the other consume such texts one after the other. Main statement: a row of pieces matches a
text exactly if the text is a front that its first pieces consume and a rest that the others match.
-/

namespace ImportAtlas.Ignore

open Text

theorem forall_isNameChar_iff {chars : List Char} :
    (∀ char ∈ chars, isNameChar char = true) ↔ '/' ∉ chars := by
  simp [isNameChar, List.forall_mem_ne']

private theorem forall_isLineChar_iff {chars : List Char} :
    (∀ char ∈ chars, isLineChar char = true) ↔ '\n' ∉ chars := by
  simp [isLineChar, List.forall_mem_ne']

/-! ## Single pieces -/

def GlobSymbol.Consumes : GlobSymbol → List Char → Prop
  | .literal code, front => ∃ char, .char char = code ∧ front = [char]
  | .anyChar, front => ∃ char, isNameChar char = true ∧ front = [char]
  | .anyChars, front => '/' ∉ front
  | .bracket negated items, front =>
      ∃ char, (items.any (·.contains char) != negated) = true ∧ front = [char]

theorem GlobSymbol.mem_rests {symbol : GlobSymbol} {text rest : List Char} :
    rest ∈ symbol.rests text ↔ ∃ front, symbol.Consumes front ∧ text = front ++ rest := by
  cases symbol with
  | anyChars => simp only [rests, mem_restsOfRun, forall_isNameChar_iff, Consumes]
  | literal | anyChar | bracket =>
      simp only [rests, mem_restsOfChar, Consumes, beq_iff_eq]
      constructor
      · rintro ⟨char, accepted, rfl⟩
        exact ⟨[char], ⟨char, accepted, rfl⟩, rfl⟩
      · rintro ⟨_, ⟨char, accepted, rfl⟩, rfl⟩
        exact ⟨char, accepted, rfl⟩

def PathPiece.Consumes : PathPiece → List Char → Prop
  | .slash, front => front = ['/']
  | .symbol glob, front => glob.Consumes front
  | .component, front => front ≠ [] ∧ '/' ∉ front
  | .leadingDirectories, front =>
      front = [] ∨ ∃ upper, upper ≠ [] ∧ '\n' ∉ upper ∧ front = upper ++ ['/']
  | .descendants, front => ∃ below, '\n' ∉ below ∧ front = '/' :: below
  | .innerDirectories, front =>
      front = [] ∨ ∃ below, below ≠ [] ∧ '\n' ∉ below ∧ front = '/' :: below
  | .selfOrDescendants, front => front = [] ∨ ∃ below, '\n' ∉ below ∧ front = '/' :: below
  | .belowAnyDirectory, front =>
      ∃ upper below, upper ≠ [] ∧ '\n' ∉ upper ∧ '\n' ∉ below ∧ front = upper ++ '/' :: below

private theorem mem_restsOfSlash {text rest : List Char} :
    rest ∈ restsOfSlash text ↔ text = '/' :: rest := by
  simp [restsOfSlash]

/-- A piece consumes the same texts whatever comes after them. -/
theorem PathPiece.mem_rests {piece : PathPiece} {text rest : List Char} :
    rest ∈ piece.rests text ↔ ∃ front, piece.Consumes front ∧ text = front ++ rest := by
  cases piece with
  | slash => simp [rests, Consumes, mem_restsOfSlash]
  | symbol glob => exact GlobSymbol.mem_rests
  | component => simp [rests, Consumes, forall_isNameChar_iff, and_assoc]
  | leadingDirectories =>
      simp only [rests, List.mem_append, List.mem_flatMap, mem_restsOfSome, mem_restsOfSlash,
        forall_isLineChar_iff, List.mem_singleton, Consumes]
      constructor
      · rintro (⟨_, ⟨upper, nonempty, oneLine, rfl⟩, rfl⟩ | rfl)
        · exact ⟨upper ++ ['/'], Or.inr ⟨upper, nonempty, oneLine, rfl⟩, by simp⟩
        · exact ⟨[], Or.inl rfl, rfl⟩
      · rintro ⟨_, rfl | ⟨upper, nonempty, oneLine, rfl⟩, rfl⟩
        · exact Or.inr rfl
        · exact Or.inl ⟨'/' :: rest, ⟨upper, nonempty, oneLine, by simp⟩, rfl⟩
  | descendants =>
      simp only [rests, List.mem_flatMap, mem_restsOfSlash, mem_restsOfRun, forall_isLineChar_iff,
        Consumes]
      constructor
      · rintro ⟨_, rfl, below, oneLine, rfl⟩
        exact ⟨'/' :: below, ⟨below, oneLine, rfl⟩, rfl⟩
      · rintro ⟨_, ⟨below, oneLine, rfl⟩, rfl⟩
        exact ⟨below ++ rest, rfl, below, oneLine, rfl⟩
  | innerDirectories =>
      simp only [rests, List.mem_append, List.mem_flatMap, mem_restsOfSlash, mem_restsOfSome,
        forall_isLineChar_iff, List.mem_singleton, Consumes]
      constructor
      · rintro (⟨_, rfl, below, nonempty, oneLine, rfl⟩ | rfl)
        · exact ⟨'/' :: below, Or.inr ⟨below, nonempty, oneLine, rfl⟩, rfl⟩
        · exact ⟨[], Or.inl rfl, rfl⟩
      · rintro ⟨_, rfl | ⟨below, nonempty, oneLine, rfl⟩, rfl⟩
        · exact Or.inr rfl
        · exact Or.inl ⟨below ++ rest, rfl, below, nonempty, oneLine, rfl⟩
  | selfOrDescendants =>
      simp only [rests, List.mem_append, List.mem_flatMap, mem_restsOfSlash, mem_restsOfRun,
        forall_isLineChar_iff, List.mem_singleton, Consumes]
      constructor
      · rintro (⟨_, rfl, below, oneLine, rfl⟩ | rfl)
        · exact ⟨'/' :: below, Or.inr ⟨below, oneLine, rfl⟩, rfl⟩
        · exact ⟨[], Or.inl rfl, rfl⟩
      · rintro ⟨_, rfl | ⟨below, oneLine, rfl⟩, rfl⟩
        · exact Or.inr rfl
        · exact Or.inl ⟨below ++ rest, rfl, below, oneLine, rfl⟩
  | belowAnyDirectory =>
      simp only [rests, List.mem_flatMap, mem_restsOfSome, mem_restsOfSlash, mem_restsOfRun,
        forall_isLineChar_iff, Consumes]
      constructor
      · rintro ⟨_, ⟨_, ⟨upper, nonempty, upperLine, rfl⟩, rfl⟩, below, belowLine, rfl⟩
        exact ⟨upper ++ '/' :: below, ⟨upper, below, nonempty, upperLine, belowLine, rfl⟩, by simp⟩
      · rintro ⟨_, ⟨upper, below, nonempty, upperLine, belowLine, rfl⟩, rfl⟩
        exact ⟨below ++ rest, ⟨'/' :: (below ++ rest), ⟨upper, nonempty, upperLine, by simp⟩, rfl⟩,
          below, belowLine, rfl⟩

/-! ## Rows of pieces -/

theorem matchPieces_nil_iff {text : List Char} :
    matchPieces [] text = true ↔ text = [] ∨ text = ['\n'] := by
  simp [matchPieces]

theorem matchPieces_cons_iff {piece : PathPiece} {pieces : List PathPiece} {text : List Char} :
    matchPieces (piece :: pieces) text = true ↔
      ∃ front rest, piece.Consumes front ∧ matchPieces pieces rest = true ∧
        text = front ++ rest := by
  rw [matchPieces, List.any_eq_true]
  constructor
  · rintro ⟨rest, left, matched⟩
    rcases PathPiece.mem_rests.mp left with ⟨front, consumed, equal⟩
    exact ⟨front, rest, consumed, matched, equal⟩
  · rintro ⟨front, rest, consumed, matched, equal⟩
    exact ⟨rest, PathPiece.mem_rests.mpr ⟨front, consumed, equal⟩, matched⟩

def Takes : List PathPiece → List Char → Prop
  | [], front => front = []
  | piece :: pieces, front =>
      ∃ first others, piece.Consumes first ∧ Takes pieces others ∧ front = first ++ others

theorem matchPieces_append {first second : List PathPiece} {text : List Char} :
    matchPieces (first ++ second) text = true ↔
      ∃ front rest, Takes first front ∧ matchPieces second rest = true ∧ text = front ++ rest := by
  induction first generalizing text with
  | nil => simp [Takes]
  | cons piece pieces induction =>
      rw [List.cons_append, matchPieces_cons_iff]
      constructor
      · rintro ⟨front, rest, consumed, matched, rfl⟩
        rcases induction.mp matched with ⟨others, last, taken, lastMatched, rfl⟩
        exact ⟨front ++ others, last, ⟨front, others, consumed, taken, rfl⟩, lastMatched,
          (List.append_assoc front others last).symm⟩
      · rintro ⟨_, last, ⟨front, others, consumed, taken, rfl⟩, lastMatched, rfl⟩
        exact ⟨front, others ++ last, consumed, induction.mpr ⟨others, last, taken, lastMatched,
          rfl⟩, List.append_assoc front others last⟩

end ImportAtlas.Ignore
