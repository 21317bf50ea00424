import ImportAtlas.Proofs.Import.Written
import ImportAtlas.Proofs.Text.Blank
import ImportAtlas.Proofs.Text.Matching

/-! # The grammar of import statements

A statement is an opening and a target between two quotes. What can be an opening is said here
without a way to look for it. Main statement: a statement is found at the front of a text exactly
if the text starts with an opening, a quote, a target and a quote, and there is only one way to read
it so.
-/

namespace ImportAtlas.Import

open Text

/-! ## Openings -/

/-- Names and signs after `import`, with white space around them, that end in `from`. The white
space in front and at least one more character come before the `from`. -/
structure IsClause (clause : List Char) : Prop where
  opens : clause.head?.any isBlank = true
  chars : ∀ char ∈ clause, isClauseChar char = true
  closes : clause.getLast?.any isBlank = true
  origin : ∃ front, dropTrailingBlanks clause = front ++ "from".toList ∧ 2 ≤ front.length

def IsOpening (opening : List Char) : Prop :=
  opening = "require(".toList ∨
    ∃ gap, opening = "import".toList ++ gap ∧
      ((gap ≠ [] ∧ ∀ char ∈ gap, isBlank char = true) ∨ IsClause gap)

theorem isClauseChar_of_isBlank {char : Char} (blank : isBlank char = true) :
    isClauseChar char = true := by
  simp [isClauseChar, blank]

private theorem isClauseChar_from : ∀ char ∈ "from".toList, isClauseChar char = true :=
  List.all_eq_true.mp (by decide)

private theorem dropTrailingBlanks_append_from (front : List Char) {blanks : List Char}
    (blank : ∀ char ∈ blanks, isBlank char = true) :
    dropTrailingBlanks (front ++ "from".toList ++ blanks) = front ++ "from".toList := by
  have notBlank : isBlank 'm' = false := by decide
  have parts : front ++ "from".toList ++ blanks = front ++ "fro".toList ++ ['m'] ++ blanks := by
    simp
  rw [parts, dropTrailingBlanks, dropEndWhile_append _ notBlank blank]
  simp

namespace IsClause

/-- A clause is white space, some characters, `from` and white space again: its first character is
the white space in front, and what is dropped at its end the white space behind. -/
private theorem exists_parts {clause : List Char} (isClause : IsClause clause) :
    ∃ before names after,
      (before ≠ [] ∧ ∀ char ∈ before, isBlank char = true) ∧
      (names ≠ [] ∧ ∀ char ∈ names, isClauseChar char = true) ∧
      (after ≠ [] ∧ ∀ char ∈ after, isBlank char = true) ∧
      clause = before ++ (names ++ ("from".toList ++ after)) := by
  rcases isClause.origin with ⟨front, dropped, long⟩
  rcases exists_dropEndWhile_append isBlank clause with ⟨after, afterBlank, equal⟩
  rw [← dropTrailingBlanks, dropped] at equal
  have afterSome : after ≠ [] := by
    intro nothing
    have notBlank : isBlank 'm' = false := by decide
    have closes := isClause.closes
    rw [equal, nothing, List.append_nil, List.getLast?_append] at closes
    simp [notBlank] at closes
  have frontLength : 0 < front.length := by omega
  rcases List.exists_cons_of_length_pos frontLength with ⟨first, names, rfl⟩
  have firstBlank : isBlank first = true := by simpa [equal] using isClause.opens
  have namesSome : names ≠ [] := by
    intro nothing
    simp [nothing] at long
  refine ⟨[first], names, after, ⟨by simp, by simpa using firstBlank⟩, ⟨namesSome, ?_⟩,
    ⟨afterSome, afterBlank⟩, by simp [equal]⟩
  intro char member
  apply isClause.chars
  simp [equal, member]

private theorem of_parts {before names after : List Char} (beforeSome : before ≠ [])
    (beforeBlank : ∀ char ∈ before, isBlank char = true) (namesSome : names ≠ [])
    (namesChars : ∀ char ∈ names, isClauseChar char = true) (afterSome : after ≠ [])
    (afterBlank : ∀ char ∈ after, isBlank char = true) :
    IsClause (before ++ (names ++ ("from".toList ++ after))) where
  opens := by
    rcases List.exists_cons_of_ne_nil beforeSome with ⟨first, others, rfl⟩
    simpa using beforeBlank first List.mem_cons_self
  chars := by
    intro char member
    simp only [List.mem_append] at member
    rcases member with inBefore | inNames | inFrom | inAfter
    · exact isClauseChar_of_isBlank (beforeBlank char inBefore)
    · exact namesChars char inNames
    · exact isClauseChar_from char inFrom
    · exact isClauseChar_of_isBlank (afterBlank char inAfter)
  closes := by
    rcases List.eq_nil_or_concat after with nothing | ⟨inner, last, rfl⟩
    · exact absurd nothing afterSome
    · have ending : before ++ (names ++ ("from".toList ++ inner.concat last)) =
          before ++ names ++ "from".toList ++ inner ++ [last] := by simp
      rw [ending, List.getLast?_concat]
      exact afterBlank last (by simp)
  origin := by
    refine ⟨before ++ names, ?_, ?_⟩
    · rw [← dropTrailingBlanks_append_from (before ++ names) afterBlank]
      simp only [List.append_assoc]
    · have beforeLength := List.length_pos_iff.mpr beforeSome
      have namesLength := List.length_pos_iff.mpr namesSome
      rw [List.length_append]
      omega

end IsClause

private theorem isQuote_eq_false_of_isClauseChar {char : Char}
    (inClause : isClauseChar char = true) :
    isQuote char = false := by
  rw [Bool.eq_false_iff]
  intro quote
  simp only [isQuote, Bool.or_eq_true, beq_iff_eq] at quote
  rcases quote with rfl | rfl
  · exact absurd inClause (by decide)
  · exact absurd inClause (by decide)

theorem IsOpening.unquoted {opening : List Char} (isOpening : IsOpening opening) :
    ∀ char ∈ opening, isQuote char = false := by
  rcases isOpening with rfl | ⟨gap, rfl, isGap⟩
  · simp [isQuote]
  · intro char member
    rcases List.mem_append.mp member with inWord | inGap
    · have unquoted : ∀ other ∈ "import".toList, isQuote other = false := by simp [isQuote]
      exact unquoted char inWord
    · apply isQuote_eq_false_of_isClauseChar
      rcases isGap with ⟨_, blank⟩ | isClause
      · exact isClauseChar_of_isBlank (blank char inGap)
      · exact isClause.chars char inGap

/-! ### What is left after an opening -/

private theorem mem_restsOfClause {text rest : List Char} :
    rest ∈ restsOfClause text ↔ ∃ names after,
      (names ≠ [] ∧ ∀ char ∈ names, isClauseChar char = true) ∧
      (after ≠ [] ∧ ∀ char ∈ after, isBlank char = true) ∧
      text = names ++ ("from".toList ++ after) ++ rest := by
  simp only [restsOfClause, List.mem_flatMap, mem_restsOfSome, mem_restsOfWord]
  constructor
  · intro given
    rcases given with ⟨_, ⟨_, ⟨names, namesSome, namesChars, rfl⟩, rfl⟩, after, afterSome,
      afterBlank, rfl⟩
    exact ⟨names, after, ⟨namesSome, namesChars⟩, ⟨afterSome, afterBlank⟩, by simp⟩
  · intro given
    rcases given with ⟨names, after, ⟨namesSome, namesChars⟩, ⟨afterSome, afterBlank⟩, rfl⟩
    exact ⟨after ++ rest, ⟨"from".toList ++ (after ++ rest), ⟨names, namesSome, namesChars,
      by simp⟩, rfl⟩, after, afterSome, afterBlank, rfl⟩

private theorem mem_restsOfImport {text rest : List Char} :
    rest ∈ restsOfImport text ↔ ∃ gap,
      ((gap ≠ [] ∧ ∀ char ∈ gap, isBlank char = true) ∨ IsClause gap) ∧
      text = "import".toList ++ gap ++ rest := by
  simp only [restsOfImport, List.mem_flatMap, mem_restsOfSome, mem_restsOfWord, List.mem_append,
    mem_restsOfClause, List.mem_singleton]
  constructor
  · intro given
    rcases given with ⟨_, ⟨_, rfl, before, beforeSome, beforeBlank, rfl⟩,
      ⟨names, after, isNames, isAfter, rfl⟩ | rfl⟩
    · refine ⟨before ++ (names ++ ("from".toList ++ after)), Or.inr ?_, by simp⟩
      exact .of_parts beforeSome beforeBlank isNames.1 isNames.2 isAfter.1 isAfter.2
    · exact ⟨before, Or.inl ⟨beforeSome, beforeBlank⟩, by simp⟩
  · intro given
    rcases given with ⟨gap, ⟨gapSome, gapBlank⟩ | isClause, rfl⟩
    · exact ⟨rest, ⟨gap ++ rest, by simp, gap, gapSome, gapBlank, rfl⟩, Or.inr rfl⟩
    · rcases isClause.exists_parts with
        ⟨before, names, after, ⟨beforeSome, beforeBlank⟩, isNames, isAfter, rfl⟩
      refine ⟨names ++ ("from".toList ++ after) ++ rest, ⟨_, List.append_assoc _ _ _, before,
        beforeSome, beforeBlank, by simp⟩, Or.inl ⟨names, after, isNames, isAfter, rfl⟩⟩

theorem mem_restsOfOpening {text rest : List Char} :
    rest ∈ restsOfOpening text ↔ ∃ opening quote, IsOpening opening ∧ isQuote quote = true ∧
      text = opening ++ quote :: rest := by
  simp only [restsOfOpening, List.mem_flatMap, List.mem_append, mem_restsOfImport, mem_restsOfWord,
    mem_restsOfChar, IsOpening]
  constructor
  · intro given
    rcases given with ⟨_, ⟨gap, isGap, rfl⟩ | rfl, quote, isQuote, rfl⟩
    · exact ⟨_, quote, Or.inr ⟨gap, rfl, isGap⟩, isQuote, rfl⟩
    · exact ⟨_, quote, Or.inl rfl, isQuote, rfl⟩
  · intro given
    rcases given with ⟨_, quote, rfl | ⟨gap, rfl, isGap⟩, isQuote, rfl⟩
    · exact ⟨quote :: rest, Or.inr rfl, quote, isQuote, rfl⟩
    · exact ⟨quote :: rest, Or.inl ⟨gap, isGap, rfl⟩, quote, isQuote, rfl⟩

/-! ## Statements -/

private theorem eq_of_mem_restsOfOpening {text left right : List Char}
    (leftOpened : left ∈ restsOfOpening text) (rightOpened : right ∈ restsOfOpening text) :
    left = right := by
  rcases mem_restsOfOpening.mp leftOpened with ⟨opening, quote, isOpening, atQuote, equal⟩
  rcases mem_restsOfOpening.mp rightOpened with ⟨other, otherQuote, isOther, atOther, otherEqual⟩
  have rests : quote :: left = otherQuote :: right := by
    rw [← dropWhile_unquoted isOpening.unquoted atQuote left, ← equal, otherEqual,
      dropWhile_unquoted isOther.unquoted atOther right]
  exact (List.cons.inj rests).2

theorem statement?_eq_some_iff {text target rest : List Char} :
    statement? text = some (target, rest) ↔ ∃ opening quote, IsOpening opening ∧
      isQuote quote = true ∧ ∃ behind, text = opening ++ quote :: behind ∧
        target? behind = some (target, rest) := by
  constructor
  · intro found
    rcases List.exists_of_findSome?_eq_some found with ⟨behind, opened, isTarget⟩
    rcases mem_restsOfOpening.mp opened with ⟨opening, quote, isOpening, atQuote, equal⟩
    exact ⟨opening, quote, isOpening, atQuote, behind, equal, isTarget⟩
  · intro given
    rcases given with ⟨opening, quote, isOpening, atQuote, behind, equal, isTarget⟩
    have opened : behind ∈ restsOfOpening text :=
      mem_restsOfOpening.mpr ⟨opening, quote, isOpening, atQuote, equal⟩
    have someFound : (statement? text).isSome = true := by
      rw [statement?, List.findSome?_isSome_iff]
      exact ⟨behind, opened, by simp [isTarget]⟩
    rcases Option.isSome_iff_exists.mp someFound with ⟨found, isFound⟩
    rcases List.exists_of_findSome?_eq_some isFound with ⟨other, otherOpened, otherTarget⟩
    rw [eq_of_mem_restsOfOpening otherOpened opened, isTarget] at otherTarget
    rw [isFound, otherTarget]

end ImportAtlas.Import
