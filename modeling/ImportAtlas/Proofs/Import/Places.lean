import ImportAtlas.Proofs.Import.Grammar

/-! # Scans for import statements

A statement stands at a place, given by its first character and its two quotes. A scan takes one
statement after the other, each time the first one that starts behind the last. Main statement: the
targets of a text are those of its only scan.
-/

namespace ImportAtlas.Import

/-! ## Places -/

structure Place where
  start : Nat
  opened : Nat
  closed : Nat
deriving DecidableEq, Repr

structure IsNextQuote (text : List Char) (start quote : Nat) : Prop where
  after : start ≤ quote
  isQuote : text[quote]?.any isQuote = true
  first : ∀ char ∈ text.extract start quote, Import.isQuote char = false

/-- A statement of a text: an opening up to the next quote, and a target up to the quote after. -/
structure IsStatement (text : List Char) (place : Place) : Prop where
  opening : IsNextQuote text place.start place.opened
  closing : IsNextQuote text (place.opened + 1) place.closed
  nonempty : place.opened + 1 < place.closed
  isOpening : IsOpening (text.extract place.start place.opened)

def Place.target (text : List Char) (place : Place) : List Char :=
  text.extract (place.opened + 1) place.closed

/-- A scan of a text from a position on, by the statements that it takes: the first one that starts
there or later, and those of the scan from behind its closing quote. -/
inductive Scans (text : List Char) : Nat → List Place → Prop
  | finished {position : Nat} (noMore : ∀ place, IsStatement text place → place.start < position) :
      Scans text position []
  | statement {position : Nat} {place : Place} {places : List Place}
      (after : position ≤ place.start) (isStatement : IsStatement text place)
      (first : ∀ other, IsStatement text other → position ≤ other.start →
        place.start ≤ other.start)
      (further : Scans text (place.closed + 1) places) :
      Scans text position (place :: places)

variable {text : List Char}

theorem drop_eq_extract_append {start stop : Nat} (ordered : start ≤ stop) :
    text.drop start = text.extract start stop ++ text.drop stop := by
  have back : text.drop stop = (text.drop start).drop (stop - start) := by
    rw [List.drop_drop, Nat.add_sub_cancel' ordered]
  rw [back, List.extract_eq_take_drop, List.take_append_drop]

namespace IsNextQuote

variable {start quote : Nat}

theorem lt_length (next : IsNextQuote text start quote) : quote < text.length := by
  rcases (Option.any_eq_true _ _).mp next.isQuote with ⟨_, present, _⟩
  exact (List.getElem?_eq_some_iff.mp present).1

theorem exists_drop_eq (next : IsNextQuote text start quote) :
    ∃ char, Import.isQuote char = true ∧
      text.drop start = text.extract start quote ++ char :: text.drop (quote + 1) := by
  rcases (Option.any_eq_true _ _).mp next.isQuote with ⟨char, present, isQuote⟩
  rcases List.getElem?_eq_some_iff.mp present with ⟨inText, rfl⟩
  refine ⟨text[quote], isQuote, ?_⟩
  rw [← List.drop_eq_getElem_cons inText]
  exact drop_eq_extract_append next.after

theorem unique {other : Nat} (next : IsNextQuote text start quote)
    (nextOther : IsNextQuote text start other) : quote = other := by
  rcases next.exists_drop_eq with ⟨char, isQuote, equal⟩
  rcases nextOther.exists_drop_eq with ⟨otherChar, isOtherQuote, otherEqual⟩
  have fronts : text.extract start quote = text.extract start other := by
    rw [← takeWhile_unquoted next.first isQuote, ← equal, otherEqual,
      takeWhile_unquoted nextOther.first isOtherQuote]
  have lengths := congrArg List.length fronts
  simp only [List.length_take, List.length_drop] at lengths
  have quoteBound := next.lt_length
  have otherBound := nextOther.lt_length
  have quoteAfter := next.after
  have otherAfter := nextOther.after
  omega

private theorem of_drop_eq {front rest : List Char} {char : Char}
    (unquoted : ∀ char ∈ front, Import.isQuote char = false) (isQuote : Import.isQuote char = true)
    (equal : text.drop start = front ++ char :: rest) :
    IsNextQuote text start (start + front.length) ∧
      text.extract start (start + front.length) = front ∧
      text.drop (start + front.length + 1) = rest := by
  have between : text.extract start (start + front.length) = front := by
    simp [List.extract_eq_take_drop, equal]
  refine ⟨⟨by omega, ?_, ?_⟩, between, ?_⟩
  · rw [← List.getElem?_drop, equal]
    simpa using isQuote
  · rw [between]
    exact unquoted
  · rw [Nat.add_assoc, ← List.drop_drop, equal, ← List.drop_drop]
    simp

end IsNextQuote

theorem IsStatement.start_le_closed {place : Place} (isStatement : IsStatement text place) :
    place.start ≤ place.closed := by
  have opened := isStatement.opening.after
  have nonempty := isStatement.nonempty
  omega

theorem IsStatement.target_ne_nil {place : Place} (isStatement : IsStatement text place) :
    place.target text ≠ [] := by
  have bound := isStatement.closing.lt_length
  have nonempty := isStatement.nonempty
  apply List.ne_nil_of_length_pos
  simp only [Place.target, List.length_take, List.length_drop]
  omega

theorem statement?_drop_eq_some_iff {start : Nat} {target rest : List Char} :
    statement? (text.drop start) = some (target, rest) ↔
      ∃ place, IsStatement text place ∧ place.start = start ∧ place.target text = target ∧
        text.drop (place.closed + 1) = rest := by
  rw [statement?_eq_some_iff]
  constructor
  · intro given
    rcases given with ⟨opening, quote, isOpening, atQuote, behind, equal, isTarget⟩
    rcases target?_eq_some_iff.mp isTarget with ⟨nonempty, unquoted, last, atLast, rfl⟩
    rcases IsNextQuote.of_drop_eq isOpening.unquoted atQuote equal with
      ⟨opened, openingEq, behindEq⟩
    rcases IsNextQuote.of_drop_eq unquoted atLast behindEq with ⟨closed, targetEq, restEq⟩
    refine ⟨⟨start, _, _⟩, ⟨opened, closed, ?_, ?_⟩, rfl, targetEq, restEq⟩
    · have targetLength := List.length_pos_iff.mpr nonempty
      show start + opening.length + 1 < start + opening.length + 1 + target.length
      omega
    · show IsOpening (text.extract start (start + opening.length))
      rw [openingEq]
      exact isOpening
  · intro given
    rcases given with ⟨place, isStatement, rfl, rfl, rfl⟩
    rcases isStatement.opening.exists_drop_eq with ⟨quote, atQuote, openedEq⟩
    rcases isStatement.closing.exists_drop_eq with ⟨last, atLast, closedEq⟩
    refine ⟨_, quote, isStatement.isOpening, atQuote, _, openedEq, ?_⟩
    exact target?_eq_some_iff.mpr
      ⟨isStatement.target_ne_nil, isStatement.closing.first, last, atLast, closedEq⟩

private theorem statement?_drop_eq_none_iff {start : Nat} :
    statement? (text.drop start) = none ↔
      ∀ place, IsStatement text place → place.start ≠ start := by
  constructor
  · intro nothing place isStatement starts
    have found := statement?_drop_eq_some_iff.mpr ⟨place, isStatement, starts, rfl, rfl⟩
    rw [nothing] at found
    cases found
  · intro noPlace
    cases found : statement? (text.drop start) with
    | none => rfl
    | some statement =>
        rcases statement?_drop_eq_some_iff.mp found with ⟨place, isStatement, starts, _⟩
        exact absurd starts (noPlace place isStatement)

theorem IsStatement.unique {place other : Place} (isStatement : IsStatement text place)
    (isOther : IsStatement text other) (sameStart : place.start = other.start) :
    place = other := by
  rcases place with ⟨start, opened, closed⟩
  rcases other with ⟨otherStart, otherOpened, otherClosed⟩
  simp only at sameStart
  subst sameStart
  have sameOpened : opened = otherOpened := isStatement.opening.unique isOther.opening
  subst sameOpened
  have sameClosed : closed = otherClosed := isStatement.closing.unique isOther.closing
  rw [sameClosed]

/-! ## Scans -/

namespace Scans

variable {position : Nat} {places : List Place}

theorem unique {others : List Place} (scanned : Scans text position places)
    (otherScanned : Scans text position others) : places = others := by
  induction scanned generalizing others with
  | finished noMore =>
      cases otherScanned with
      | finished => rfl
      | statement after isStatement =>
          have before := noMore _ isStatement
          omega
  | @statement position place places after isStatement first further induction =>
      cases otherScanned with
      | finished noMore =>
          have before := noMore place isStatement
          omega
      | @statement _ other _ otherAfter isOther otherFirst otherFurther =>
          have notLater := first other isOther otherAfter
          have notEarlier := otherFirst place isStatement after
          have same : place = other := isStatement.unique isOther (by omega)
          subst same
          rw [induction otherFurther]

private theorem pass (noStatement : ∀ place, IsStatement text place → place.start ≠ position)
    (scanned : Scans text (position + 1) places) : Scans text position places := by
  cases scanned with
  | finished noMore =>
      apply Scans.finished
      intro place isStatement
      have bound := noMore place isStatement
      have notHere := noStatement place isStatement
      omega
  | statement after isStatement first further =>
      apply Scans.statement (by omega) isStatement ?_ further
      intro other isOther otherAfter
      have notHere := noStatement other isOther
      apply first other isOther
      omega

private theorem le_start (scanned : Scans text position places) :
    ∀ place ∈ places, position ≤ place.start := by
  induction scanned with
  | finished => nofun
  | statement after isStatement first further induction =>
      intro place member
      rcases List.mem_cons.mp member with rfl | later
      · exact after
      · have behind := induction place later
        have bound := isStatement.start_le_closed
        omega

private theorem pairwise (scanned : Scans text position places) :
    places.Pairwise fun left right => left.closed < right.start := by
  induction scanned with
  | finished => exact List.Pairwise.nil
  | statement after isStatement first further induction =>
      apply List.Pairwise.cons
      · intro place later
        exact further.le_start place later
      · exact induction

private theorem isStatement_of_mem (scanned : Scans text position places) :
    ∀ place ∈ places, IsStatement text place := by
  induction scanned with
  | finished => nofun
  | statement after isStatement first further induction =>
      exact List.forall_mem_cons.mpr ⟨isStatement, induction⟩

private theorem exists_covering (scanned : Scans text position places) {place : Place}
    (isStatement : IsStatement text place) (after : position ≤ place.start) :
    ∃ taken ∈ places, taken.start ≤ place.start ∧ place.start ≤ taken.closed := by
  induction scanned with
  | finished noMore =>
      have before := noMore place isStatement
      omega
  | @statement position taken places takenAfter isTaken first further induction =>
      have notBefore := first place isStatement after
      by_cases inside : place.start ≤ taken.closed
      · exact ⟨taken, List.mem_cons_self, notBefore, inside⟩
      · rcases induction (by omega) with ⟨other, member, covers⟩
        exact ⟨other, List.mem_cons_of_mem taken member, covers⟩

end Scans

private theorem exists_scans (text : List Char) (position : Nat) :
    ∃ places, Scans text position places ∧
      targetsFrom 0 (text.drop position) = places.map (Place.target text) := by
  by_cases ended : text.length ≤ position
  · refine ⟨[], Scans.finished ?_, by simp [List.drop_eq_nil_of_le ended, targetsFrom]⟩
    intro place isStatement
    have bound := isStatement.opening.lt_length
    have opened := isStatement.opening.after
    omega
  · have left := List.drop_eq_getElem_cons (Nat.lt_of_not_le ended)
    cases found : statement? (text.drop position) with
    | none =>
        rcases exists_scans text (position + 1) with ⟨places, scanned, targets⟩
        refine ⟨places, scanned.pass (statement?_drop_eq_none_iff.mp found), ?_⟩
        rw [left] at found ⊢
        rw [targetsFrom, found]
        exact targets
    | some statement =>
        rcases statement with ⟨target, rest⟩
        rcases statement?_drop_eq_some_iff.mp found with ⟨place, isStatement, starts, rfl, rfl⟩
        have bound := isStatement.start_le_closed
        rcases exists_scans text (place.closed + 1) with ⟨places, scanned, targets⟩
        refine ⟨place :: places, Scans.statement (by omega) isStatement ?_ scanned, ?_⟩
        · intro other _ after
          omega
        · have behind : text.drop (position + 1) =
              text.extract (position + 1) (place.closed + 1) ++ text.drop (place.closed + 1) :=
            drop_eq_extract_append (by omega)
          rw [left, behind] at found ⊢
          rw [targetsFrom_of_statement? found, targets, List.map_cons]
termination_by text.length - position

/-- The targets of a text are those of its scan, which is unique. They are not empty and have no
quotes. The statements do not overlap, and every other statement of the text starts inside one that
is taken. -/
theorem targets_exact (content : String) :
    ∃ places, Scans content.toList 0 places ∧
      (∀ others, Scans content.toList 0 others → others = places) ∧
      targets content = places.map (fun place => String.ofList (place.target content.toList)) ∧
      (∀ target ∈ targets content, IsQuotable target) ∧
      places.Pairwise (fun left right => left.closed < right.start) ∧
      ∀ place, IsStatement content.toList place →
        ∃ taken ∈ places, taken.start ≤ place.start ∧ place.start ≤ taken.closed := by
  rcases exists_scans content.toList 0 with ⟨places, scanned, found⟩
  have given : targets content =
      places.map fun place => String.ofList (place.target content.toList) := by
    rw [List.drop_zero] at found
    rw [targets, found, List.map_map]
    rfl
  refine ⟨places, scanned, fun others otherScanned => otherScanned.unique scanned, given, ?_,
    scanned.pairwise, fun place isStatement =>
      scanned.exists_covering isStatement (Nat.zero_le place.start)⟩
  intro target member
  rw [given, List.mem_map] at member
  rcases member with ⟨place, taken, rfl⟩
  have isStatement := scanned.isStatement_of_mem place taken
  constructor
  · simpa using isStatement.target_ne_nil
  · rw [String.toList_ofList]
    exact isStatement.closing.first

end ImportAtlas.Import
