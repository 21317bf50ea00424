import ImportAtlas.Proofs.Ignore.Layers
import Mathlib.Data.List.Forall2

/-! # Compiled lines

Lines are compiled one after the other. Main statement: what some lines come to is put together
from what the single lines come to, a line that is no pattern leaves no trace but its report, and
the only lines that keep the others from being compiled are those with a range that ends before it
starts.
-/

namespace ImportAtlas.Ignore

open Text (Code Coded)

open scoped Reported

/-! ## Ranges that end before they start -/

def BracketItem.IsReversed : BracketItem → Prop
  | .single _ => False
  | .range first last => last.number < first.number

def GlobSymbol.HasReversedRange : GlobSymbol → Prop
  | .bracket _ items => ∃ item ∈ items, item.IsReversed
  | _ => False

def lineBody (line : Coded) : Coded :=
  match trimLine (dropLineEnds line) with
  | .char '!' :: body => body
  | text => text

/-- Whether a line is a pattern, apart from a range in it that ends before it starts. -/
def HasReversedRange (line : Coded) : Prop :=
  (trimLine (dropLineEnds line)).head? ≠ some (.char '#') ∧
    ∃ pieces, linePieces? (lineBody line) = some pieces ∧
      ∃ symbol, .symbol symbol ∈ pieces ∧ symbol.HasReversedRange

private theorem reversedItem?_eq_none_iff {position : Nat} {items : List BracketItem} :
    reversedItem? position items = none ↔ ∀ item ∈ items, ¬item.IsReversed := by
  induction items generalizing position with
  | nil => simp [reversedItem?]
  | cons item rest induction =>
      rw [List.forall_mem_cons]
      cases item with
      | single char => simp [reversedItem?, induction, BracketItem.IsReversed]
      | range first last =>
          by_cases reversed : last.number < first.number
          · simp [reversedItem?, BracketItem.IsReversed, reversed]
          · simp [reversedItem?, BracketItem.IsReversed, reversed, induction]

theorem GlobSymbol.reversedRange?_eq_none_iff {position : Nat} {symbol : GlobSymbol} :
    symbol.reversedRange? position = none ↔ ¬symbol.HasReversedRange := by
  cases symbol with
  | bracket negated items =>
      simp [reversedRange?, HasReversedRange, reversedItem?_eq_none_iff]
  | _ => simp [reversedRange?, HasReversedRange]

theorem reversedRange?_eq_none_iff {position : Nat} {pieces : List PathPiece} :
    reversedRange? position pieces = none ↔
      ∀ symbol, .symbol symbol ∈ pieces → ¬symbol.HasReversedRange := by
  induction pieces generalizing position with
  | nil => simp [reversedRange?]
  | cons piece rest induction =>
      cases piece with
      | symbol glob =>
          have headFirst : (∀ symbol, .symbol symbol ∈ PathPiece.symbol glob :: rest →
                ¬symbol.HasReversedRange) ↔
              ¬glob.HasReversedRange ∧ ∀ symbol, .symbol symbol ∈ rest →
                ¬symbol.HasReversedRange := by
            simp
          rw [headFirst, reversedRange?]
          cases own : glob.reversedRange? position with
          | none => simp [induction, GlobSymbol.reversedRange?_eq_none_iff.mp own]
          | some range =>
              have reversed : glob.HasReversedRange := by
                by_contra ordered
                rw [GlobSymbol.reversedRange?_eq_none_iff.mpr ordered] at own
                cases own
              simp [reversed]
      | _ => simp [reversedRange?, induction]

private theorem exists_reversedRange?_iff {position : Nat} {pieces : List PathPiece} :
    (∃ range, reversedRange? position pieces = some range) ↔
      ∃ symbol, .symbol symbol ∈ pieces ∧ symbol.HasReversedRange := by
  rw [← Option.ne_none_iff_exists', Ne, reversedRange?_eq_none_iff]
  simp

private theorem exists_reversed_iff {line : Coded} :
    (∃ range expanded, compileLine (dropLineEnds line) = .error (.reversedRange range expanded)) ↔
      HasReversedRange line := by
  unfold HasReversedRange compileLine lineBody
  simp only [← @exists_reversedRange?_iff 1]
  cases trimLine (dropLineEnds line) with
  | nil =>
      have noPieces : linePieces? [] = none := by decide
      simp [noPieces]
  | cons first rest =>
      by_cases isComment : first = .char '#'
      · simp [isComment]
      · by_cases isSlash : first = .char '/' ∧ rest = []
        · rcases isSlash with ⟨rfl, rfl⟩
          have onlyEnd : linePieces? [.char '/'] = some [.selfOrDescendants] := by decide +kernel
          simp [onlyEnd, reversedRange?]
        · by_cases negated : first = .char '!'
          · subst negated
            cases found : linePieces? rest with
            | none => simp [found]
            | some pieces => cases reversed : reversedRange? 1 pieces <;> simp [found, reversed]
          · cases found : linePieces? (first :: rest) with
            | none => simp [isComment, isSlash, negated, found]
            | some pieces =>
                cases reversed : reversedRange? 1 pieces <;>
                  simp [isComment, isSlash, negated, found, reversed]

theorem isReversed_eq_false_iff {line : Coded} :
    isReversed line = false ↔ ¬HasReversedRange line := by
  rw [← exists_reversed_iff, isReversed]
  split
  · rename_i range expanded failed
    simp [failed]
  · rename_i noRange
    simpa using noRange

theorem exists_compileLines_iff_ordered {source : String} {lines : List Coded} :
    (∃ patterns, (compileLines source lines).outcome = .ok patterns) ↔
      ∀ line ∈ lines, ¬HasReversedRange line := by
  simp only [exists_compileLines_iff, isReversed_eq_false_iff]

/-! ## One line after the other -/

theorem compileLines_append (source : String) (first second : List Coded) :
    compileLines source (first ++ second) = do
      let patterns ← compileLines source first
      let others ← compileLines source second
      return patterns ++ others := by
  induction first with
  | nil => simp [compileLines]
  | cons head tail induction =>
      simp only [List.cons_append, compileLines]
      cases compileLine (dropLineEnds head) with
      | error error =>
          cases error with
          | invalid text => simp [induction]
          | reversedRange range expanded => rfl
      | ok found => cases found <;> simp [induction]

theorem compileLines_cons (source : String) (head : Coded) (tail : List Coded) :
    compileLines source (head :: tail) = do
      let patterns ← compileLines source [head]
      let others ← compileLines source tail
      return patterns ++ others :=
  compileLines_append source [head] tail

private theorem outcome_compileLines_iff {source : String} {lines : List Coded}
    {patterns : List Pattern} :
    (compileLines source lines).outcome = .ok patterns ↔
      ∃ results, List.Forall₂ (fun line result =>
        (compileLines source [line]).outcome = .ok result) lines results ∧
          patterns = results.flatten := by
  induction lines generalizing patterns with
  | nil => simp [compileLines, eq_comm]
  | cons head tail induction =>
      rw [compileLines_cons, Reported.outcome_bind_eq_ok_iff]
      simp only [Reported.outcome_bind_eq_ok_iff, Reported.outcome_pure, Except.ok.injEq]
      constructor
      · rintro ⟨own, ownCompiled, others, othersCompiled, rfl⟩
        rcases induction.mp othersCompiled with ⟨results, each, rfl⟩
        exact ⟨own :: results, .cons ownCompiled each, rfl⟩
      · rintro ⟨_, each, rfl⟩
        rcases each with _ | ⟨ownCompiled, each⟩
        exact ⟨_, ownCompiled, _, induction.mpr ⟨_, each, rfl⟩, rfl⟩

private theorem outcome_compileLines_of_failing {source : String} {first : List Coded}
    {line : Coded}
    {second : List Coded} (ordered : ∀ other ∈ first, ¬HasReversedRange other)
    (reversed : HasReversedRange line) :
    (compileLines source (first ++ line :: second)).outcome =
      (compileLines source [line]).outcome := by
  rcases exists_compileLines_iff_ordered.mpr ordered with ⟨patterns, compiled⟩
  have failing : ∀ own, (compileLines source [line]).outcome ≠ .ok own := by
    intro own ownCompiled
    exact exists_compileLines_iff_ordered.mp ⟨own, ownCompiled⟩ line List.mem_cons_self reversed
  rw [compileLines_append, Reported.outcome_bind, compiled, Except.bind, compileLines_cons]
  cases failed : (compileLines source [line]).outcome with
  | error failure => simp [failed, Except.bind]
  | ok own => exact absurd failed (failing own)

private theorem outcome_compileLines_of_skipped {source : String} {line : Coded}
    (skipped : (compileLines source [line]).outcome = .ok []) (first second : List Coded) :
    (compileLines source (first ++ line :: second)).outcome = do
      let patterns ← (compileLines source first).outcome
      let others ← (compileLines source second).outcome
      return patterns ++ others := by
  have behind : (compileLines source (line :: second)).outcome =
      (compileLines source second).outcome := by
    rw [compileLines_cons, Reported.outcome_bind, skipped, Except.bind]
    cases compiled : (compileLines source second).outcome <;> simp [compiled]
  rw [compileLines_append, Reported.outcome_bind]
  simp only [Reported.outcome_bind, behind]
  rfl

/-- Lines are compiled exactly if no range in them ends before it starts, each as if it were alone,
and those without a pattern leave no trace in the result. The first range that ends before it starts
ends the compilation, with the failure that its line has by itself. -/
theorem compileLines_linewise (source : String) :
    (∀ lines patterns, (compileLines source lines).outcome = .ok patterns ↔
      ∃ results, List.Forall₂ (fun line result =>
        (compileLines source [line]).outcome = .ok result) lines results ∧
          patterns = results.flatten) ∧
    (∀ lines, (∃ patterns, (compileLines source lines).outcome = .ok patterns) ↔
      ∀ line ∈ lines, ¬HasReversedRange line) ∧
    (∀ first line second, (compileLines source [line]).outcome = .ok [] →
      (compileLines source (first ++ line :: second)).outcome = do
        let patterns ← (compileLines source first).outcome
        let others ← (compileLines source second).outcome
        return patterns ++ others) ∧
    ∀ first line second, (∀ other ∈ first, ¬HasReversedRange other) → HasReversedRange line →
      (compileLines source (first ++ line :: second)).outcome =
        (compileLines source [line]).outcome := by
  refine ⟨?_, ?_, ?_, ?_⟩
  · exact fun _ _ => outcome_compileLines_iff
  · exact fun _ => exists_compileLines_iff_ordered
  · exact fun first _ second skipped => outcome_compileLines_of_skipped skipped first second
  · exact fun _ _ _ => outcome_compileLines_of_failing

theorem compileLines_linewise_unfinishedEscape :
    (∀ line ∈ (["", "# notes", "a\\"] : List Coded),
        (compileLines ".gitignore" [line]).outcome = .ok []) ∧
      (compileLines ".gitignore" ["a", "a\\", "!b"]).outcome = .ok (patternsOf ["a", "!b"]) ∧
      HasReversedRange "[z-a]" ∧
      (compileLines ".gitignore" ["a", "[z-a]", "!b"]).outcome =
        (compileLines ".gitignore" ["[z-a]"]).outcome := by
  have skipped : ∀ line ∈ (["", "# notes", "a\\"] : List Coded),
      (compileLines ".gitignore" [line]).outcome = .ok [] := by
    decide +kernel
  have reversed : HasReversedRange "[z-a]" :=
    ⟨by decide +kernel,
      [.leadingDirectories, .symbol (.bracket false [.range 'z' 'a']), .selfOrDescendants],
      by decide +kernel, .bracket false [.range 'z' 'a'], by simp, .range 'z' 'a', by simp,
      show 'a'.toNat < 'z'.toNat by decide⟩
  have ordered : ∀ other ∈ (["a"] : List Coded), ¬HasReversedRange other := by
    intro other member
    rw [← isReversed_eq_false_iff, List.mem_singleton.mp member]
    decide +kernel
  rcases compileLines_linewise ".gitignore" with ⟨_, _, between, failing⟩
  have compiled : ∀ line ∈ (["a", "!b"] : List Coded),
      (compileLines ".gitignore" [line]).outcome = .ok (patternsOf [line]) := by
    decide +kernel
  refine ⟨skipped, ?_, reversed, failing ["a"] "[z-a]" ["!b"] ordered reversed⟩
  refine (between ["a"] "a\\" ["!b"] (skipped "a\\" (by simp))).trans ?_
  rw [compiled "a" (by simp), compiled "!b" (by simp)]
  exact congrArg Except.ok (patternsOf_append ["a"] ["!b"]).symm

theorem compileLines_fails_for_reversedRange :
    ¬∃ patterns, (compileLines ".gitignore" ["[z-a]", "*.log"]).outcome = .ok patterns := by
  intro compiled
  have valid := exists_compileLines_iff.mp compiled "[z-a]" List.mem_cons_self
  have reversed : isReversed "[z-a]" = true := by decide +kernel
  rw [reversed] at valid
  cases valid

end ImportAtlas.Ignore
