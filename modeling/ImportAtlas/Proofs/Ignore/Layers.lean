import ImportAtlas.Ignore.Rules
import Mathlib.Data.List.Induction

/-! # Layers of ignore rules

The patterns of some lines are those of the single lines, and a layer without patterns decides
nothing, so it makes no difference whether it is there.
-/

namespace ImportAtlas.Ignore

open Text (Coded)

/-! ## Lines -/

/-- The pattern of one line; a blank, a comment and an invalid line have none. -/
def pattern? (line : Coded) : Option Pattern :=
  match compileLine (dropLineEnds line) with
  | .ok found => found
  | .error _ => none

def patternsOf (lines : List Coded) : List Pattern := lines.filterMap pattern?

theorem patternsOf_append (front back : List Coded) :
    patternsOf (front ++ back) = patternsOf front ++ patternsOf back :=
  List.filterMap_append

/-- Whether a line has a range that ends before it starts. No other line keeps the rules from
being compiled. -/
def isReversed (line : Coded) : Bool :=
  match compileLine (dropLineEnds line) with
  | .error (.reversedRange _ _) => true
  | _ => false

theorem outcome_compileLines (source : String) {lines : List Coded}
    (valid : ∀ line ∈ lines, isReversed line = false) :
    (compileLines source lines).outcome = .ok (patternsOf lines) := by
  induction lines with
  | nil => rfl
  | cons head tail induction =>
      rcases List.forall_mem_cons.mp valid with ⟨headValid, tailValid⟩
      have rest := induction tailValid
      rw [patternsOf] at rest
      rw [patternsOf, List.filterMap_cons, pattern?]
      rw [isReversed] at headValid
      unfold compileLines
      cases compiled : compileLine (dropLineEnds head) with
      | error error =>
          cases error with
          | invalid text => simp [compiled, rest, Except.bind]
          | reversedRange range expanded => simp [compiled] at headValid
      | ok found => cases found <;> simp [compiled, rest, Except.bind]

private theorem eq_patternsOf {source : String} {lines : List Coded} {patterns : List Pattern}
    (compiled : (compileLines source lines).outcome = .ok patterns) :
    patterns = patternsOf lines := by
  induction lines generalizing patterns with
  | nil => simpa [compileLines, patternsOf, eq_comm] using compiled
  | cons head tail induction =>
      rw [patternsOf, List.filterMap_cons, pattern?]
      unfold compileLines at compiled
      cases headCompiled : compileLine (dropLineEnds head) with
      | error error =>
          cases error with
          | invalid text =>
              simp only [headCompiled, Reported.outcome_bind, Reported.outcome_report,
                Except.bind] at compiled
              exact induction compiled
          | reversedRange range expanded => simp [headCompiled, Reported.fail] at compiled
      | ok found =>
          cases found with
          | none =>
              simp only [headCompiled] at compiled
              exact induction compiled
          | some pattern =>
              simp only [headCompiled, Reported.outcome_bind_eq_ok_iff, Reported.outcome_pure,
                Except.ok.injEq] at compiled
              rcases compiled with ⟨rest, tailCompiled, rfl⟩
              rw [induction tailCompiled]
              rfl

theorem exists_compileLines_iff {source : String} {lines : List Coded} :
    (∃ patterns, (compileLines source lines).outcome = .ok patterns) ↔
      ∀ line ∈ lines, isReversed line = false := by
  refine ⟨?_, fun valid => ⟨_, outcome_compileLines source valid⟩⟩
  rintro ⟨patterns, compiled⟩
  induction lines generalizing patterns with
  | nil => simp
  | cons head tail induction =>
      rw [List.forall_mem_cons, isReversed]
      unfold compileLines at compiled
      cases headCompiled : compileLine (dropLineEnds head) with
      | error error =>
          cases error with
          | invalid text =>
              simp only [headCompiled, Reported.outcome_bind, Reported.outcome_report,
                Except.bind] at compiled
              exact ⟨rfl, induction patterns compiled⟩
          | reversedRange range expanded => simp [headCompiled, Reported.fail] at compiled
      | ok found =>
          cases found with
          | none =>
              simp only [headCompiled] at compiled
              exact ⟨rfl, induction patterns compiled⟩
          | some pattern =>
              simp only [headCompiled, Reported.outcome_bind_eq_ok_iff] at compiled
              rcases compiled with ⟨rest, tailCompiled, _⟩
              exact ⟨rfl, induction rest tailCompiled⟩

/-! ## Decisions -/

theorem lastDecision_append (first second : List Pattern) (path : List Char) :
    lastDecision (first ++ second) path =
      (lastDecision second path).or (lastDecision first path) := by
  induction second using List.reverseRecOn with
  | nil => simp [lastDecision]
  | append_singleton second pattern induction =>
      simp only [lastDecision, ← List.append_assoc, List.foldl_append, List.foldl_cons,
        List.foldl_nil] at induction ⊢
      by_cases matched : pattern.matchesPath path = true <;> simp [matched, induction]

theorem lastDecision_cons (pattern : Pattern) (patterns : List Pattern) (path : List Char) :
    lastDecision (pattern :: patterns) path = (lastDecision patterns path).or
      (if pattern.matchesPath path then some pattern.ignores else none) :=
  lastDecision_append [pattern] patterns path

theorem lastDecision_eq_none_iff {patterns : List Pattern} {path : List Char} :
    lastDecision patterns path = none ↔
      ∀ pattern ∈ patterns, pattern.matchesPath path = false := by
  induction patterns with
  | nil => simp [lastDecision]
  | cons pattern rest induction =>
      rw [lastDecision_cons, Option.or_eq_none_iff, induction, List.forall_mem_cons, and_comm]
      by_cases matched : pattern.matchesPath path = true <;> simp [matched]

theorem eq_of_lastDecision {patterns : List Pattern} {path : List Char} {effect decision : Bool}
    (alike : ∀ pattern ∈ patterns, pattern.ignores = effect)
    (decided : lastDecision patterns path = some decision) : decision = effect := by
  induction patterns with
  | nil => simp [lastDecision] at decided
  | cons pattern rest induction =>
      rcases List.forall_mem_cons.mp alike with ⟨first, others⟩
      rw [lastDecision_cons, Option.or_eq_some_iff] at decided
      rcases decided with later | ⟨_, own⟩
      · exact induction others later
      · by_cases matched : pattern.matchesPath path = true
        · rw [if_pos matched, Option.some.injEq, first] at own
          exact own.symm
        · rw [if_neg matched] at own
          cases own

/-! ## Layers -/

namespace Rules

def ofLayers (layers : List Layer) : Rules :=
  ⟨layers.filter fun layer => !layer.patterns.isEmpty⟩

theorem push_ofLayers (layers : List Layer) (base : String) (patterns : List Pattern)
    (source : String) :
    (ofLayers layers).push base patterns source =
      ofLayers (layers ++ [⟨base, patterns, source⟩]) := by
  unfold push ofLayers
  by_cases silent : patterns.isEmpty = true <;> simp [List.filter_append, silent]

theorem outcome_withLines_eq_push (rules : Rules) (base source : String) {lines : List Coded}
    (valid : ∀ line ∈ lines, isReversed line = false) :
    (rules.withLines base lines source).outcome =
      .ok (rules.push base (patternsOf lines) source) := by
  simp [withLines, outcome_compileLines source valid, Except.bind]

theorem exists_withLines_iff {rules : Rules} {base source : String} {lines : List Coded} :
    (∃ extended, (rules.withLines base lines source).outcome = .ok extended) ↔
      ∀ line ∈ lines, isReversed line = false := by
  refine ⟨?_, fun valid => ⟨_, rules.outcome_withLines_eq_push base source valid⟩⟩
  rintro ⟨extended, given⟩
  rcases Reported.outcome_bind_eq_ok_iff.mp given with ⟨patterns, compiled, _⟩
  exact exists_compileLines_iff.mp ⟨patterns, compiled⟩

theorem outcome_withLines (layers : List Layer) (base source : String) {lines : List Coded}
    (valid : ∀ line ∈ lines, isReversed line = false) :
    ((ofLayers layers).withLines base lines source).outcome =
      .ok (ofLayers (layers ++ [⟨base, patternsOf lines, source⟩])) := by
  rw [outcome_withLines_eq_push _ base source valid, push_ofLayers]

theorem eq_of_withLines {layers : List Layer} {base source : String} {lines : List Coded}
    {extended : Rules}
    (compiled : ((ofLayers layers).withLines base lines source).outcome = .ok extended) :
    extended = ofLayers (layers ++ [⟨base, patternsOf lines, source⟩]) := by
  rcases Reported.outcome_bind_eq_ok_iff.mp compiled with ⟨patterns, given, pushed⟩
  rw [Reported.outcome_pure, Except.ok.injEq] at pushed
  rw [← pushed, push_ofLayers, eq_patternsOf given]

end Rules

theorem Layer.decide_of_isEmpty {layer : Layer} (silent : layer.patterns.isEmpty = true)
    (path : String) (isDirectory : Bool) : layer.decide path isDirectory = none := by
  rw [List.isEmpty_iff] at silent
  simp [Layer.decide, lastDecision, silent]

theorem Rules.isIgnored_ofLayers (layers : List Layer) (path : String) (isDirectory : Bool) :
    (ofLayers layers).isIgnored path isDirectory =
      (⟨layers⟩ : Rules).isIgnored path isDirectory := by
  unfold isIgnored ofLayers
  congr 1
  rw [← List.filter_reverse]
  induction layers.reverse with
  | nil => rfl
  | cons layer rest induction =>
      by_cases silent : layer.patterns.isEmpty = true
      · simp [silent, induction, layer.decide_of_isEmpty silent path isDirectory]
      · simp [silent, List.findSome?_cons, induction]

end ImportAtlas.Ignore
