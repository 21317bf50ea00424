import ImportAtlas.Proofs.Ignore.Layers
import Mathlib.Data.List.Forall2

/-! # Lines added at the end

Lines that all ignore, or all keep, may be added at the end of some sources of rules. Main
statement: about every path, rules with the added lines decide as before, or to the effect of these
lines.
-/

namespace ImportAtlas.Ignore

open Text (Coded)

/-! ## Lines -/

def HasEffect (effect : Bool) (line : Coded) : Prop :=
  ∃ found, compileLine (dropLineEnds line) = .ok found ∧
    ∀ pattern ∈ found, pattern.ignores = effect

def Adds (effect : Bool) (lines longer : List Coded) : Prop :=
  ∃ added, longer = lines ++ added ∧ ∀ line ∈ added, HasEffect effect line

private theorem isReversed_of_hasEffect {effect : Bool} {line : Coded}
    (given : HasEffect effect line) :
    isReversed line = false := by
  rcases given with ⟨found, compiled, _⟩
  simp only [isReversed, compiled]

private theorem HasEffect.ignores_eq {effect : Bool} {line : Coded} (given : HasEffect effect line)
    {pattern : Pattern} (isPattern : pattern? line = some pattern) : pattern.ignores = effect := by
  rcases given with ⟨found, compiled, each⟩
  simp only [pattern?, compiled] at isPattern
  exact each pattern isPattern

namespace Adds

variable {effect : Bool} {lines longer : List Coded}

theorem refl (effect : Bool) (lines : List Coded) : Adds effect lines lines :=
  ⟨[], (List.append_nil lines).symm, nofun⟩

theorem concat (lines : List Coded) {line : Coded} (given : HasEffect effect line) :
    Adds effect lines (lines ++ [line]) :=
  ⟨[line], rfl, List.forall_mem_singleton.mpr given⟩

theorem valid_iff (adds : Adds effect lines longer) :
    (∀ line ∈ longer, isReversed line = false) ↔ ∀ line ∈ lines, isReversed line = false := by
  rcases adds with ⟨added, rfl, each⟩
  rw [List.forall_mem_append]
  exact and_iff_left fun line member => isReversed_of_hasEffect (each line member)

theorem patterns (adds : Adds effect lines longer) :
    ∃ further, patternsOf longer = patternsOf lines ++ further ∧
      ∀ pattern ∈ further, pattern.ignores = effect := by
  rcases adds with ⟨added, rfl, each⟩
  refine ⟨patternsOf added, patternsOf_append lines added, fun pattern member => ?_⟩
  rcases List.mem_filterMap.mp member with ⟨line, inAdded, isPattern⟩
  exact (each line inAdded).ignores_eq isPattern

end Adds

/-! ## Layers -/

/-- A layer goes on with patterns of one effect. -/
structure Layer.GoesOn (effect : Bool) (layer longer : Layer) : Prop where
  base : longer.base = layer.base
  patterns : ∃ further, longer.patterns = layer.patterns ++ further ∧
    ∀ pattern ∈ further, pattern.ignores = effect

private theorem Layer.GoesOn.decide_cases {effect : Bool} {layer longer : Layer}
    (goesOn : Layer.GoesOn effect layer longer) (path : String) (isDirectory : Bool) :
    longer.decide path isDirectory = layer.decide path isDirectory ∨
      longer.decide path isDirectory = some effect := by
  rcases goesOn.patterns with ⟨further, written, alike⟩
  unfold Layer.decide
  rw [goesOn.base]
  cases pathBelow? layer.base path with
  | none => exact Or.inl rfl
  | some below =>
      simp only [Option.bind_some, written, lastDecision_append]
      cases decided : lastDecision further (presented below isDirectory) with
      | none => exact Or.inl rfl
      | some decision =>
          rw [eq_of_lastDecision alike decided]
          exact Or.inr rfl

theorem forall₂_flatMap {α β : Type} {related : β → β → Prop} {elements : List α}
    {first second : α → List β}
    (each : ∀ element ∈ elements, List.Forall₂ related (first element) (second element)) :
    List.Forall₂ related (elements.flatMap first) (elements.flatMap second) := by
  induction elements with
  | nil => exact .nil
  | cons element rest induction =>
      rcases List.forall_mem_cons.mp each with ⟨own, others⟩
      exact List.rel_append own (induction others)

private theorem findSome?_cases {α β : Type} {related : α → α → Prop} {answer : α → Option β}
    {result : β}
    (each : ∀ first second, related first second →
      answer second = answer first ∨ answer second = some result)
    {firsts seconds : List α} (all : List.Forall₂ related firsts seconds) :
    seconds.findSome? answer = firsts.findSome? answer ∨
      seconds.findSome? answer = some result := by
  induction all with
  | nil => exact Or.inl rfl
  | cons holds _ induction =>
      rw [List.findSome?_cons, List.findSome?_cons]
      rcases each _ _ holds with same | changed
      · rw [same]
        split
        · exact Or.inl rfl
        · exact induction
      · rw [changed]
        exact Or.inr rfl

namespace Rules

theorem isIgnored_cases {effect : Bool} {layers longer : List Layer}
    (goOn : List.Forall₂ (Layer.GoesOn effect) layers longer) (path : String)
    (isDirectory : Bool) :
    (⟨longer⟩ : Rules).isIgnored path isDirectory =
        (⟨layers⟩ : Rules).isIgnored path isDirectory ∨
      (⟨longer⟩ : Rules).isIgnored path isDirectory = effect := by
  have fromLast := List.forall₂_reverse_iff.mpr goOn
  unfold isIgnored
  rcases findSome?_cases (fun _ _ goesOn => goesOn.decide_cases path isDirectory) fromLast with
    same | changed
  · exact Or.inl (congrArg (·.getD false) same)
  · exact Or.inr (congrArg (·.getD false) changed)

end Rules

end ImportAtlas.Ignore
