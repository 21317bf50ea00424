import ImportAtlas.Path.Lexical
import Mathlib.Data.List.Basic
import Mathlib.Order.Defs.Unbundled

/-! # The order of files

Files are ordered name by name from the root down. At the first names that differ, a file comes
before what lies in a directory; two files, and two directories, are in the order of their names.
Main statement: this is a total order of paths.
-/

namespace ImportAtlas

inductive Precedes : List String → List String → Prop
  | files {left right : String} (less : left < right) : Precedes [left] [right]
  | fileFirst (file directory next : String) (rest : List String) :
      Precedes [file] (directory :: next :: rest)
  | directories {left right : String} (less : left < right) (leftNext rightNext : String)
      (leftRest rightRest : List String) :
      Precedes (left :: leftNext :: leftRest) (right :: rightNext :: rightRest)
  | inside (name : String) {left right : List String} (within : Precedes left right) :
      Precedes (name :: left) (name :: right)

namespace Precedes

theorem not_nil_left {right : List String} : ¬Precedes [] right := nofun

theorem not_nil_right {left : List String} : ¬Precedes left [] := nofun

theorem append_left (names : List String) {left right : List String}
    (before : Precedes left right) :
    Precedes (names ++ left) (names ++ right) := by
  induction names with
  | nil => exact before
  | cons name names induction => exact .inside name induction

theorem asymm {left right : List String} (before : Precedes left right) :
    ¬Precedes right left := by
  induction before with
  | files less =>
      intro after
      cases after with
      | files greater => exact String.lt_asymm less greater
      | inside _ within => exact not_nil_left within
  | fileFirst =>
      intro after
      cases after with
      | inside _ within => exact not_nil_right within
  | directories less =>
      intro after
      cases after with
      | directories greater => exact String.lt_asymm less greater
      | inside => exact String.lt_irrefl _ less
  | inside name within induction =>
      intro after
      cases after with
      | files less => exact String.lt_irrefl name less
      | fileFirst => exact not_nil_right within
      | directories less => exact String.lt_irrefl name less
      | inside _ reversed => exact induction reversed

theorem irrefl (names : List String) : ¬Precedes names names :=
  fun before => before.asymm before

private theorem exists_cons {left right : List String} (before : Precedes left right) :
    (∃ name rest, left = name :: rest) ∧ ∃ name rest, right = name :: rest := by
  cases before <;> exact ⟨⟨_, _, rfl⟩, _, _, rfl⟩

theorem trans {first second third : List String} (before : Precedes first second)
    (after : Precedes second third) : Precedes first third := by
  induction before generalizing third with
  | files less =>
      cases after with
      | files further => exact .files (String.lt_trans less further)
      | fileFirst => exact .fileFirst _ _ _ _
      | inside _ within => exact absurd within not_nil_left
  | fileFirst =>
      cases after with
      | directories => exact .fileFirst _ _ _ _
      | inside _ within =>
          rcases within.exists_cons.2 with ⟨_, _, rfl⟩
          exact .fileFirst _ _ _ _
  | directories less =>
      cases after with
      | directories further => exact .directories (String.lt_trans less further) _ _ _ _
      | inside _ within =>
          rcases within.exists_cons.2 with ⟨_, _, rfl⟩
          exact .directories less _ _ _ _
  | inside name within induction =>
      cases after with
      | files => exact absurd within not_nil_right
      | fileFirst => exact absurd within not_nil_right
      | directories further =>
          rcases within.exists_cons.1 with ⟨_, _, rfl⟩
          exact .directories further _ _ _ _
      | inside _ further => exact .inside name (induction further)

theorem total {left right : List String} (leftSome : left ≠ []) (rightSome : right ≠ []) :
    Precedes left right ∨ left = right ∨ Precedes right left := by
  induction left generalizing right with
  | nil => exact absurd rfl leftSome
  | cons name rest induction =>
      rcases List.exists_cons_of_ne_nil rightSome with ⟨other, others, rfl⟩
      cases rest with
      | nil =>
          cases others with
          | nil =>
              rcases Std.lt_trichotomy name other with less | rfl | greater
              · exact Or.inl (.files less)
              · exact Or.inr (Or.inl rfl)
              · exact Or.inr (Or.inr (.files greater))
          | cons => exact Or.inl (.fileFirst _ _ _ _)
      | cons next further =>
          cases others with
          | nil => exact Or.inr (Or.inr (.fileFirst _ _ _ _))
          | cons nextOther othersRest =>
              rcases Std.lt_trichotomy name other with less | rfl | greater
              · exact Or.inl (.directories less _ _ _ _)
              · rcases induction (List.cons_ne_nil next further)
                    (List.cons_ne_nil nextOther othersRest) with within | equal | reversed
                · exact Or.inl (.inside name within)
                · exact Or.inr (Or.inl (congrArg (name :: ·) equal))
                · exact Or.inr (Or.inr (.inside name reversed))
              · exact Or.inr (Or.inr (.directories greater _ _ _ _))

end Precedes

/-! ## Paths -/

/-- One path comes before another one, where both are read name by name. -/
def PathPrecedes (left right : String) : Prop :=
  Precedes (Path.components left) (Path.components right)

theorem Path.components_injective {left right : String}
    (equal : components left = components right) : left = right := by
  have sameParts : Text.split '/' left.toList = Text.split '/' right.toList :=
    List.map_injective_iff.mpr (fun _ _ => String.ofList_injective) equal
  rw [← String.toList_inj, ← Text.join_split '/' left.toList, sameParts, Text.join_split]

instance : IsStrictTotalOrder String PathPrecedes where
  irrefl path := Precedes.irrefl (Path.components path)
  trans _ _ _ before after := before.trans after
  trichotomous left right notBefore notAfter := by
    apply Path.components_injective
    rcases Precedes.total (Path.components_ne_nil left) (Path.components_ne_nil right) with
      before | equal | after
    · exact absurd before notBefore
    · exact equal
    · exact absurd after notAfter

end ImportAtlas
