import ImportAtlas.Json.Basic
import ImportAtlas.Proofs.Text.Halves
import Mathlib.Data.List.Forall2
import Mathlib.Data.Option.Basic

/-! # Values that are the same

Objects are the same when each name has the same value in both, in whatever order they hold their
members.
-/

namespace ImportAtlas.Json

open Text (Coded)

/-- Equality of values up to the order of members. -/
inductive Same : Json → Json → Prop
  | null : Same .null .null
  | bool (value : Bool) : Same (.bool value) (.bool value)
  | int (value : Int) : Same (.int value) (.int value)
  | float (value : Binary64) : Same (.float value) (.float value)
  | text (value : Coded) : Same (.text value) (.text value)
  | array {items others : List Json} (each : List.Forall₂ Same items others) :
      Same (.array items) (.array others)
  | object {members others : List (Coded × Json)}
      (each : ∀ name, Option.Rel Same (Keyed.get? name members) (Keyed.get? name others)) :
      Same (.object members) (.object others)

mutual

theorem Same.refl : (value : Json) → Same value value
  | .null => .null
  | .bool value => .bool value
  | .int value => .int value
  | .float value => .float value
  | .text value => .text value
  | .array items => .array (forall₂_same_refl items)
  | .object members => .object (rel_get?_refl members)

theorem forall₂_same_refl : (items : List Json) → List.Forall₂ Same items items
  | [] => .nil
  | head :: tail => .cons (Same.refl head) (forall₂_same_refl tail)

theorem rel_get?_refl : (members : List (Coded × Json)) → (name : Coded) →
    Option.Rel Same (Keyed.get? name members) (Keyed.get? name members)
  | [], _ => .none
  | (head, value) :: tail, name => by
      rw [Keyed.get?]
      split
      · exact .some (Same.refl value)
      · exact rel_get?_refl tail name

end

theorem same_text_iff {left right : Coded} : Same (.text left) (.text right) ↔ left = right := by
  constructor
  · rintro ⟨⟩
    rfl
  · rintro rfl
    exact .text left

theorem same_array_iff {items others : List Json} :
    Same (.array items) (.array others) ↔ List.Forall₂ Same items others := by
  constructor
  · rintro (_ | _ | _ | _ | _ | each)
    exact each
  · exact .array

theorem same_object_iff {members others : List (Coded × Json)} :
    Same (.object members) (.object others) ↔
      ∀ name, Option.Rel Same (Keyed.get? name members) (Keyed.get? name others) := by
  constructor
  · rintro (_ | _ | _ | _ | _ | _ | each)
    exact each
  · exact .object

theorem rel_or {first second third fourth : Option Json} (front : Option.Rel Same first second)
    (behind : Option.Rel Same third fourth) :
    Option.Rel Same (first.or third) (second.or fourth) := by
  cases front with
  | none => exact behind
  | some same => exact .some same

theorem rel_if {condition : Prop} [Decidable condition] {left right : Option Json}
    (same : Option.Rel Same left right) :
    Option.Rel Same (if condition then left else none) (if condition then right else none) := by
  split
  · exact same
  · exact .none

private theorem rel_eq_iff {α : Type} {left right : Option α} : Option.Rel Eq left right ↔
    left = right := by
  cases left <;> cases right <;> simp

/-- Optional values that are written in some way are the same as what is written is. -/
theorem rel_map_iff {α : Type} {write : α → Json} {same : α → α → Prop}
    (writes : ∀ left right, Same (write left) (write right) ↔ same left right)
    {left right : Option α} :
    Option.Rel Same (left.map write) (right.map write) ↔ Option.Rel same left right := by
  cases left <;> cases right <;> simp [writes]

theorem rel_text_iff {left right : Option Coded} :
    Option.Rel Same (left.map .text) (right.map .text) ↔ left = right := by
  rw [rel_map_iff fun _ _ => same_text_iff, rel_eq_iff]

theorem same_ofText?_iff {left right : Option Coded} :
    Same (.ofText? left) (.ofText? right) ↔ left = right := by
  match left, right with
  | none, none => exact iff_of_true .null rfl
  | none, some _ | some _, none => exact iff_of_false (fun same => nomatch same) nofun
  | some _, some _ => exact same_text_iff.trans Option.some_inj.symm

theorem ofText?_injective {text other : Option Coded} (same : ofText? text = ofText? other) :
    text = other :=
  same_ofText?_iff.mp (same ▸ Same.refl _)

theorem forall₂_map_iff {α : Type} {write : α → Json} {same : α → α → Prop}
    (writes : ∀ left right, Same (write left) (write right) ↔ same left right)
    {left right : List α} :
    List.Forall₂ Same (left.map write) (right.map write) ↔ List.Forall₂ same left right := by
  rw [List.forall₂_map_left_iff, List.forall₂_map_right_iff]
  simp only [writes]

theorem same_ofTexts_iff {left right : List String} :
    Same (.ofTexts left) (.ofTexts right) ↔ left = right := by
  have texts : ∀ left right : String,
      Same (.text left) (.text right) ↔ left = right := fun _ _ =>
    same_text_iff.trans Coded.ofText_inj
  rw [ofTexts, ofTexts, same_array_iff, forall₂_map_iff texts, List.forall₂_eq_eq_eq]

end ImportAtlas.Json
