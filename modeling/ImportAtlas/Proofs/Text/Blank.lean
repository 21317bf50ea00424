import ImportAtlas.Text.Blank
import Mathlib.Data.List.TakeWhile

/-! # White space at the ends of texts -/

namespace ImportAtlas.Text

variable {α : Type} {drops : α → Bool}

theorem exists_dropEndWhile_append (drops : α → Bool) (row : List α) :
    ∃ dropped, (∀ item ∈ dropped, drops item = true) ∧
      row = dropEndWhile drops row ++ dropped := by
  refine ⟨(row.reverse.takeWhile drops).reverse, ?_, ?_⟩
  · intro item member
    exact List.mem_takeWhile_imp (List.mem_reverse.mp member)
  · rw [dropEndWhile, ← List.reverse_append, List.takeWhile_append_dropWhile, List.reverse_reverse]

theorem dropEndWhile_append (front : List α) {last : α} (stays : drops last = false)
    {dropped : List α} (allDropped : ∀ item ∈ dropped, drops item = true) :
    dropEndWhile drops (front ++ [last] ++ dropped) = front ++ [last] := by
  have reversed : ∀ item ∈ dropped.reverse, drops item = true := by
    intro item member
    exact allDropped item (List.mem_reverse.mp member)
  rw [dropEndWhile, List.reverse_append, List.dropWhile_append_of_pos reversed]
  simp [stays]

theorem head?_dropEndWhile_cons {first : α} (stays : drops first = false) (rest : List α) :
    (dropEndWhile drops (first :: rest)).head? = some first := by
  rcases exists_dropEndWhile_append drops (first :: rest) with ⟨dropped, allDropped, equal⟩
  cases kept : dropEndWhile drops (first :: rest) with
  | nil =>
      rw [kept, List.nil_append] at equal
      have firstDropped := allDropped first (equal ▸ List.mem_cons_self)
      rw [stays] at firstDropped
      cases firstDropped
  | cons head tail =>
      rw [kept, List.cons_append, List.cons.injEq] at equal
      rw [List.head?_cons, equal.1]

theorem head?_dropWhile_append (front : List α) {dropped : List α}
    (allDropped : ∀ item ∈ dropped, drops item = true) :
    ((front ++ dropped).dropWhile drops).head? = (front.dropWhile drops).head? := by
  rw [List.dropWhile_append]
  split
  · rename_i nothingLeft
    rw [List.isEmpty_iff] at nothingLeft
    rw [nothingLeft, List.dropWhile_eq_nil_iff.mpr allDropped]
  · rename_i someLeft
    cases left : front.dropWhile drops with
    | nil => simp [left] at someLeft
    | cons first rest => rfl

end ImportAtlas.Text
