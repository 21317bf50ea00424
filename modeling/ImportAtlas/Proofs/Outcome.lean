import Mathlib.Logic.Basic

/-! # Outcomes of computations that can fail -/

namespace ImportAtlas.Outcome

variable {ε α β : Type}

theorem bind_eq_ok_iff {first : Except ε α} {next : α → Except ε β} {result : β} :
    (first >>= next) = .ok result ↔ ∃ value, first = .ok value ∧ next value = .ok result := by
  cases first <;> simp [bind, Except.bind]

theorem bind_eq_error_iff {first : Except ε α} {next : α → Except ε β} {fault : ε} :
    (first >>= next) = .error fault ↔
      first = .error fault ∨ ∃ value, first = .ok value ∧ next value = .error fault := by
  cases first <;> simp [bind, Except.bind]

theorem eq_error_iff_of_reads {read : Except ε α} {isRead : α → Prop}
    (reads : ∀ {value}, read = .ok value ↔ isRead value) {only fault : ε}
    (fails : ∀ other, read = .error other → other = only) :
    read = .error fault ↔ (¬∃ value, isRead value) ∧ fault = only := by
  constructor
  · intro failed
    refine ⟨?_, fails fault failed⟩
    rintro ⟨value, isValue⟩
    rw [reads.mpr isValue] at failed
    cases failed
  · rintro ⟨unread, rfl⟩
    cases outcome : read with
    | ok value => exact absurd ⟨value, reads.mp outcome⟩ unread
    | error other => rw [fails other outcome]

theorem exists_of_mem_mapM {read : α → Option β} {items : List α} {values : List β}
    (given : items.mapM read = some values) {value : β} (member : value ∈ values) :
    ∃ item ∈ items, read item = some value := by
  induction items generalizing values with
  | nil =>
      cases given
      exact absurd member List.not_mem_nil
  | cons head tail induction =>
      simp only [List.mapM_cons, Option.bind_eq_bind, Option.bind_eq_some_iff, Option.pure_def,
        Option.some.injEq] at given
      rcases given with ⟨first, isFirst, rest, areRest, rfl⟩
      rcases List.mem_cons.mp member with rfl | inRest
      · exact ⟨head, List.mem_cons_self, isFirst⟩
      · rcases induction areRest inRest with ⟨item, inTail, isValue⟩
        exact ⟨item, List.mem_cons_of_mem head inTail, isValue⟩

end ImportAtlas.Outcome
