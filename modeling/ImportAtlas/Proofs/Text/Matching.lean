import ImportAtlas.Text.Matching

/-! # What is left after matching

The texts that may be left after matching the front of a text are exactly those that follow a
front of the right form. The order in which they are preferred is forgotten here.
-/

namespace ImportAtlas.Text

variable {accepts : Char → Bool} {text rest : List Char}

@[simp] theorem mem_restsOfChar :
    rest ∈ restsOfChar accepts text ↔ ∃ char, accepts char = true ∧ text = char :: rest := by
  cases text with
  | nil => simp [restsOfChar]
  | cons head tail =>
      rw [restsOfChar]
      by_cases accepted : accepts head = true
      · rw [if_pos accepted, List.mem_singleton]
        constructor
        · rintro rfl
          exact ⟨head, accepted, rfl⟩
        · rintro ⟨_, _, equal⟩
          exact (List.cons.inj equal).2.symm
      · rw [if_neg accepted]
        refine iff_of_false (by simp) ?_
        rintro ⟨_, charAccepted, equal⟩
        exact accepted ((List.cons.inj equal).1 ▸ charAccepted)

private theorem mem_restsOfShortRuns :
    rest ∈ restsOfShortRuns accepts text ↔
      ∃ run, (∀ char ∈ run, accepts char = true) ∧ text = run ++ rest := by
  induction text with
  | nil =>
      rw [restsOfShortRuns, List.mem_singleton]
      constructor
      · rintro rfl
        exact ⟨[], by simp, rfl⟩
      · rintro ⟨run, _, equal⟩
        exact (List.nil_eq_append_iff.mp equal).2
  | cons head tail induction =>
      rw [restsOfShortRuns, List.mem_cons]
      constructor
      · rintro (rfl | further)
        · exact ⟨[], by simp, rfl⟩
        · by_cases accepted : accepts head = true
          · rw [if_pos accepted, induction] at further
            rcases further with ⟨run, allAccepted, rfl⟩
            exact ⟨head :: run, List.forall_mem_cons.mpr ⟨accepted, allAccepted⟩, rfl⟩
          · rw [if_neg accepted] at further
            cases further
      · rintro ⟨run, allAccepted, equal⟩
        cases run with
        | nil => exact Or.inl equal.symm
        | cons first run =>
            rw [List.cons_append, List.cons.injEq] at equal
            rcases equal with ⟨rfl, equal⟩
            rcases List.forall_mem_cons.mp allAccepted with ⟨accepted, others⟩
            rw [if_pos accepted, induction]
            exact Or.inr ⟨run, others, equal⟩

@[simp] theorem mem_restsOfRun :
    rest ∈ restsOfRun accepts text ↔
      ∃ run, (∀ char ∈ run, accepts char = true) ∧ text = run ++ rest := by
  rw [restsOfRun, List.mem_reverse, mem_restsOfShortRuns]

@[simp] theorem mem_restsOfSome :
    rest ∈ restsOfSome accepts text ↔
      ∃ run, run ≠ [] ∧ (∀ char ∈ run, accepts char = true) ∧ text = run ++ rest := by
  simp only [restsOfSome, List.mem_flatMap, mem_restsOfChar, mem_restsOfRun]
  constructor
  · rintro ⟨_, ⟨char, accepted, rfl⟩, run, allAccepted, rfl⟩
    exact ⟨char :: run, by simp, List.forall_mem_cons.mpr ⟨accepted, allAccepted⟩, rfl⟩
  · rintro ⟨run, nonempty, allAccepted, rfl⟩
    rcases List.exists_cons_of_ne_nil nonempty with ⟨char, run, rfl⟩
    rcases List.forall_mem_cons.mp allAccepted with ⟨accepted, others⟩
    exact ⟨run ++ rest, ⟨char, accepted, rfl⟩, run, others, rfl⟩

@[simp] theorem mem_restsOfWord {word : List Char} :
    rest ∈ restsOfWord word text ↔ text = word ++ rest := by
  induction word generalizing text with
  | nil => simp [restsOfWord, eq_comm]
  | cons char word induction => simp [restsOfWord, induction]

end ImportAtlas.Text
