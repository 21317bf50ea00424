import ImportAtlas.Keyed
import Mathlib.Data.List.Nodup

/-! # Keys and their values

What a key has after entries are removed, reordered or given. Where no key occurs twice, only the
entries count and not their order; entries that are given replace those with the same key in their
place and follow the others.
-/

namespace ImportAtlas.Keyed

variable {κ ν : Type} [DecidableEq κ]

theorem get?_erase_of_ne {key other : κ} (different : other ≠ key) (entries : List (κ × ν)) :
    get? other (erase key entries) = get? other entries := by
  induction entries with
  | nil => rfl
  | cons entry tail induction =>
      rw [erase] at induction ⊢
      rw [List.filter_cons]
      by_cases removed : entry.1 = key
      · have notAsked : entry.1 ≠ other := fun equal => different (equal ▸ removed)
        rw [if_neg (by simpa using removed), induction, get?, if_neg notAsked]
      · rw [if_pos (by simpa using removed), get?, get?, induction]

theorem get?_of_perm {entries others : List (κ × ν)} (perm : entries.Perm others)
    (distinct : (entries.map Prod.fst).Nodup) (key : κ) :
    get? key others = get? key entries := by
  have distinctOthers : (others.map Prod.fst).Nodup := (perm.map Prod.fst).nodup_iff.mp distinct
  cases found : get? key entries with
  | none =>
      rw [get?_eq_none_iff] at found ⊢
      exact fun member => found ((perm.map Prod.fst).mem_iff.mpr member)
  | some value => exact get?_of_mem distinctOthers (perm.mem_iff.mp (mem_of_get? found))

theorem get?_append (key : κ) (entries others : List (κ × ν)) :
    get? key (entries ++ others) = (get? key entries).or (get? key others) := by
  induction entries with
  | nil => rfl
  | cons entry rest induction =>
      rw [List.cons_append, get?, get?, induction]
      split <;> rfl

/-- What is done with all values is done with the value under a key. -/
theorem get?_map {α : Type} (key : κ) (write : ν → α) (entries : List (κ × ν)) :
    get? key (entries.map fun entry => (entry.1, write entry.2)) =
      (get? key entries).map write := by
  induction entries with
  | nil => rfl
  | cons entry rest induction =>
      rw [List.map_cons, get?, get?, induction]
      split <;> rfl

/-! ## Updates -/

theorem update_cons (entries : List (κ × ν)) (entry : κ × ν) (updates : List (κ × ν)) :
    update entries (entry :: updates) = update (put entry.1 entry.2 entries) updates :=
  rfl

private theorem update_of_nodup {entries updates : List (κ × ν)}
    (distinct : ((entries ++ updates).map Prod.fst).Nodup) :
    update entries updates = entries ++ updates := by
  induction updates generalizing entries with
  | nil => exact (List.append_nil entries).symm
  | cons entry rest induction =>
      have absent : entry.1 ∉ entries.map Prod.fst := by
        rw [List.map_append, List.nodup_append'] at distinct
        exact fun member => distinct.2.2 member List.mem_cons_self
      rw [List.append_cons] at distinct
      rw [update_cons, put_of_not_mem absent, induction distinct, ← List.append_cons]

theorem ofPairs_of_nodup {entries : List (κ × ν)} (distinct : (entries.map Prod.fst).Nodup) :
    ofPairs entries = entries :=
  update_of_nodup distinct

theorem get?_update {updates : List (κ × ν)} (distinct : (updates.map Prod.fst).Nodup)
    (entries : List (κ × ν)) (key : κ) :
    get? key (update entries updates) = (get? key updates).or (get? key entries) := by
  induction updates generalizing entries with
  | nil => rfl
  | cons entry rest induction =>
      rw [List.map_cons, List.nodup_cons] at distinct
      rw [update_cons, induction distinct.2, get?_put, get?]
      by_cases given : entry.1 = key
      · rw [if_pos given, if_pos given, get?_eq_none_iff.mpr (given ▸ distinct.1)]
        rfl
      · rw [if_neg given, if_neg given]

/-- Keys that are given keep their place if they were there, and follow in order otherwise. -/
theorem map_fst_update {updates : List (κ × ν)} (distinct : (updates.map Prod.fst).Nodup)
    (entries : List (κ × ν)) :
    (update entries updates).map Prod.fst =
      entries.map Prod.fst ++
        (updates.map Prod.fst).filter fun key => key ∉ entries.map Prod.fst := by
  induction updates generalizing entries with
  | nil => simp [update]
  | cons entry rest induction =>
      rw [List.map_cons, List.nodup_cons] at distinct
      rw [update_cons, induction distinct.2, map_fst_put, List.map_cons, List.filter_cons]
      by_cases known : entry.1 ∈ entries.map Prod.fst
      · simp only [known, if_true, not_true, decide_false, Bool.false_eq_true, if_false]
      · have others :
            (rest.map Prod.fst).filter (fun key => key ∉ entries.map Prod.fst ++ [entry.1]) =
              (rest.map Prod.fst).filter fun key => key ∉ entries.map Prod.fst := by
          refine List.filter_congr fun key member => ?_
          have different : key ≠ entry.1 := fun equal => distinct.1 (equal ▸ member)
          simp [different]
        simp only [known, if_false, not_false_eq_true, decide_true, if_true, others,
          List.append_assoc, List.singleton_append]

theorem nodup_update {entries : List (κ × ν)} (distinct : (entries.map Prod.fst).Nodup)
    (updates : List (κ × ν)) : ((update entries updates).map Prod.fst).Nodup := by
  induction updates generalizing entries with
  | nil => exact distinct
  | cons entry rest induction =>
      refine induction ?_
      rw [map_fst_put]
      split
      · exact distinct
      · rename_i absent
        exact List.nodup_append'.mpr ⟨distinct, List.nodup_singleton _, by simpa using absent⟩

theorem mem_update {entries updates : List (κ × ν)} {entry : κ × ν}
    (member : entry ∈ update entries updates) : entry ∈ entries ∨ entry ∈ updates := by
  induction updates generalizing entries with
  | nil => exact Or.inl member
  | cons given rest induction =>
      rcases induction member with inPut | inRest
      · rcases mem_put inPut with rfl | before
        · exact Or.inr List.mem_cons_self
        · exact Or.inl before
      · exact Or.inr (List.mem_cons_of_mem given inRest)

end ImportAtlas.Keyed
