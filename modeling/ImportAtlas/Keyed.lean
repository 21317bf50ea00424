/-! # Values under keys

Association lists that keep the order in which keys were first given. Giving a
key again replaces its value and leaves its place.
-/

namespace ImportAtlas.Keyed

variable {κ ν : Type} [DecidableEq κ]

def get? (key : κ) : List (κ × ν) → Option ν
  | [] => none
  | (head, value) :: tail => if head = key then some value else get? key tail

def put (key : κ) (value : ν) : List (κ × ν) → List (κ × ν)
  | [] => [(key, value)]
  | (head, old) :: tail =>
      if head = key then (head, value) :: tail else (head, old) :: put key value tail

def update (entries updates : List (κ × ν)) : List (κ × ν) :=
  updates.foldl (fun entries (key, value) => put key value entries) entries

/-- The entries left when each key keeps its first place and its last value. -/
def ofPairs (pairs : List (κ × ν)) : List (κ × ν) :=
  update [] pairs

def erase (key : κ) (entries : List (κ × ν)) : List (κ × ν) :=
  entries.filter fun entry => entry.1 ≠ key

@[simp] theorem get?_put (key other : κ) (value : ν) (entries : List (κ × ν)) :
    get? other (put key value entries) =
      if key = other then some value else get? other entries := by
  induction entries with
  | nil => simp [put, get?]
  | cons entry tail induction =>
      rcases entry with ⟨head, old⟩
      by_cases found : head = key <;> by_cases equal : key = other <;>
        by_cases asked : head = other <;> simp_all [put, get?]

theorem map_fst_put (key : κ) (value : ν) (entries : List (κ × ν)) :
    (put key value entries).map Prod.fst =
      if key ∈ entries.map Prod.fst then entries.map Prod.fst
      else entries.map Prod.fst ++ [key] := by
  induction entries with
  | nil => simp [put]
  | cons entry tail induction =>
      rcases entry with ⟨head, old⟩
      by_cases found : head = key
      · simp [put, found]
      · have absent : key ≠ head := fun equal => found equal.symm
        by_cases member : key ∈ tail.map Prod.fst <;> simp_all [put]

theorem get?_eq_none_iff {key : κ} {entries : List (κ × ν)} :
    get? key entries = none ↔ key ∉ entries.map Prod.fst := by
  induction entries with
  | nil => simp [get?]
  | cons entry tail induction =>
      by_cases found : entry.1 = key
      · simp [get?, found]
      · have different : key ≠ entry.1 := fun equal => found equal.symm
        simpa [get?, found, different] using induction

theorem mem_of_get? {key : κ} {value : ν} {entries : List (κ × ν)}
    (found : get? key entries = some value) : (key, value) ∈ entries := by
  induction entries with
  | nil => simp [get?] at found
  | cons entry tail induction =>
      by_cases equal : entry.1 = key
      · simp only [get?, equal, if_true, Option.some.injEq] at found
        rw [← equal, ← found]
        exact List.mem_cons_self
      · simp only [get?, equal, if_false] at found
        exact List.mem_cons_of_mem entry (induction found)

theorem get?_of_mem {key : κ} {value : ν} {entries : List (κ × ν)}
    (distinct : (entries.map Prod.fst).Nodup) (member : (key, value) ∈ entries) :
    get? key entries = some value := by
  induction entries with
  | nil => cases member
  | cons entry tail induction =>
      rw [List.map_cons, List.nodup_cons] at distinct
      rcases List.mem_cons.mp member with equal | inTail
      · subst equal
        simp [get?]
      · have different : entry.1 ≠ key := by
          intro equal
          exact distinct.1 (List.mem_map.mpr ⟨(key, value), inTail, equal.symm⟩)
        simpa [get?, different] using induction distinct.2 inTail

theorem mem_put {key : κ} {value : ν} {entries : List (κ × ν)} {entry : κ × ν}
    (member : entry ∈ put key value entries) : entry = (key, value) ∨ entry ∈ entries := by
  induction entries with
  | nil => exact Or.inl (List.mem_singleton.mp member)
  | cons head tail induction =>
      rw [put] at member
      split at member
      · rename_i found
        rcases List.mem_cons.mp member with isFirst | inTail
        · exact Or.inl (found ▸ isFirst)
        · exact Or.inr (List.mem_cons_of_mem head inTail)
      · rcases List.mem_cons.mp member with isFirst | inTail
        · exact Or.inr (isFirst ▸ List.mem_cons_self)
        · exact (induction inTail).imp_right (List.mem_cons_of_mem head)

theorem put_of_not_mem {key : κ} {value : ν} {entries : List (κ × ν)}
    (absent : key ∉ entries.map Prod.fst) : put key value entries = entries ++ [(key, value)] := by
  induction entries with
  | nil => rfl
  | cons entry tail induction =>
      simp only [List.map_cons, List.mem_cons, not_or] at absent
      have different : entry.1 ≠ key := fun equal => absent.1 equal.symm
      simp [put, different, induction absent.2]

end ImportAtlas.Keyed
