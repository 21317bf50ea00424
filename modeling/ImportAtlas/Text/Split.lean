/-! # Splitting and joining

A row is cut at every occurrence of a separator; joining the parts with the
separator gives the row back.
-/

namespace ImportAtlas.Text

variable {α : Type}

section

variable [DecidableEq α]

def cut (separator : α) : List α → List α × List (List α)
  | [] => ([], [])
  | head :: tail =>
      let (first, parts) := cut separator tail
      if head = separator then ([], first :: parts) else (head :: first, parts)

/-- All parts of a row between separators; never empty. -/
def split (separator : α) (row : List α) : List (List α) :=
  (cut separator row).1 :: (cut separator row).2

end

def join (separator : List α) : List (List α) → List α
  | [] => []
  | [part] => part
  | part :: next :: parts => part ++ separator ++ join separator (next :: parts)

def splitText (separator : Char) (text : String) : List String :=
  (split separator text.toList).map String.ofList

def joinText (separator : String) (parts : List String) : String :=
  String.ofList (join separator.toList (parts.map String.toList))

variable {separator : α} {row part : List α}

/-- Joined parts have nothing in them but what is in the parts and the separator. -/
theorem mem_join {item : α} {mark : List α} (apart : item ∉ mark) {parts : List (List α)} :
    item ∈ join mark parts ↔ ∃ part ∈ parts, item ∈ part := by
  induction parts with
  | nil => simp [join]
  | cons part rest induction =>
      cases rest with
      | nil => simp [join]
      | cons next parts =>
          rw [join, List.mem_append, List.mem_append, induction]
          simp [apart]

theorem join_append (mark : List α) {first second : List (List α)} (firstSome : first ≠ [])
    (secondSome : second ≠ []) :
    join mark (first ++ second) = join mark first ++ mark ++ join mark second := by
  induction first with
  | nil => exact absurd rfl firstSome
  | cons part rest induction =>
      cases rest with
      | nil =>
          rcases List.exists_cons_of_ne_nil secondSome with ⟨next, parts, rfl⟩
          rfl
      | cons next parts =>
          simp only [List.cons_append, join, List.append_assoc] at induction ⊢
          rw [induction (List.cons_ne_nil next parts)]

variable [DecidableEq α]

theorem join_split (separator : α) (row : List α) :
    join [separator] (split separator row) = row := by
  induction row with
  | nil => rfl
  | cons head tail induction =>
      simp only [split] at induction
      by_cases equal : head = separator
      · simp [split, cut, equal, join, induction]
      · simp only [split, cut, equal, if_false]
        cases parts : (cut separator tail).2 with
        | nil => simp_all [join]
        | cons next rest => simp_all [join]

theorem split_of_not_mem (absent : separator ∉ row) : split separator row = [row] := by
  induction row with
  | nil => rfl
  | cons head tail induction =>
      rw [List.mem_cons, not_or] at absent
      have different : head ≠ separator := fun equal => absent.1 equal.symm
      have alone := induction absent.2
      simp only [split, List.cons.injEq] at alone
      simp [split, cut, different, alone.1, alone.2]

theorem split_append (separator : α) (front back : List α) :
    split separator (front ++ separator :: back) =
      split separator front ++ split separator back := by
  induction front with
  | nil => simp [split, cut]
  | cons head tail induction =>
      simp only [split, List.cons_append, List.cons.injEq] at induction
      by_cases equal : head = separator <;> simp [split, cut, equal, induction.1, induction.2]

private theorem split_append_cons (absent : separator ∉ part) (rest : List α) :
    split separator (part ++ separator :: rest) = part :: split separator rest := by
  rw [split_append, split_of_not_mem absent, List.singleton_append]

theorem split_join {parts : List (List α)} (nonempty : parts ≠ [])
    (absent : ∀ part ∈ parts, separator ∉ part) :
    split separator (join [separator] parts) = parts := by
  induction parts with
  | nil => exact absurd rfl nonempty
  | cons part rest induction =>
      have absentHead := absent part List.mem_cons_self
      cases rest with
      | nil => exact split_of_not_mem absentHead
      | cons next parts =>
          have absentTail : ∀ part ∈ next :: parts, separator ∉ part := fun other member =>
            absent other (List.mem_cons_of_mem part member)
          rw [join, List.append_assoc, List.singleton_append, split_append_cons absentHead,
            induction (List.cons_ne_nil next parts) absentTail]

theorem mem_of_mem_split {item : α} (member : part ∈ split separator row) (inPart : item ∈ part) :
    item ∈ row := by
  induction row generalizing part with
  | nil =>
      simp only [split, cut, List.mem_singleton] at member
      exact member ▸ inPart
  | cons head tail induction =>
      by_cases equal : head = separator
      · simp only [split, cut, equal, if_true, List.mem_cons] at member
        rcases member with isEmpty | inRest
        · rw [isEmpty] at inPart
          cases inPart
        · exact List.mem_cons_of_mem head (induction (List.mem_cons.mpr inRest) inPart)
      · simp only [split, cut, equal, if_false, List.mem_cons] at member
        rcases member with isFirst | inRest
        · rw [isFirst, List.mem_cons] at inPart
          rcases inPart with isHead | inFirst
          · exact List.mem_cons.mpr (Or.inl isHead)
          · exact List.mem_cons_of_mem head (induction List.mem_cons_self inFirst)
        · exact List.mem_cons_of_mem head (induction (List.mem_cons_of_mem _ inRest) inPart)

theorem separator_not_mem_of_mem_split (member : part ∈ split separator row) :
    separator ∉ part := by
  induction row generalizing part with
  | nil =>
      simp only [split, cut, List.mem_singleton] at member
      simp [member]
  | cons head tail induction =>
      by_cases equal : head = separator
      · simp only [split, cut, equal, if_true, List.mem_cons] at member
        rcases member with isEmpty | inRest
        · simp [isEmpty]
        · exact induction (List.mem_cons.mpr inRest)
      · simp only [split, cut, equal, if_false, List.mem_cons] at member
        rcases member with isFirst | inRest
        · rw [isFirst, List.mem_cons, not_or]
          exact ⟨fun same => equal same.symm, induction List.mem_cons_self⟩
        · exact induction (List.mem_cons_of_mem _ inRest)

end ImportAtlas.Text
