import Mathlib.Data.List.Induction

/-! # Lists without repetitions

A value joins such a list at its end, unless it is there already. What is left of some values
when each keeps its first place is the list that they join one after the other.
-/

namespace ImportAtlas.Distinct

theorem flatMap_if_eq {ι κ β : Type} [DecidableEq κ] {key : ι → κ} {items : List ι}
    (distinct : (items.map key).Nodup) (values : ι → List β) {item : ι} (member : item ∈ items) :
    items.flatMap (fun other => if key other = key item then values other else []) =
      values item := by
  induction items with
  | nil => cases member
  | cons first rest induction =>
      rw [List.map_cons, List.nodup_cons] at distinct
      rw [List.flatMap_cons]
      rcases List.mem_cons.mp member with rfl | later
      · have noOther : rest.flatMap
            (fun other => if key other = key item then values other else []) = [] := by
          rw [List.flatMap_eq_nil_iff]
          intro other inRest
          rw [if_neg]
          intro equal
          exact distinct.1 (equal ▸ List.mem_map_of_mem inRest)
        rw [if_pos rfl, noOther, List.append_nil]
      · have different : key first ≠ key item := by
          intro equal
          exact distinct.1 (equal ▸ List.mem_map_of_mem later)
        rw [if_neg different, List.nil_append, induction distinct.2 later]

variable {α : Type} [BEq α]

def withLast (value : α) (values : List α) : List α :=
  if values.contains value then values else values ++ [value]

variable [LawfulBEq α]

theorem mem_withLast {value other : α} {values : List α} :
    other ∈ withLast value values ↔ other ∈ values ∨ other = value := by
  unfold withLast
  by_cases present : values.contains value = true
  · have member : value ∈ values := by simpa using present
    rw [if_pos present]
    constructor
    · exact Or.inl
    · rintro (inValues | equal)
      · exact inValues
      · exact equal ▸ member
  · rw [if_neg present, List.mem_append, List.mem_singleton]

theorem nodup_withLast {value : α} {values : List α}
    (nodup : values.Nodup) : (withLast value values).Nodup := by
  unfold withLast
  by_cases present : values.contains value = true
  · rw [if_pos present]
    exact nodup
  · have absent : value ∉ values := by simpa using present
    rw [if_neg present, List.nodup_append]
    refine ⟨nodup, by simp, ?_⟩
    intro left leftMember right rightMember equal
    rw [List.mem_singleton] at rightMember
    exact absent (rightMember ▸ equal ▸ leftMember)

theorem eraseDups_concat (values : List α) (value : α) :
    (values ++ [value]).eraseDups = withLast value values.eraseDups := by
  rw [List.eraseDups_append, withLast]
  by_cases member : value ∈ values
  · have listed : values.eraseDups.contains value = true := by
      simpa [List.mem_eraseDups] using member
    have removed : [value].removeAll values = [] := by simp [List.removeAll, member]
    rw [if_pos listed, removed, List.eraseDups_nil, List.append_nil]
  · have unlisted : ¬values.eraseDups.contains value = true := by
      simpa [List.mem_eraseDups] using member
    have kept : [value].removeAll values = [value] := by simp [List.removeAll, member]
    have single : [value].eraseDups = [value] := by simp [List.eraseDups_cons]
    rw [if_neg unlisted, kept, single]

theorem nodup_eraseDups (values : List α) : values.eraseDups.Nodup := by
  induction values using List.reverseRecOn with
  | nil => simp
  | append_singleton values value induction =>
      rw [eraseDups_concat]
      exact nodup_withLast induction

private theorem eraseDups_sublist (values : List α) : values.eraseDups.Sublist values := by
  induction values using List.reverseRecOn with
  | nil => exact List.Sublist.refl []
  | append_singleton values value induction =>
      rw [eraseDups_concat, withLast]
      split
      · exact induction.trans (List.sublist_append_left values [value])
      · exact induction.append_right [value]

theorem eraseDups_eq_self {values : List α} (nodup : values.Nodup) :
    values.eraseDups = values := by
  induction values using List.reverseRecOn with
  | nil => rfl
  | append_singleton values value induction =>
      rcases List.nodup_append.mp nodup with ⟨front, _, apart⟩
      have absent : value ∉ values := fun member => apart value member value (by simp) rfl
      rw [eraseDups_concat, induction front, withLast, if_neg (by simpa using absent)]

theorem eraseDups_append_of_subset {values others : List α}
    (subset : ∀ value ∈ others, value ∈ values) :
    (values ++ others).eraseDups = values.eraseDups := by
  have removed : others.removeAll values = [] := by
    simpa [List.removeAll, List.filter_eq_nil_iff] using subset
  rw [List.eraseDups_append, removed, List.eraseDups_nil, List.append_nil]

/-- If every item gives its own key, any number of times, what is left are the keys of the items
that give any. -/
theorem eraseDups_flatMap_keys {ι : Type} {key : ι → α} {values : ι → List α} {items : List ι}
    (distinct : (items.map key).Nodup) (own : ∀ item ∈ items, ∀ value ∈ values item,
      value = key item) :
    (items.flatMap values).eraseDups =
      (items.filter fun item => !(values item).isEmpty).map key := by
  induction items using List.reverseRecOn with
  | nil => rfl
  | append_singleton items item induction =>
      rcases List.nodup_append.mp (List.map_append ▸ distinct) with ⟨frontDistinct, _, apart⟩
      have front := induction frontDistinct fun other member =>
        own other (List.mem_append_left [item] member)
      have ownLast := own item (by simp)
      have single : [item].flatMap values = values item := by simp
      rw [List.flatMap_append, single, List.filter_append, List.map_append, ← front]
      cases given : values item with
      | nil => simp [given]
      | cons value others =>
          have absent : key item ∉ items.flatMap values := by
            intro member
            rcases List.mem_flatMap.mp member with ⟨other, inItems, inValues⟩
            have equal := own other (List.mem_append_left [item] inItems) (key item) inValues
            exact apart (key other) (List.mem_map_of_mem inItems) (key item) (by simp) equal.symm
          have first : value = key item := ownLast value (given ▸ List.mem_cons_self)
          have noneNew : ∀ other ∈ others, other ∈ items.flatMap values ++ [value] := by
            intro other member
            have equal := ownLast other (given ▸ List.mem_cons_of_mem value member)
            rw [equal, ← first]
            simp
          have moved : items.flatMap values ++ value :: others =
              (items.flatMap values ++ [value]) ++ others := by simp
          have unlisted : ¬(items.flatMap values).eraseDups.contains (key item) = true := by
            simpa only [List.contains_iff_mem, List.mem_eraseDups] using absent
          rw [moved, eraseDups_append_of_subset noneNew, eraseDups_concat, first, withLast,
            if_neg unlisted]
          simp [given]

theorem map_withLast {β : Type} [BEq β] [LawfulBEq β] {f : α → β} {value : α} {values : List α}
    (injective : ∀ other ∈ values, f other = f value → other = value) :
    (withLast value values).map f = withLast (f value) (values.map f) := by
  have sameTest : (values.map f).contains (f value) = values.contains value := by
    rw [Bool.eq_iff_iff, List.contains_iff_mem, List.contains_iff_mem, List.mem_map]
    constructor
    · rintro ⟨other, member, equal⟩
      exact injective other member equal ▸ member
    · intro member
      exact ⟨value, member, rfl⟩
  unfold withLast
  rw [sameTest]
  split <;> simp

/-! ## Sorting -/

theorem lt_of_le_of_ne {left right : String} (before : left ≤ right) (different : left ≠ right) :
    left < right :=
  String.not_le.mp fun after => different (String.le_antisymm before after)

theorem pairwise_le_mergeSort {ι : Type} (key : ι → String) (items : List ι) :
    (items.mergeSort fun left right => key left ≤ key right).Pairwise
      fun left right => key left ≤ key right := by
  have sorted : (items.mergeSort fun left right => key left ≤ key right).Pairwise
      fun left right => decide (key left ≤ key right) = true := by
    apply List.pairwise_mergeSort
    · intro first second third before after
      rw [decide_eq_true_eq] at before after ⊢
      exact String.le_trans before after
    · intro left right
      rw [Bool.or_eq_true, decide_eq_true_eq, decide_eq_true_eq]
      exact String.le_total (key left) (key right)
  exact sorted.imp fun before => of_decide_eq_true before

theorem pairwise_lt_mergeSort {ι : Type} {key : ι → String} {items : List ι}
    (distinct : (items.map key).Nodup) :
    (items.mergeSort fun left right => key left ≤ key right).Pairwise
      fun left right => key left < key right := by
  have stillDistinct : ((items.mergeSort fun left right => key left ≤ key right).map key).Nodup :=
    ((List.mergeSort_perm items _).map key).nodup_iff.mpr distinct
  exact (pairwise_le_mergeSort key items).imp₂ (fun _ _ => lt_of_le_of_ne)
    (List.pairwise_map.mp stillDistinct)

private theorem map_eq_of_map_eq {ι κ β : Type} {key : ι → κ} {value : ι → β} {left right : List ι}
    (sameKeys : left.map key = right.map key)
    (alike : ∀ first ∈ left, ∀ second ∈ right, key first = key second →
      value first = value second) :
    left.map value = right.map value := by
  induction left generalizing right with
  | nil =>
      rw [List.map_nil, eq_comm, List.map_eq_nil_iff] at sameKeys
      rw [sameKeys]
  | cons first rest induction =>
      cases right with
      | nil => cases sameKeys
      | cons second others =>
          rw [List.map_cons, List.map_cons, List.cons.injEq] at sameKeys
          rw [List.map_cons, List.map_cons,
            alike first List.mem_cons_self second List.mem_cons_self sameKeys.1,
            induction sameKeys.2 fun item inRest other inOthers =>
              alike item (List.mem_cons_of_mem first inRest) other
                (List.mem_cons_of_mem second inOthers)]

/-- Items with the same keys in some order have the same values once they are sorted, if the key of
an item determines its value. -/
theorem map_mergeSort_eq {ι β : Type} {key : ι → String} {value : ι → β} {left right : List ι}
    (permuted : (left.map key).Perm (right.map key))
    (alike : ∀ first ∈ left, ∀ second ∈ right, key first = key second →
      value first = value second) :
    (left.mergeSort fun left right => key left ≤ key right).map value =
      (right.mergeSort fun left right => key left ≤ key right).map value := by
  have sorted : ∀ items : List ι,
      ((items.mergeSort fun left right => key left ≤ key right).map key).Pairwise (· ≤ ·) :=
    fun items => List.pairwise_map.mpr (pairwise_le_mergeSort key items)
  have sameKeys : (left.mergeSort fun left right => key left ≤ key right).map key =
      (right.mergeSort fun left right => key left ≤ key right).map key := by
    refine List.Perm.eq_of_pairwise (fun _ _ _ _ => String.le_antisymm) (sorted left)
      (sorted right) ?_
    exact (((List.mergeSort_perm left _).map key).trans permuted).trans
      ((List.mergeSort_perm right _).map key).symm
  apply map_eq_of_map_eq sameKeys
  intro first inLeft second inRight
  exact alike first (List.mem_mergeSort.mp inLeft) second (List.mem_mergeSort.mp inRight)

theorem pairwise_lt_eraseDups (texts : List String) :
    (texts.mergeSort fun left right => left ≤ right).eraseDups.Pairwise (· < ·) :=
  ((pairwise_le_mergeSort id texts).sublist (eraseDups_sublist _)).imp₂
    (fun _ _ => lt_of_le_of_ne) (nodup_eraseDups _)

theorem eq_of_pairwise {ι : Type} {precedes : ι → ι → Prop}
    (asymm : ∀ {left right}, precedes left right → ¬precedes right left) {left right : List ι}
    (leftOrdered : left.Pairwise precedes) (rightOrdered : right.Pairwise precedes)
    (same : ∀ item, item ∈ left ↔ item ∈ right) : left = right := by
  have different : ∀ {first second : ι}, precedes first second → first ≠ second := by
    intro first second before equal
    subst equal
    exact asymm before before
  have permuted : left.Perm right :=
    (List.perm_ext_iff_of_nodup (leftOrdered.imp different) (rightOrdered.imp different)).mpr same
  exact permuted.eq_of_pairwise (fun _ _ _ _ before after => absurd after (asymm before))
    leftOrdered rightOrdered

end ImportAtlas.Distinct
