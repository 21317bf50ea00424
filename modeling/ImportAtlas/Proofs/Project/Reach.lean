import ImportAtlas.Proofs.FileSystem.Descent
import ImportAtlas.Proofs.Project.RulesInForce

/-! # Directories that a walk reaches

A walk goes down from the root through real directories that are not left out. What it comes to
by names in the tree is what the file system finds at their place, as long as the directories on
the way can be listed.
-/

namespace ImportAtlas.Scan

open Ignore

variable {scan : Scan} {tree : Entry}

/-- From a directory, a walk enters a member that is a directory itself, unless it is that of Git
or is ignored by the rules in force in the directory. -/
structure Enters (scan : Scan) (above : List String) (child : String) : Prop where
  isName : IsName child
  outsideGit : child ≠ gitDirectory
  isDirectory : ∃ entry, scan.system.entryAt false (scan.place (above ++ [child])) = .ok entry ∧
    entry.isDirectory = true
  kept : (scan.rulesAt above).isIgnored (pathText (above ++ [child])) true = false

def Reaches (scan : Scan) (directory : List String) : Prop :=
  ∀ above child, above ++ [child] <+: directory → scan.Enters above child

namespace Reaches

theorem nil : scan.Reaches [] := by
  intro above child isPrefix
  simp at isPrefix

theorem of_prefix {above directory : List String} (reached : scan.Reaches directory)
    (before : above <+: directory) : scan.Reaches above :=
  fun upper child inAbove => reached upper child (inAbove.trans before)

theorem concat_iff {above : List String} {child : String} :
    scan.Reaches (above ++ [child]) ↔ scan.Reaches above ∧ scan.Enters above child := by
  constructor
  · intro reached
    exact ⟨reached.of_prefix (List.prefix_append above [child]),
      reached above child (List.prefix_refl _)⟩
  · rintro ⟨reached, entered⟩ upper other before
    rcases List.prefix_concat_iff.mp before with equal | inAbove
    · rcases List.append_inj' equal rfl with ⟨rfl, single⟩
      rw [List.singleton_inj] at single
      exact single ▸ entered
    · exact reached upper other inAbove

theorem named {directory : List String} (reached : scan.Reaches directory) :
    ∀ name ∈ directory, IsName name := by
  intro name member
  rcases List.append_of_mem member with ⟨front, back, rfl⟩
  exact (reached front name ⟨back, by simp⟩).isName

end Reaches

/-! ## The tree below the root -/

structure IsRoot (scan : Scan) (tree : Entry) : Prop where
  found : scan.system.entryAt true scan.root = .ok tree
  isDirectory : tree.isDirectory = true
  proper : tree.isProper = true

def IsOpen (scan : Scan) (directory : List String) : Prop :=
  ∃ members, scan.system.list (scan.place directory) = .ok members

namespace IsRoot

theorem get?_of_entryAt (isRoot : scan.IsRoot tree) {above : List String}
    {permission : Permission} {members : List (String × Entry)}
    (reached : tree.at? above = some (.directory permission members))
    (named : ∀ name ∈ above, IsName name) {child : String} (isName : IsName child) {entry : Entry}
    (found : scan.system.entryAt false (scan.place (above ++ [child])) = .ok entry) :
    Keyed.get? child members = some entry := by
  have place : scan.place (above ++ [child]) = scan.root.under (above ++ [child]) := rfl
  rw [place] at found
  rcases FileSystem.entryAt_below isRoot.found reached named isName with
    ⟨cause, _, refused⟩ | ⟨_, missing⟩ | ⟨other, present, unfollowed, _⟩
  · rw [refused] at found
    cases found
  · rw [missing] at found
    cases found
  · rw [unfollowed, Except.ok.injEq] at found
    rw [present, found]

theorem entryAt_of_isOpen (isRoot : scan.IsRoot tree) {above : List String}
    {permission : Permission} {members : List (String × Entry)}
    (reached : tree.at? above = some (.directory permission members))
    (named : ∀ name ∈ above, IsName name) {child : String} (isName : IsName child) {entry : Entry}
    (present : Keyed.get? child members = some entry)
    (isOpen : scan.IsOpen (above ++ [child])) :
    scan.system.entryAt false (scan.place (above ++ [child])) = .ok entry := by
  have place : scan.place (above ++ [child]) = scan.root.under (above ++ [child]) := rfl
  rcases isOpen with ⟨_, listed⟩
  rw [place] at listed ⊢
  rcases FileSystem.entryAt_below isRoot.found reached named isName with
    ⟨cause, _, refused⟩ | ⟨absent, _⟩ | ⟨other, found, unfollowed, _⟩
  · simp [FileSystem.list, refused] at listed
  · rw [absent] at present
    cases present
  · rw [found, Option.some.injEq] at present
    rw [unfollowed, present]

theorem at?_of_reaches (isRoot : scan.IsRoot tree) {directory : List String}
    (reached : scan.Reaches directory) :
    ∃ permission members, tree.at? directory = some (.directory permission members) := by
  induction directory using List.reverseRecOn with
  | nil =>
      rcases Entry.isDirectory_iff.mp isRoot.isDirectory with ⟨permission, members, equal⟩
      exact ⟨permission, members, congrArg some equal⟩
  | append_singleton above child induction =>
      rcases Reaches.concat_iff.mp reached with ⟨aboveReached, entered⟩
      rcases induction aboveReached with ⟨permission, members, atAbove⟩
      rcases entered.isDirectory with ⟨entry, found, isDirectory⟩
      rcases Entry.isDirectory_iff.mp isDirectory with ⟨inner, others, rfl⟩
      refine ⟨inner, others, ?_⟩
      rw [Entry.at?_concat atAbove]
      exact isRoot.get?_of_entryAt atAbove aboveReached.named entered.isName found

private theorem entryAt_of_reaches (isRoot : scan.IsRoot tree) {directory : List String}
    (reached : scan.Reaches directory) :
    (∃ cause : Cause, cause.isAbsence = false ∧
      scan.system.entryAt true (scan.place directory) = .error cause) ∨
    ∃ permission members,
      scan.system.entryAt true (scan.place directory) = .ok (.directory permission members) := by
  cases directory using List.reverseRecOn with
  | nil =>
      rcases Entry.isDirectory_iff.mp isRoot.isDirectory with ⟨permission, members, rfl⟩
      have place : scan.place [] = scan.root := by simp [Scan.place]
      exact Or.inr ⟨permission, members, place ▸ isRoot.found⟩
  | append_singleton above child =>
      rcases Reaches.concat_iff.mp reached with ⟨aboveReached, entered⟩
      rcases isRoot.at?_of_reaches aboveReached with ⟨permission, members, atAbove⟩
      rcases entered.isDirectory with ⟨entry, found, isDirectory⟩
      rcases Entry.isDirectory_iff.mp isDirectory with ⟨inner, others, rfl⟩
      have present := isRoot.get?_of_entryAt atAbove aboveReached.named entered.isName found
      rcases FileSystem.entryAt_below isRoot.found atAbove aboveReached.named entered.isName with
        ⟨cause, known, refused⟩ | ⟨absent, _⟩ | ⟨other, isMember, _, followed⟩
      · exact Or.inl ⟨cause, known, refused true⟩
      · rw [absent] at present
        cases present
      · rw [isMember, Option.some.injEq] at present
        subst present
        exact Or.inr ⟨inner, others, followed rfl⟩

theorem isOpen_of_reaches (isRoot : scan.IsRoot tree) {directory : List String}
    (reached : scan.Reaches directory)
    (byAbsence : FileSystem.ByAbsence (scan.system.list (scan.place directory))) :
    scan.IsOpen directory := by
  cases listed : scan.system.list (scan.place directory) with
  | ok members => exact ⟨members, listed⟩
  | error cause =>
      exfalso
      have absence := byAbsence cause listed
      rcases isRoot.entryAt_of_reaches reached with
        ⟨other, known, refused⟩ | ⟨permission, members, found⟩
      · rw [FileSystem.list, refused, Except.error.injEq] at listed
        rw [← listed, known] at absence
        cases absence
      · simp only [FileSystem.list, found] at listed
        split at listed
        · cases listed
        · rw [Except.error.injEq] at listed
          rw [← listed] at absence
          cases absence

end IsRoot

end ImportAtlas.Scan
