import ImportAtlas.Config.Basic
import ImportAtlas.Proofs.FileSystem.Relisted
import ImportAtlas.Proofs.Project.Enumeration
import ImportAtlas.Proofs.Project.MovedWalk

/-! # The order of enumeration

A walk visits the members of a directory in the order of their names, whatever order the file
system lists them in. Main statement: the files that it finds are strictly increasing in the order
of files, and do not depend on any order of listings.
-/

namespace ImportAtlas

/-- What a visit makes use of in a member: its name, what can be told of it without looking into
it, and its visit. -/
def Member.shape (member : Member) : Member :=
  { member with entry := member.entry.shape }

namespace Scan

open Ignore
open scoped Reported

/-! ## Questions to the file system -/

section Relisted

variable {scan : Scan} {other : FileSystem} (same : scan.system.Relisted other)
include same

private theorem rootRules_relisted : (scan.movedTo other).rootRules = scan.rootRules :=
  rootRules_congr (FileSystem.test_relisted same Entry.isFile_shape)
    fun _ => FileSystem.readLines_relisted same

private theorem ignoreFileRules_relisted :
    (scan.movedTo other).ignoreFileRules = scan.ignoreFileRules := by
  funext names rules file
  apply ignoreFileRules_congr rules (FileSystem.test_relisted same Entry.isFile_shape)
  intro _
  exact ⟨FileSystem.test_relisted same Entry.isLink_shape, FileSystem.readLines_relisted same⟩

private theorem directoryRules_relisted :
    (scan.movedTo other).directoryRules = scan.directoryRules := by
  funext names rules files
  induction files generalizing rules with
  | nil => rfl
  | cons file rest induction =>
      rw [directoryRules, directoryRules, ignoreFileRules_relisted same]
      exact congrArg _ (funext induction)

private theorem leadsToDirectory_relisted :
    (scan.movedTo other).leadsToDirectory = scan.leadsToDirectory := by
  funext names member
  have isDirectory : other.isDirectory? (scan.place (names ++ [member.name])) =
      scan.system.isDirectory? (scan.place (names ++ [member.name])) :=
    FileSystem.test_relisted same Entry.isDirectory_shape
  unfold leadsToDirectory
  rw [system_movedTo, place_movedTo, isDirectory]

private theorem fileRecords_relisted : (scan.movedTo other).fileRecords = scan.fileRecords := by
  have single : (scan.movedTo other).record? = scan.record? := by
    funext names rules member
    unfold record?
    simp only [system_movedTo, place_movedTo]
    rcases FileSystem.entryAt_cases_relisted same with
      ⟨cause, refused, refusedOther⟩ | ⟨entry, own, found, foundOther, alike⟩
    · rw [refused, refusedOther]
      rfl
    · have isFile : own.isFile = entry.isFile := by
        rw [← Entry.isFile_shape, alike.shape_eq, Entry.isFile_shape]
      simp only [found, foundOther, isFile]
  funext names rules members
  induction members with
  | nil => rfl
  | cons member rest induction => rw [fileRecords, fileRecords, single, induction]

private theorem visitDirectory_relisted :
    (scan.movedTo other).visitDirectory = scan.visitDirectory := by
  funext members names rules
  unfold visitDirectory
  simp only [system_movedTo, place_movedTo, ignoreFiles_movedTo, directoryRules_relisted same,
    leadsToDirectory_relisted same, keptDirectories_movedTo, fileRecords_relisted same]
  rcases FileSystem.list_cases_relisted same with
    ⟨cause, refused, refusedOther⟩ | ⟨members, others, listed, listedOther⟩
  · rw [refused, refusedOther]
    rfl
  · rw [listed, listedOther]

end Relisted

/-! ## The order of members -/

variable {scan : Scan} {names : List String} {rules : Rules}

private theorem leadsToDirectory_shape (member : Member) :
    scan.leadsToDirectory names member.shape = scan.leadsToDirectory names member := by
  rcases member with ⟨name, entry, visit⟩
  cases entry <;> rfl

private theorem keptDirectories_map_shape (members : List Member) :
    scan.keptDirectories names rules (members.map Member.shape) =
      List.map Member.shape <$> scan.keptDirectories names rules members := by
  induction members with
  | nil => rfl
  | cons member rest induction =>
      rw [List.map_cons, keptDirectories, keptDirectories, induction]
      have sameName : member.shape.name = member.name := rfl
      simp only [sameName]
      split
      · rfl
      · split
        · rw [map_bind]
        · simp

private theorem fileRecords_map_shape (members : List Member) :
    scan.fileRecords names rules (members.map Member.shape) =
      scan.fileRecords names rules members := by
  induction members with
  | nil => rfl
  | cons member rest induction =>
      rw [List.map_cons, fileRecords, fileRecords, induction]
      rfl

private theorem visitAll_map_shape (members : List Member) :
    visitAll names rules (members.map Member.shape) = visitAll names rules members := by
  induction members with
  | nil => rfl
  | cons member rest induction =>
      rw [List.map_cons, visitAll, visitAll, induction]
      rfl

theorem mergeSort_map_shape (members : List Member) :
    (members.map Member.shape).mergeSort (fun left right => left.name ≤ right.name) =
      (members.mergeSort fun left right => left.name ≤ right.name).map Member.shape := by
  symm
  apply List.map_mergeSort
  intro left _ right _
  rfl

private theorem visitDirectory_map_shape (members : List Member) :
    scan.visitDirectory (members.map Member.shape) = scan.visitDirectory members := by
  funext names rules
  unfold visitDirectory
  simp only [mergeSort_map_shape, List.filter_map, Function.comp_def, leadsToDirectory_shape,
    keptDirectories_map_shape, fileRecords_map_shape, bind_map_left, visitAll_map_shape]

/-- Members with the same names in some order are visited alike if those with the same name are
alike. -/
private theorem visitDirectory_congr {left right : List Member}
    (permuted : (left.map Member.name).Perm (right.map Member.name))
    (alike : ∀ first ∈ left, ∀ second ∈ right, first.name = second.name →
      first.shape = second.shape) :
    scan.visitDirectory left = scan.visitDirectory right := by
  have sortedAlike := Distinct.map_mergeSort_eq permuted alike
  rw [← mergeSort_map_shape, ← mergeSort_map_shape] at sortedAlike
  rw [← visitDirectory_map_shape left, ← visitDirectory_map_shape right]
  unfold visitDirectory
  rw [sortedAlike]

/-! ## The walk -/

section Relisted

variable {other : FileSystem} (same : scan.system.Relisted other)
include same

private theorem visit_relisted {entry own : Entry} (alike : entry.Relisted own) :
    (scan.movedTo other).visit own = scan.visit entry := by
  induction alike with
  | leaf notDirectory =>
      rename_i entry
      cases entry with
      | directory => cases notDirectory
      | _ => simp [visit]
  | directory permission permuted each induction =>
      rw [visit, visit, visitDirectory_relisted same, visits_eq_map, visits_eq_map]
      apply visitDirectory_congr
      · simpa [Function.comp_def] using permuted
      · intro first inOthers second inMembers sameName
        rcases List.mem_map.mp inOthers with ⟨own, isOther, rfl⟩
        rcases List.mem_map.mp inMembers with ⟨member, isMember, rfl⟩
        have sameShape := (each member isMember own isOther sameName).shape_eq
        have sameVisit := induction member isMember own isOther sameName
        simp only [Member.shape, sameShape, sameVisit, Member.mk.injEq, and_true]
        exact sameName

private theorem run_relisted : (scan.movedTo other).run = scan.run := by
  unfold run
  have valid : validateRoot other scan.root = validateRoot scan.system scan.root :=
    validateRoot_outside (same.sameOutside []) (FileSystem.entryAt_relisted same)
  rw [system_movedTo, root_movedTo, valid, rootRules_relisted same]
  rcases FileSystem.entryAt_cases_relisted same with
    ⟨cause, refused, refusedOther⟩ | ⟨tree, own, found, foundOther, alike⟩
  · rw [refused, refusedOther]
  · rw [found, foundOther]
    simp only [visit_relisted same alike]
    rfl

end Relisted

/-! ## The order of files -/

namespace IsFoundBelow

variable {found : Found} (below : scan.IsFoundBelow names found)
include below

theorem pairwise_path : (found.records.map FileRecord.path).Pairwise PathPrecedes :=
  List.pairwise_map.mpr below.ordered

private theorem map_ofPath_map_path :
    (found.records.map FileRecord.path).map FileRecord.ofPath = found.records := by
  rw [List.map_map]
  refine (List.map_congr_left fun record member => ?_).trans (List.map_id _)
  rcases (below.mem_iff record).mp member with ⟨directory, name, _, _, _, rfl⟩
  rfl

private theorem records_eq {another : Scan} {above : List String} {foundThere : Found}
    (belowThere : another.IsFoundBelow above foundThere)
    (samePaths : ∀ path, path ∈ foundThere.records.map FileRecord.path ↔
      path ∈ found.records.map FileRecord.path) :
    foundThere.records = found.records := by
  rw [← belowThere.map_ofPath_map_path, ← below.map_ofPath_map_path,
    Distinct.eq_of_pairwise Precedes.asymm belowThere.pairwise_path below.pairwise_path samePaths]

end IsFoundBelow

/-- Enumeration order is canonical: the files that a walk finds are strictly increasing in the order
of files, which is a total one. So none of them is found twice, two walks that find the same paths
find the same list, and the order in which directories are listed has no influence. -/
theorem run_canonical (proper : scan.system.top.isProper = true) {found : Found}
    (succeeded : scan.run.outcome = .ok found) :
    IsStrictTotalOrder String PathPrecedes ∧
      (found.records.map FileRecord.path).Pairwise PathPrecedes ∧
      (found.records.map FileRecord.path).Nodup ∧
      (∀ (another : Scan) (foundThere : Found), another.system.top.isProper = true →
        another.run.outcome = .ok foundThere →
        (∀ path, path ∈ foundThere.records.map FileRecord.path ↔
          path ∈ found.records.map FileRecord.path) →
        foundThere.records = found.records) ∧
      ∀ other, scan.system.Relisted other → (scan.movedTo other).run = scan.run := by
  have below := found_of_run proper succeeded
  refine ⟨inferInstance, below.pairwise_path, nodup_of_ordered below.ordered, ?_, ?_⟩
  · intro another foundThere properThere succeededThere samePaths
    exact below.records_eq (found_of_run properThere succeededThere) samePaths
  · intro other same
    exact run_relisted same

def mixedTree (order : List (String × Entry) → List (String × Entry)) : Entry :=
  .directory .newDirectory (order [
    ("z.ts", .file .newFile []),
    ("m", .directory .newDirectory (order [
      ("y.ts", .file .newFile []),
      ("x.ts", .file .newFile [])])),
    ("a.ts", .file .newFile [])])

def mixedScan (order : List (String × Entry) → List (String × Entry)) : Scan where
  system := ⟨.directory .newDirectory [("r", mixedTree order)], [], false⟩
  root := .ofText "/r"
  ignorePatterns := []
  ignoreFiles := [.ofText ".gitignore", .ofText ".ignore"]

private theorem relisted_mixedTree : (mixedTree id).Relisted (mixedTree List.reverse) := by
  have file : (Entry.file .newFile []).Relisted (.file .newFile []) := .leaf rfl
  have inside : Entry.Relisted
      (.directory .newDirectory [("y.ts", .file .newFile []), ("x.ts", .file .newFile [])])
      (.directory .newDirectory [("x.ts", .file .newFile []), ("y.ts", .file .newFile [])]) :=
    .of_perm (by decide +kernel) (.swap _ _ _)
  exact .directory _ ((List.reverse_perm _).map _) (by simpa [file] using inside)

private theorem relisted_mixedScan :
    (mixedScan id).system.Relisted (mixedScan List.reverse).system :=
  ⟨rfl, rfl, .directory _ (.refl _) (by simpa using relisted_mixedTree)⟩

theorem run_canonical_mixedScan :
    ∃ found, (mixedScan id).run.outcome = .ok found ∧
      (mixedScan List.reverse).run.outcome = .ok found ∧
      .ofPath "z.ts" ∈ found.records ∧ .ofPath "m/x.ts" ∈ found.records ∧
      (found.records.map FileRecord.path).Pairwise PathPrecedes := by
  have isRoot : (mixedScan id).IsRoot (mixedTree id) := ⟨rfl, rfl, by decide +kernel⟩
  have undisturbed : (mixedScan id).Undisturbed :=
    .of_directoryTrails isRoot (by decide +kernel) (by decide +kernel) (by decide +kernel)
      (by decide +kernel) (by decide +kernel)
  rcases outcome_run (by decide +kernel) rfl undisturbed with ⟨found, succeeded⟩
  rcases run_canonical (by decide +kernel) succeeded with ⟨_, increasing, _, _, relisted⟩
  have below := found_of_run (by decide +kernel) succeeded
  have reached : (mixedScan id).Reaches ["m"] :=
    Reaches.concat_iff.mpr ⟨.nil, by decide, by decide, ⟨_, rfl, rfl⟩, by decide +kernel⟩
  refine ⟨found, succeeded, ?_, ?_, ?_, increasing⟩
  · rw [← succeeded, ← relisted _ relisted_mixedScan]
    rfl
  · refine (below.mem_iff _).mpr ⟨[], "z.ts", List.nil_prefix, undisturbed.opens isRoot .nil,
      ⟨.nil, by decide, by decide, ⟨_, rfl, rfl⟩, by decide +kernel⟩, by decide +kernel⟩
  · refine (below.mem_iff _).mpr ⟨["m"], "x.ts", List.nil_prefix, undisturbed.opens isRoot reached,
      ⟨reached, by decide, by decide, ⟨_, rfl, rfl⟩, by decide +kernel⟩, by decide +kernel⟩

end Scan

end ImportAtlas
