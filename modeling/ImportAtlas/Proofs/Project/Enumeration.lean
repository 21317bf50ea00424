import ImportAtlas.Proofs.Project.Walk

/-! # Exactness of enumeration

A walk fails only at its root or where the rules cannot be put together. Main statements: this says
exactly when it succeeds; and a walk that nothing disturbs finds exactly the files that should be
listed, each of them once.
-/

namespace ImportAtlas.Scan

open Ignore

variable {scan : Scan} {tree : Entry}

/-! ## Walks that succeed -/

/-- No call of a walk fails, except where nothing is at a place, and no ignore line has a reversed
range. -/
structure Undisturbed (scan : Scan) : Prop where
  patterns : ∀ line ∈ scan.ignorePatterns, isReversed line = false
  exclude : FileSystem.ByAbsence (scan.system.isFile? scan.excludePlace)
  excludeLines : ∀ line ∈ scan.linesAt scan.excludePlace, isReversed line = false
  listing : ∀ directory, scan.Reaches directory →
    FileSystem.ByAbsence (scan.system.list (scan.place directory))
  isFile : ∀ directory, scan.Reaches directory → ∀ file ∈ scan.ignoreFiles,
    FileSystem.ByAbsence (scan.system.isFile? ((scan.place directory).append file))
  isLink : ∀ directory, scan.Reaches directory → ∀ file ∈ scan.ignoreFiles,
    FileSystem.ByAbsence (scan.system.isLink? ((scan.place directory).append file))
  lines : ∀ directory, scan.Reaches directory → ∀ file ∈ scan.ignoreFiles,
    ∀ line ∈ scan.linesAt ((scan.place directory).append file), isReversed line = false

namespace Undisturbed

theorem canApply (undisturbed : scan.Undisturbed) {directory : List String}
    (reached : scan.Reaches directory) :
    ∀ file ∈ scan.ignoreFiles, scan.CanApply directory file :=
  fun file member =>
    ⟨FileSystem.exists_answer (undisturbed.isFile directory reached file member),
      FileSystem.exists_answer (undisturbed.isLink directory reached file member),
      undisturbed.lines directory reached file member⟩

theorem of_directoryTrails (isRoot : scan.IsRoot tree)
    (patterns : ∀ line ∈ scan.ignorePatterns, isReversed line = false)
    (exclude : FileSystem.ByAbsence (scan.system.isFile? scan.excludePlace))
    (excludeLines : ∀ line ∈ scan.linesAt scan.excludePlace, isReversed line = false)
    (listing : ∀ directory ∈ tree.directoryTrails,
      FileSystem.ByAbsence (scan.system.list (scan.place directory)))
    (files : ∀ directory ∈ tree.directoryTrails, ∀ file ∈ scan.ignoreFiles,
      FileSystem.ByAbsence (scan.system.isFile? ((scan.place directory).append file)) ∧
      FileSystem.ByAbsence (scan.system.isLink? ((scan.place directory).append file)) ∧
      ∀ line ∈ scan.linesAt ((scan.place directory).append file), isReversed line = false) :
    scan.Undisturbed := by
  have inTree : ∀ directory, scan.Reaches directory → directory ∈ tree.directoryTrails := by
    intro directory reached
    rcases isRoot.at?_of_reaches reached with ⟨_, _, atDirectory⟩
    exact Entry.mem_directoryTrails atDirectory rfl
  exact ⟨patterns, exclude, excludeLines,
    fun directory reached => listing directory (inTree directory reached),
    fun directory reached file member => (files directory (inTree directory reached) file member).1,
    fun directory reached file member =>
      (files directory (inTree directory reached) file member).2.1,
    fun directory reached file member =>
      (files directory (inTree directory reached) file member).2.2⟩

theorem opens (undisturbed : scan.Undisturbed) (isRoot : scan.IsRoot tree)
    {directory : List String} (reached : scan.Reaches directory) : scan.Opens directory :=
  fun above before =>
    isRoot.isOpen_of_reaches (reached.of_prefix before)
      (undisturbed.listing above (reached.of_prefix before))

end Undisturbed

private theorem outcome_visitAll {names : List String} {rules : Rules} {members : List Member}
    (each : ∀ member ∈ members, ∃ part,
      (member.visit (names ++ [member.name]) rules).outcome = .ok part) :
    ∃ found, (visitAll names rules members).outcome = .ok found := by
  induction members with
  | nil => exact ⟨.nothing, rfl⟩
  | cons member rest induction =>
      rcases List.forall_mem_cons.mp each with ⟨⟨first, visited⟩, others⟩
      rcases induction others with ⟨further, restVisited⟩
      exact ⟨first.append further, by simp [visitAll, visited, restVisited, Except.bind]⟩

private theorem exists_outcome_visit (hasRules : ∀ directory, scan.Reaches directory →
      scan.Opens directory → scan.HasRules directory)
    (isRoot : scan.IsRoot tree) (entry : Entry) :
    ∀ names rules, scan.Arrives tree names rules entry →
      ∃ found, (scan.visit entry names rules).outcome = .ok found := by
  induction entry using Entry.induct with
  | leaf entry notDirectory =>
      intro names rules _
      refine ⟨.nothing, ?_⟩
      cases entry with
      | directory => cases notDirectory
      | _ => simp [visit]
  | directory permission members induction =>
      intro names rules arrived
      rw [visit]
      cases listed : scan.system.list (scan.place names) with
      | error cause => exact ⟨_, outcome_visitDirectory_of_refused listed⟩
      | ok listing =>
          have isOpen : scan.IsOpen names := ⟨listing, listed⟩
          have reached := arrived.reached rfl isOpen
          rcases exists_directoryRules_iff.mpr (hasRules names reached (arrived.opens isOpen)) with
            ⟨own, given⟩
          have each : ∀ member ∈ scan.keptMembers names members, ∃ part,
              (member.visit (names ++ [member.name]) (.ofLayers (scan.layersAt names))).outcome =
                .ok part := by
            intro member isKept
            rcases arrives_of_mem_keptMembers isRoot arrived isOpen isKept with
              ⟨inner, inMembers, rfl, childArrived⟩
            exact induction inner inMembers _ _ childArrived
          rcases outcome_visitAll each with ⟨below, belowVisited⟩
          rw [outcome_visitDirectory arrived isOpen, given, belowVisited]
          exact ⟨_, rfl⟩

theorem exists_outcome_run (isRoot : scan.IsRoot tree)
    (valid : validateRoot scan.system scan.root = .ok ())
    (rootRules : ∃ rules, scan.rootRules.outcome = .ok rules)
    (hasRules : ∀ directory, scan.Reaches directory → scan.Opens directory →
      scan.HasRules directory) :
    ∃ found, scan.run.outcome = .ok found := by
  rcases rootRules with ⟨rules, given⟩
  have arrived := Arrives.root isRoot
  rw [← eq_of_rootRules given] at arrived
  rcases exists_outcome_visit hasRules isRoot tree [] rules arrived with ⟨found, visited⟩
  refine Reported.exists_outcome_bind valid (Reported.exists_outcome_bind given ?_)
  simp only [isRoot.found]
  exact Reported.exists_outcome_bind visited ⟨found, rfl⟩

theorem outcome_run_of_applies (isRoot : scan.IsRoot tree)
    (valid : validateRoot scan.system scan.root = .ok ())
    (patternsValid : ∀ line ∈ scan.ignorePatterns, isReversed line = false)
    (probed : ∃ answer, scan.system.isFile? scan.excludePlace = .ok answer)
    (excludeValid : ∀ line ∈ scan.linesAt scan.excludePlace, isReversed line = false)
    (applies : ∀ directory, scan.Reaches directory → scan.Opens directory →
      ∀ file ∈ scan.ignoreFiles, scan.CanApply directory file) :
    ∃ found, scan.run.outcome = .ok found := by
  have rootRules : ∃ rules, scan.rootRules.outcome = .ok rules :=
    exists_rootRules_iff.mpr
      ⟨patternsValid, probed.imp fun _ answer => ⟨answer, fun _ => excludeValid⟩⟩
  exact exists_outcome_run isRoot valid rootRules fun directory reached opened file member =>
    (applies directory reached opened file member).applies

theorem outcome_run (proper : scan.system.top.isProper = true)
    (valid : validateRoot scan.system scan.root = .ok ()) (undisturbed : scan.Undisturbed) :
    ∃ found, scan.run.outcome = .ok found := by
  rcases isRoot_of_validateRoot proper valid with ⟨tree, isRoot⟩
  exact outcome_run_of_applies isRoot valid undisturbed.patterns
    (FileSystem.exists_answer undisturbed.exclude) undisturbed.excludeLines
    fun _ reached _ => undisturbed.canApply reached

/-! ## Walks that have succeeded -/

private theorem visited_of_visitAll {names : List String} {rules : Rules} {members : List Member}
    {found : Found} (visited : (visitAll names rules members).outcome = .ok found) :
    ∀ member ∈ members, ∃ part,
      (member.visit (names ++ [member.name]) rules).outcome = .ok part := by
  induction members generalizing found with
  | nil => simp
  | cons member rest induction =>
      rcases Reported.outcome_bind_eq_ok_iff.mp visited with ⟨first, memberVisited, others⟩
      rcases Reported.outcome_bind_eq_ok_iff.mp others with ⟨further, restVisited, _⟩
      exact List.forall_mem_cons.mpr ⟨⟨first, memberVisited⟩, induction restVisited⟩

private theorem hasRules_of_visit (isRoot : scan.IsRoot tree) (entry : Entry) :
    ∀ names rules found, scan.Arrives tree names rules entry →
      (scan.visit entry names rules).outcome = .ok found →
      ∀ directory, names <+: directory → scan.Reaches directory → scan.Opens directory →
        scan.HasRules directory := by
  induction entry using Entry.induct with
  | leaf entry notDirectory =>
      intro names rules found arrived _ directory below reached _
      rcases isRoot.at?_of_reaches (reached.of_prefix below) with ⟨_, _, atNames⟩
      rw [arrived.found, Option.some.injEq] at atNames
      rw [atNames] at notDirectory
      cases notDirectory
  | directory permission members induction =>
      intro names rules found arrived visited directory below reached opened
      rw [visit] at visited
      rcases visitDirectory_cases arrived visited with
        ⟨closed, _⟩ | ⟨isOpen, given, rest, restVisited, _⟩
      · exact absurd (opened names below) closed
      · rcases below with ⟨further, rfl⟩
        cases further with
        | nil =>
            rw [List.append_nil]
            exact exists_directoryRules_iff.mp given
        | cons child further =>
            have before : names ++ [child] <+: names ++ child :: further := ⟨further, by simp⟩
            rcases exists_of_enters isRoot arrived (reached names child before) with
              ⟨member, isKept, rfl⟩
            rcases visited_of_visitAll restVisited member isKept with ⟨part, memberVisited⟩
            rcases arrives_of_mem_keptMembers isRoot arrived isOpen isKept with
              ⟨inner, inMembers, rfl, childArrived⟩
            exact induction inner inMembers _ _ part childArrived memberVisited _ before reached
              opened

theorem exists_run_iff (proper : scan.system.top.isProper = true) :
    (∃ found, scan.run.outcome = .ok found) ↔
      validateRoot scan.system scan.root = .ok () ∧
        (∃ rules, scan.rootRules.outcome = .ok rules) ∧
        ∀ directory, scan.Reaches directory → scan.Opens directory → scan.HasRules directory := by
  constructor
  · rintro ⟨found, succeeded⟩
    rcases visit_of_run proper succeeded with ⟨tree, isRoot, visited⟩
    rcases Reported.outcome_bind_eq_ok_iff.mp succeeded with ⟨_, valid, afterRoot⟩
    rcases Reported.outcome_bind_eq_ok_iff.mp afterRoot with ⟨rules, given, _⟩
    exact ⟨valid, ⟨rules, given⟩, fun directory =>
      hasRules_of_visit isRoot tree [] _ found (.root isRoot) visited directory List.nil_prefix⟩
  · rintro ⟨valid, rootRules, hasRules⟩
    rcases isRoot_of_validateRoot proper valid with ⟨tree, isRoot⟩
    exact exists_outcome_run isRoot valid rootRules hasRules

/-! ## Exactness -/

theorem nodup_of_ordered {records : List FileRecord} (ordered : records.Pairwise RecordPrecedes) :
    (records.map FileRecord.path).Nodup := by
  rw [List.Nodup, List.pairwise_map]
  refine ordered.imp ?_
  intro left right before equal
  rw [RecordPrecedes, equal] at before
  exact Precedes.irrefl _ before

theorem eq_of_ordered {left right : List FileRecord} (leftOrdered : left.Pairwise RecordPrecedes)
    (rightOrdered : right.Pairwise RecordPrecedes)
    (same : ∀ record, record ∈ left ↔ record ∈ right) : left = right :=
  Distinct.eq_of_pairwise Precedes.asymm leftOrdered rightOrdered same

/-- Enumeration is exact: an undisturbed walk from a valid root has a record for a path exactly if
it is that of a file that should be listed, and has no two records for a path. -/
theorem run_exact (proper : scan.system.top.isProper = true)
    (valid : validateRoot scan.system scan.root = .ok ()) (undisturbed : scan.Undisturbed) :
    ∃ found, scan.run.outcome = .ok found ∧
      (∀ path, path ∈ found.records.map FileRecord.path ↔
        ∃ directory name, path = pathText (directory ++ [name]) ∧ scan.Lists directory name) ∧
      (found.records.map FileRecord.path).Nodup ∧
      ∀ record ∈ found.records, record = .ofPath record.path := by
  rcases outcome_run proper valid undisturbed with ⟨found, succeeded⟩
  rcases isRoot_of_validateRoot proper valid with ⟨tree, isRoot⟩
  have below := found_of_run proper succeeded
  refine ⟨found, succeeded, ?_, nodup_of_ordered below.ordered, ?_⟩
  · intro path
    rw [List.mem_map]
    constructor
    · rintro ⟨record, member, rfl⟩
      rcases (below.mem_iff record).mp member with ⟨directory, name, _, _, listed, rfl⟩
      exact ⟨directory, name, rfl, listed⟩
    · rintro ⟨directory, name, rfl, listed⟩
      refine ⟨.ofPath (pathText (directory ++ [name])), (below.mem_iff _).mpr ?_, rfl⟩
      exact ⟨directory, name, List.nil_prefix, undisturbed.opens isRoot listed.reached, listed, rfl⟩
  · intro record member
    rcases (below.mem_iff record).mp member with ⟨directory, name, _, _, _, rfl⟩
    rfl

def nestedTree : Entry :=
  .directory .newDirectory [
    (".git", .directory .newDirectory [("HEAD", .file .newFile [])]),
    (".ignore", .file .newFile ("*.log".toList.map Char.toUInt8)),
    ("a.log", .file .newFile []),
    ("src", .directory .newDirectory [
      (".ignore", .file .newFile ("!a.log".toList.map Char.toUInt8)),
      ("a.log", .file .newFile []),
      ("link", .link "a.log")])]

def nestedScan : Scan where
  system := ⟨.directory .newDirectory [("r", nestedTree)], [], false⟩
  root := .ofText "/r"
  ignorePatterns := ["tmp"]
  ignoreFiles := [.ofText ".ignore"]

theorem run_exact_nestedScan :
    ∃ found, nestedScan.run.outcome = .ok found ∧
      "src/a.log" ∈ found.records.map FileRecord.path ∧
      "a.log" ∉ found.records.map FileRecord.path := by
  have isRoot : nestedScan.IsRoot nestedTree := ⟨rfl, rfl, by decide +kernel⟩
  have undisturbed : nestedScan.Undisturbed :=
    .of_directoryTrails isRoot (by decide +kernel) (by decide +kernel) (by decide +kernel)
      (by decide +kernel) (by decide +kernel)
  rcases run_exact (by decide +kernel) rfl undisturbed with ⟨found, succeeded, exact, _⟩
  refine ⟨found, succeeded, (exact _).mpr ⟨["src"], "a.log", by decide +kernel, ?_⟩, ?_⟩
  · have entered : nestedScan.Enters [] "src" :=
      ⟨by decide, by decide, ⟨_, rfl, rfl⟩, by decide +kernel⟩
    exact ⟨Reaches.concat_iff.mpr ⟨.nil, entered⟩, by decide, by decide, ⟨_, rfl, rfl⟩,
      by decide +kernel⟩
  · intro member
    rcases (exact _).mp member with ⟨directory, name, equal, listed⟩
    have atRoot : directory ++ [name] = [] ++ ["a.log"] :=
      pathText_injective (by simp) (by simp) listed.named (by decide) equal.symm
    rcases List.append_inj' atRoot rfl with ⟨rfl, single⟩
    rw [List.singleton_inj] at single
    subst single
    have ignored : (nestedScan.rulesAt []).isIgnored (pathText ([] ++ ["a.log"])) false = true := by
      decide +kernel
    rw [listed.kept] at ignored
    cases ignored

end ImportAtlas.Scan
