import ImportAtlas.Proofs.Distinct
import ImportAtlas.Proofs.Path.FileOrder
import ImportAtlas.Proofs.Project.Reach

/-! # What a walk finds

A walk lists a file if it reaches its directory and the rules in force there do not ignore the
file. What the visit of a directory finds is described for every directory, by induction on the
tree below it; the invariant is the state in which the walk arrives there. Main statement: the
walk from the root finds exactly the files that it should, each of them once.
-/

namespace ImportAtlas.Scan

open Ignore

variable {scan : Scan} {tree : Entry}

/-! ## Files that are listed -/

/-- A file is listed if it is a regular file in a directory that is reached, and is neither Git's
own nor ignored by the rules in force in the directory. -/
structure Lists (scan : Scan) (directory : List String) (name : String) : Prop where
  reached : scan.Reaches directory
  isName : IsName name
  outsideGit : name ≠ gitDirectory
  isFile : ∃ entry, scan.system.entryAt false (scan.place (directory ++ [name])) = .ok entry ∧
    entry.isFile = true
  kept : (scan.rulesAt directory).isIgnored (pathText (directory ++ [name])) false = false

theorem Lists.named {directory : List String} {name : String} (listed : scan.Lists directory name) :
    ∀ part ∈ directory ++ [name], IsName part :=
  listed.isName.concat listed.reached.named

/-- All directories from the root down to one can be listed. -/
def Opens (scan : Scan) (directory : List String) : Prop :=
  ∀ above, above <+: directory → scan.IsOpen above

theorem Opens.nil (isOpen : scan.IsOpen []) : scan.Opens [] := by
  intro above before
  rw [List.prefix_nil.mp before]
  exact isOpen

theorem Opens.concat {above : List String} {child : String} (opened : scan.Opens above)
    (isOpen : scan.IsOpen (above ++ [child])) : scan.Opens (above ++ [child]) := by
  intro upper before
  rcases List.prefix_concat_iff.mp before with equal | inAbove
  · rw [equal]
    exact isOpen
  · exact opened upper inAbove

def Yields (scan : Scan) (names : List String) (record : FileRecord) : Prop :=
  ∃ directory name, names <+: directory ∧ scan.Opens directory ∧ scan.Lists directory name ∧
    record = .ofPath (pathText (directory ++ [name]))

def RecordPrecedes (left right : FileRecord) : Prop :=
  Precedes (Path.components left.path) (Path.components right.path)

structure IsFoundBelow (scan : Scan) (names : List String) (found : Found) : Prop where
  mem_iff : ∀ record, record ∈ found.records ↔ scan.Yields names record
  ordered : found.records.Pairwise RecordPrecedes

theorem Lists.components {directory : List String} {name : String}
    (listed : scan.Lists directory name) :
    Path.components (FileRecord.ofPath (pathText (directory ++ [name]))).path =
      directory ++ [name] :=
  components_pathText (by simp) listed.named

/-! ## The parts of a visit -/

def isEntered (names : List String) (rules : Rules) (member : Member) : Bool :=
  member.name ≠ gitDirectory && !rules.isIgnored (pathText (names ++ [member.name])) true

private theorem outcome_keptDirectories (names : List String) (rules : Rules)
    (members : List Member) :
    (scan.keptDirectories names rules members).outcome =
      .ok (members.filter (isEntered names rules)) := by
  induction members with
  | nil => rfl
  | cons member rest induction =>
      unfold keptDirectories
      by_cases isGit : member.name = gitDirectory
      · simp [isGit, isEntered, induction]
      · by_cases ignored : rules.isIgnored (pathText (names ++ [member.name])) true = true
        · simp [isGit, ignored, isEntered, induction, Except.bind]
        · simp [isGit, ignored, isEntered, induction, Except.bind]

def isRecorded (scan : Scan) (names : List String) (rules : Rules) (member : Member) : Bool :=
  match scan.system.entryAt false (scan.place (names ++ [member.name])) with
  | .error _ => false
  | .ok entry =>
      entry.isFile && !(names ++ [member.name]).contains gitDirectory &&
        !rules.isIgnored (pathText (names ++ [member.name])) false

private theorem outcome_fileRecords (names : List String) (rules : Rules) (members : List Member) :
    (scan.fileRecords names rules members).outcome =
      .ok ((members.filter (scan.isRecorded names rules)).map fun member =>
        .ofPath (pathText (names ++ [member.name]))) := by
  have single : ∀ member, (scan.record? names rules member).outcome =
      .ok (if scan.isRecorded names rules member then
        some (.ofPath (pathText (names ++ [member.name]))) else none) := by
    intro member
    unfold record? isRecorded
    cases found : scan.system.entryAt false (scan.place (names ++ [member.name])) with
    | error cause => simp [found, Except.bind]
    | ok entry =>
        simp only [found]
        by_cases isFile : entry.isFile = true <;>
          by_cases isGit : (names ++ [member.name]).contains gitDirectory = true <;>
          by_cases ignored : rules.isIgnored (pathText (names ++ [member.name])) false = true <;>
          simp_all
  induction members with
  | nil => rfl
  | cons member rest induction =>
      unfold fileRecords
      rw [Reported.outcome_bind, single, Except.bind, Reported.outcome_bind, induction]
      by_cases listed : scan.isRecorded names rules member = true <;> simp [listed, Except.bind]

theorem visits_eq_map (members : List (String × Entry)) :
    scan.visits members = members.map fun member => ⟨member.1, member.2, scan.visit member.2⟩ := by
  induction members with
  | nil => simp [visits]
  | cons member rest induction => simp [visits, induction]

/-! ## Below some members -/

private theorem Yields.of_child {names : List String} {child : String} {record : FileRecord}
    (given : scan.Yields (names ++ [child]) record) : scan.Yields names record := by
  rcases given with ⟨directory, name, below, opened, listed, equal⟩
  exact ⟨directory, name, (List.prefix_append names [child]).trans below, opened, listed, equal⟩

theorem Yields.components {names : List String} {record : FileRecord}
    (given : scan.Yields names record) :
    ∃ rest name, Path.components record.path = names ++ (rest ++ [name]) := by
  rcases given with ⟨directory, name, ⟨rest, rfl⟩, _, listed, rfl⟩
  exact ⟨rest, name, listed.components.trans (List.append_assoc names rest [name])⟩

private theorem Yields.precedes_of_lt {names : List String} {left right : String}
    {first second : FileRecord} (less : left < right)
    (fromLeft : scan.Yields (names ++ [left]) first)
    (fromRight : scan.Yields (names ++ [right]) second) : RecordPrecedes first second := by
  rcases fromLeft.components with ⟨leftRest, leftName, leftPath⟩
  rcases fromRight.components with ⟨rightRest, rightName, rightPath⟩
  rw [RecordPrecedes, leftPath, rightPath, List.append_assoc, List.append_assoc]
  apply Precedes.append_left
  rw [List.singleton_append, List.singleton_append]
  cases leftRest <;> cases rightRest <;> exact .directories less _ _ _ _

theorem Lists.precedes {names : List String} {name child : String} {record : FileRecord}
    (listed : scan.Lists names name) (below : scan.Yields (names ++ [child]) record) :
    RecordPrecedes (.ofPath (pathText (names ++ [name]))) record := by
  rcases below.components with ⟨rest, last, path⟩
  rw [RecordPrecedes, listed.components, path, List.append_assoc]
  apply Precedes.append_left
  cases rest <;> exact .fileFirst _ _ _ _

private theorem found_of_visitAll {names : List String} {rules : Rules} {members : List Member}
    (each : ∀ member ∈ members, ∀ part,
      (member.visit (names ++ [member.name]) rules).outcome = .ok part →
        scan.IsFoundBelow (names ++ [member.name]) part)
    (sorted : members.Pairwise fun left right => left.name < right.name) {found : Found}
    (visited : (visitAll names rules members).outcome = .ok found) :
    (∀ record, record ∈ found.records ↔
      ∃ member ∈ members, scan.Yields (names ++ [member.name]) record) ∧
    found.records.Pairwise RecordPrecedes := by
  induction members generalizing found with
  | nil =>
      rw [visitAll, Reported.outcome_pure, Except.ok.injEq] at visited
      simp [← visited, Found.nothing]
  | cons member rest induction =>
      rcases Reported.outcome_bind_eq_ok_iff.mp visited with ⟨first, memberVisited, others⟩
      rcases Reported.outcome_bind_eq_ok_iff.mp others with ⟨further, restVisited, appended⟩
      rw [Reported.outcome_pure, Except.ok.injEq] at appended
      rw [List.pairwise_cons] at sorted
      rcases List.forall_mem_cons.mp each with ⟨eachFirst, eachRest⟩
      have firstFound := eachFirst first memberVisited
      rcases induction eachRest sorted.2 restVisited with ⟨restMem, restOrdered⟩
      rw [← appended, Found.append]
      constructor
      · intro record
        rw [List.mem_append, firstFound.mem_iff, restMem, List.exists_mem_cons_iff]
      · rw [List.pairwise_append]
        refine ⟨firstFound.ordered, restOrdered, ?_⟩
        intro left inFirst right inRest
        rcases (restMem right).mp inRest with ⟨other, isOther, fromOther⟩
        exact Yields.precedes_of_lt (sorted.1 other isOther) ((firstFound.mem_iff left).mp inFirst)
          fromOther

/-! ## Arriving at an entry -/

/-- The state in which a walk arrives at an entry of the tree: it comes with the rules of the
directories above, which it could list, and if the entry is a directory that it can list, it is
right to be there. -/
structure Arrives (scan : Scan) (tree : Entry) (names : List String) (rules : Rules)
    (entry : Entry) : Prop where
  found : tree.at? names = some entry
  named : ∀ name ∈ names, IsName name
  rules_eq : rules = .ofLayers (scan.layersAbove names)
  opened : ∀ above, above <+: names → above ≠ names → scan.IsOpen above
  reached : entry.isDirectory = true → scan.IsOpen names → scan.Reaches names

namespace Arrives

theorem root (isRoot : scan.IsRoot tree) :
    scan.Arrives tree [] (.ofLayers scan.rootLayers) tree where
  found := by cases tree <;> rfl
  named := by simp
  rules_eq := by rw [layersAbove_nil]
  opened := by
    intro above before different
    exact absurd (List.prefix_nil.mp before) different
  reached := fun _ _ => Reaches.nil

variable {names : List String} {rules : Rules} {permission : Permission}
  {members : List (String × Entry)}

theorem members_proper (isRoot : scan.IsRoot tree)
    (arrived : scan.Arrives tree names rules (.directory permission members)) :
    (members.map Prod.fst).Nodup ∧ ∀ member ∈ members, IsName member.1 := by
  have proper := Entry.isProper_of_at? isRoot.proper arrived.found
  rcases Entry.isProper_directory_iff.mp proper with ⟨distinct, each⟩
  exact ⟨distinct, fun member inMembers => (each member inMembers).1⟩

theorem opens (arrived : scan.Arrives tree names rules (.directory permission members))
    (isOpen : scan.IsOpen names) : scan.Opens names := by
  intro above before
  by_cases equal : above = names
  · rw [equal]
    exact isOpen
  · exact arrived.opened above before equal

theorem child (isRoot : scan.IsRoot tree)
    (arrived : scan.Arrives tree names rules (.directory permission members))
    (isOpen : scan.IsOpen names) {member : String × Entry} (inMembers : member ∈ members)
    (outsideGit : member.1 ≠ gitDirectory)
    (kept : (scan.rulesAt names).isIgnored (pathText (names ++ [member.1])) true = false) :
    scan.Arrives tree (names ++ [member.1]) (.ofLayers (scan.layersAt names)) member.2 := by
  rcases arrived.members_proper isRoot with ⟨distinct, eachNamed⟩
  have isName := eachNamed member inMembers
  have present := Keyed.get?_of_mem distinct inMembers
  refine ⟨?_, isName.concat arrived.named, ?_, ?_, ?_⟩
  · rw [Entry.at?_concat arrived.found, present]
  · rw [layersAbove_concat]
  · intro above before different
    rcases List.prefix_concat_iff.mp before with equal | inNames
    · exact absurd equal different
    · exact arrived.opens isOpen above inNames
  · intro isDirectory memberOpen
    refine Reaches.concat_iff.mpr ⟨arrived.reached rfl isOpen, isName, outsideGit, ?_, kept⟩
    exact ⟨member.2, isRoot.entryAt_of_isOpen arrived.found arrived.named isName present memberOpen,
      isDirectory⟩

end Arrives

/-! ## The visit of a directory -/

section Directory

variable {names : List String} {rules : Rules} {permission : Permission}
  {members : List (String × Entry)}

def sortedMembers (scan : Scan) (members : List (String × Entry)) : List Member :=
  (scan.visits members).mergeSort fun left right => left.name ≤ right.name

theorem mem_sortedMembers {member : Member} :
    member ∈ scan.sortedMembers members ↔
      ∃ inner ∈ members, ⟨inner.1, inner.2, scan.visit inner.2⟩ = member := by
  rw [sortedMembers, List.mem_mergeSort, visits_eq_map, List.mem_map]

theorem pairwise_sortedMembers (distinct : (members.map Prod.fst).Nodup) :
    (scan.sortedMembers members).Pairwise fun left right => left.name < right.name := by
  apply Distinct.pairwise_lt_mergeSort
  rw [visits_eq_map, List.map_map]
  exact distinct

private theorem exists_iff_lists (isRoot : scan.IsRoot tree)
    (arrived : scan.Arrives tree names rules (.directory permission members))
    (isOpen : scan.IsOpen names) {name : String} :
    (∃ member ∈ scan.sortedMembers members, member.name = name ∧
      scan.leadsToDirectory names member = false ∧
      scan.isRecorded names (.ofLayers (scan.layersAt names)) member = true) ↔
      scan.Lists names name := by
  rcases arrived.members_proper isRoot with ⟨distinct, eachNamed⟩
  constructor
  · rintro ⟨member, inSorted, rfl, _, listed⟩
    rcases mem_sortedMembers.mp inSorted with ⟨inner, inMembers, rfl⟩
    unfold isRecorded at listed
    split at listed
    · cases listed
    · rename_i entry found
      simp only [Bool.and_eq_true, Bool.not_eq_true', isIgnored_ofLayersAt] at listed
      rcases listed with ⟨⟨isFile, noGit⟩, kept⟩
      refine ⟨arrived.reached rfl isOpen, eachNamed inner inMembers, ?_, ⟨entry, found, isFile⟩,
        kept⟩
      intro isGit
      simp only [List.contains_eq_mem, List.mem_append, List.mem_singleton, decide_eq_false_iff_not,
        not_or] at noGit
      exact noGit.2 isGit.symm
  · intro listed
    rcases listed.isFile with ⟨entry, found, isFile⟩
    have present := isRoot.get?_of_entryAt arrived.found arrived.named listed.isName found
    refine ⟨⟨name, entry, scan.visit entry⟩,
      mem_sortedMembers.mpr ⟨(name, entry), Keyed.mem_of_get? present, rfl⟩, rfl, ?_, ?_⟩
    · cases entry with
      | file => rfl
      | _ => simp [Entry.isFile] at isFile
    · have noGit : gitDirectory ∉ names ++ [name] := by
        intro inPath
        rcases List.mem_append.mp inPath with above | last
        · rcases List.append_of_mem above with ⟨front, back, equal⟩
          exact (listed.reached front gitDirectory ⟨back, by simp [equal]⟩).outsideGit rfl
        · exact listed.outsideGit (List.mem_singleton.mp last).symm
      simp [isRecorded, found, isFile, noGit, isIgnored_ofLayersAt, listed.kept]

/-! ### Files -/

def ownRecords (scan : Scan) (names : List String) (members : List (String × Entry)) :
    List FileRecord :=
  (((scan.sortedMembers members).filter fun member =>
    !scan.leadsToDirectory names member).filter
      (scan.isRecorded names (.ofLayers (scan.layersAt names)))).map fun member =>
        .ofPath (pathText (names ++ [member.name]))

theorem mem_ownRecords_iff (isRoot : scan.IsRoot tree)
    (arrived : scan.Arrives tree names rules (.directory permission members))
    (isOpen : scan.IsOpen names) {record : FileRecord} :
    record ∈ scan.ownRecords names members ↔
      ∃ name, scan.Lists names name ∧ record = .ofPath (pathText (names ++ [name])) := by
  rw [ownRecords, List.mem_map]
  constructor
  · rintro ⟨member, inFilter, rfl⟩
    simp only [List.mem_filter, Bool.not_eq_true'] at inFilter
    exact ⟨member.name, (exists_iff_lists isRoot arrived isOpen).mp
      ⟨member, inFilter.1.1, rfl, inFilter.1.2, inFilter.2⟩, rfl⟩
  · rintro ⟨name, listed, rfl⟩
    rcases (exists_iff_lists isRoot arrived isOpen).mpr listed with
      ⟨member, inSorted, rfl, noDirectory, recorded⟩
    refine ⟨member, ?_, rfl⟩
    simp only [List.mem_filter, Bool.not_eq_true']
    exact ⟨⟨inSorted, noDirectory⟩, recorded⟩

theorem pairwise_ownRecords (isRoot : scan.IsRoot tree)
    (arrived : scan.Arrives tree names rules (.directory permission members)) :
    (scan.ownRecords names members).Pairwise RecordPrecedes := by
  rcases arrived.members_proper isRoot with ⟨distinct, eachNamed⟩
  have components : ∀ member ∈ scan.sortedMembers members,
      Path.components (pathText (names ++ [member.name])) = names ++ [member.name] := by
    intro member inSorted
    rcases mem_sortedMembers.mp inSorted with ⟨inner, inMembers, rfl⟩
    exact components_pathText (by simp) ((eachNamed inner inMembers).concat arrived.named)
  rw [ownRecords, List.pairwise_map]
  refine (((pairwise_sortedMembers distinct).filter _).filter _).imp_of_mem ?_
  intro left right inLeft inRight less
  have leftSorted := (List.mem_filter.mp (List.mem_filter.mp inLeft).1).1
  have rightSorted := (List.mem_filter.mp (List.mem_filter.mp inRight).1).1
  have before := Precedes.append_left names (.files less)
  rw [← components left leftSorted, ← components right rightSorted] at before
  exact before

/-! ### Directories -/

def keptMembers (scan : Scan) (names : List String) (members : List (String × Entry)) :
    List Member :=
  ((scan.sortedMembers members).filter (scan.leadsToDirectory names)).filter
    (isEntered names (.ofLayers (scan.layersAt names)))

theorem pairwise_keptMembers (distinct : (members.map Prod.fst).Nodup) :
    (scan.keptMembers names members).Pairwise fun left right => left.name < right.name :=
  ((pairwise_sortedMembers distinct).filter _).filter _

theorem arrives_of_mem_keptMembers (isRoot : scan.IsRoot tree)
    (arrived : scan.Arrives tree names rules (.directory permission members))
    (isOpen : scan.IsOpen names) {member : Member}
    (isKept : member ∈ scan.keptMembers names members) :
    ∃ inner ∈ members, member = ⟨inner.1, inner.2, scan.visit inner.2⟩ ∧
      scan.Arrives tree (names ++ [inner.1]) (.ofLayers (scan.layersAt names)) inner.2 := by
  rcases List.mem_filter.mp isKept with ⟨inFilter, entered⟩
  rcases mem_sortedMembers.mp (List.mem_filter.mp inFilter).1 with ⟨inner, inMembers, rfl⟩
  simp only [isEntered, isIgnored_ofLayersAt, Bool.and_eq_true, decide_eq_true_eq,
    Bool.not_eq_true'] at entered
  exact ⟨inner, inMembers, rfl, arrived.child isRoot isOpen inMembers entered.1 entered.2⟩

theorem exists_of_enters (isRoot : scan.IsRoot tree)
    (arrived : scan.Arrives tree names rules (.directory permission members)) {child : String}
    (entered : scan.Enters names child) :
    ∃ member ∈ scan.keptMembers names members, member.name = child := by
  rcases entered.isDirectory with ⟨entry, found, isDirectory⟩
  have present := isRoot.get?_of_entryAt arrived.found arrived.named entered.isName found
  refine ⟨⟨child, entry, scan.visit entry⟩, ?_, rfl⟩
  rw [keptMembers, List.mem_filter, List.mem_filter]
  refine ⟨⟨mem_sortedMembers.mpr ⟨(child, entry), Keyed.mem_of_get? present, rfl⟩, ?_⟩, ?_⟩
  · cases entry with
    | directory => rfl
    | _ => simp [Entry.isDirectory] at isDirectory
  · simp [isEntered, entered.outsideGit, isIgnored_ofLayersAt, entered.kept]

/-! ### Both together -/

private theorem yields_iff (isRoot : scan.IsRoot tree)
    (arrived : scan.Arrives tree names rules (.directory permission members))
    (isOpen : scan.IsOpen names) {record : FileRecord} :
    scan.Yields names record ↔ record ∈ scan.ownRecords names members ∨
      ∃ member ∈ scan.keptMembers names members, scan.Yields (names ++ [member.name]) record := by
  rw [mem_ownRecords_iff isRoot arrived isOpen]
  constructor
  · rintro ⟨directory, name, ⟨rest, rfl⟩, opened, isListed, rfl⟩
    cases rest with
    | nil =>
        rw [List.append_nil] at isListed ⊢
        exact Or.inl ⟨name, isListed, rfl⟩
    | cons child rest =>
        have isPrefix : names ++ [child] <+: names ++ child :: rest := ⟨rest, by simp⟩
        rcases exists_of_enters isRoot arrived (isListed.reached names child isPrefix) with
          ⟨member, isKept, rfl⟩
        exact Or.inr ⟨member, isKept, _, name, isPrefix, opened, isListed, rfl⟩
  · rintro (⟨name, isListed, rfl⟩ | ⟨member, _, yielded⟩)
    · exact ⟨names, name, List.prefix_refl names, arrived.opens isOpen, isListed, rfl⟩
    · exact yielded.of_child

theorem outcome_visitDirectory_of_refused {cause : Cause}
    (unlisted : scan.system.list (scan.place names) = .error cause) :
    (scan.visitDirectory (scan.visits members) names rules).outcome = .ok ⟨[], 1⟩ := by
  unfold visitDirectory
  simp only [unlisted, Reported.outcome_bind, Reported.outcome_report, Except.bind,
    Reported.outcome_pure]

/-- The visit of a directory that can be listed puts the rules together; then it finds the files and
what the visits of the members find that it enters. -/
theorem outcome_visitDirectory
    (arrived : scan.Arrives tree names rules (.directory permission members))
    (isOpen : scan.IsOpen names) :
    (scan.visitDirectory (scan.visits members) names rules).outcome =
      (scan.directoryRules names rules scan.ignoreFiles).outcome.bind fun _ =>
        (visitAll names (.ofLayers (scan.layersAt names))
          (scan.keptMembers names members)).outcome.map
            fun below => ⟨scan.ownRecords names members ++ below.records, below.errors⟩ := by
  rcases isOpen with ⟨listing, listed⟩
  unfold visitDirectory
  simp only [listed, Reported.outcome_bind]
  cases given : (scan.directoryRules names rules scan.ignoreFiles).outcome with
  | error failure => rfl
  | ok own =>
      rw [arrived.rules_eq] at given
      have inForce : own = .ofLayers (scan.layersAt names) := by
        rw [eq_of_directoryRules given, layersAt_eq]
        rfl
      simp only [Except.bind, outcome_keptDirectories, outcome_fileRecords, inForce]
      rfl

/-- A visit finds nothing in a directory that cannot be listed. In another one it puts the rules
together, and finds the files and what the visits of the members find that it enters. -/
theorem visitDirectory_cases
    (arrived : scan.Arrives tree names rules (.directory permission members)) {found : Found}
    (visited : (scan.visitDirectory (scan.visits members) names rules).outcome = .ok found) :
    (¬scan.IsOpen names ∧ found.records = []) ∨
      (scan.IsOpen names ∧
        (∃ own, (scan.directoryRules names rules scan.ignoreFiles).outcome = .ok own) ∧
        ∃ below, (visitAll names (.ofLayers (scan.layersAt names))
            (scan.keptMembers names members)).outcome = .ok below ∧
          found.records = scan.ownRecords names members ++ below.records) := by
  cases listed : scan.system.list (scan.place names) with
  | error cause =>
      rw [outcome_visitDirectory_of_refused listed, Except.ok.injEq] at visited
      refine Or.inl ⟨?_, by rw [← visited]⟩
      rintro ⟨listing, isOpen⟩
      rw [listed] at isOpen
      cases isOpen
  | ok listing =>
      rw [outcome_visitDirectory arrived ⟨listing, listed⟩] at visited
      cases given : (scan.directoryRules names rules scan.ignoreFiles).outcome with
      | error failure =>
          rw [given] at visited
          cases visited
      | ok own =>
          rw [given] at visited
          cases belowVisited : (visitAll names (.ofLayers (scan.layersAt names))
              (scan.keptMembers names members)).outcome with
          | error failure =>
              rw [belowVisited] at visited
              cases visited
          | ok below =>
              rw [belowVisited] at visited
              refine Or.inr ⟨⟨listing, listed⟩, ⟨own, rfl⟩, below, rfl, ?_⟩
              rw [← Except.ok.inj visited]

private theorem found_of_visitDirectory (isRoot : scan.IsRoot tree)
    (arrived : scan.Arrives tree names rules (.directory permission members))
    (each : ∀ member ∈ members, ∀ names rules found, scan.Arrives tree names rules member.2 →
      (scan.visit member.2 names rules).outcome = .ok found → scan.IsFoundBelow names found)
    {found : Found}
    (visited : (scan.visitDirectory (scan.visits members) names rules).outcome = .ok found) :
    scan.IsFoundBelow names found := by
  rcases visitDirectory_cases arrived visited with
    ⟨closed, nothing⟩ | ⟨isOpen, _, below, belowVisited, together⟩
  · have noneBelow : ∀ record, ¬scan.Yields names record := by
      rintro record ⟨directory, _, inDirectory, opened, _⟩
      exact closed (opened names inDirectory)
    constructor
    · intro record
      simp [nothing, noneBelow record]
    · rw [nothing]
      exact List.Pairwise.nil
  · have eachKept : ∀ member ∈ scan.keptMembers names members, ∀ part,
        (member.visit (names ++ [member.name]) (.ofLayers (scan.layersAt names))).outcome =
          .ok part → scan.IsFoundBelow (names ++ [member.name]) part := by
      intro member isKept part memberVisited
      rcases arrives_of_mem_keptMembers isRoot arrived isOpen isKept with
        ⟨inner, inMembers, rfl, childArrived⟩
      exact each inner inMembers _ _ part childArrived memberVisited
    rcases found_of_visitAll eachKept (pairwise_keptMembers (arrived.members_proper isRoot).1)
        belowVisited with ⟨belowMem, belowOrdered⟩
    constructor
    · intro record
      rw [together, List.mem_append, belowMem, yields_iff isRoot arrived isOpen]
    · rw [together, List.pairwise_append]
      refine ⟨pairwise_ownRecords isRoot arrived, belowOrdered, ?_⟩
      intro left inFiles right inBelow
      rcases (mem_ownRecords_iff isRoot arrived isOpen).mp inFiles with ⟨name, isListed, rfl⟩
      rcases (belowMem right).mp inBelow with ⟨member, _, yielded⟩
      exact isListed.precedes yielded

end Directory

/-! ## The whole walk -/

private theorem found_of_visit (isRoot : scan.IsRoot tree) (entry : Entry) :
    ∀ names rules found, scan.Arrives tree names rules entry →
      (scan.visit entry names rules).outcome = .ok found → scan.IsFoundBelow names found := by
  induction entry using Entry.induct with
  | leaf entry notDirectory =>
      intro names rules found arrived visited
      have nothing : found = .nothing := by
        cases entry with
        | directory => cases notDirectory
        | _ => simpa [visit, eq_comm] using visited
      subst nothing
      refine ⟨fun record => ?_, List.Pairwise.nil⟩
      constructor
      · intro member
        cases member
      · rintro ⟨directory, _, below, _, listed, _⟩
        rcases isRoot.at?_of_reaches (listed.reached.of_prefix below) with ⟨_, _, atNames⟩
        rw [arrived.found, Option.some.injEq] at atNames
        rw [atNames] at notDirectory
        cases notDirectory
  | directory permission members induction =>
      intro names rules found arrived visited
      rw [visit] at visited
      exact found_of_visitDirectory isRoot arrived induction visited

theorem outcome_run_eq (scan : Scan) : scan.run.outcome =
    (validateRoot scan.system scan.root).bind fun _ => scan.rootRules.outcome.bind fun rules =>
      match scan.system.entryAt true scan.root with
      | .error cause => .error (.system ⟨cause, scan.root.text⟩)
      | .ok entry => (scan.visit entry [] rules).outcome := by
  unfold run
  rw [Reported.outcome_bind, Reported.outcome_ofExcept]
  refine congrArg _ (funext fun _ => ?_)
  rw [Reported.outcome_bind]
  refine congrArg _ (funext fun rules => ?_)
  cases scan.system.entryAt true scan.root with
  | error cause => rfl
  | ok entry =>
      simp only [Reported.outcome_bind, Reported.outcome_report, Reported.outcome_pure, Except.bind]
      cases (scan.visit entry [] rules).outcome <;> rfl

theorem isRoot_of_validateRoot (proper : scan.system.top.isProper = true)
    (valid : validateRoot scan.system scan.root = .ok ()) : ∃ tree, scan.IsRoot tree := by
  unfold validateRoot at valid
  split at valid
  · cases valid
  · cases valid
  · split at valid
    · cases valid
    · cases valid
    · rename_i isDirectory
      rcases FileSystem.entryAt_of_test isDirectory with ⟨tree, found, treeIsDirectory⟩
      rcases FileSystem.follow_of_entryAt found with ⟨_, trail, atTrail, _⟩
      exact ⟨tree, found, treeIsDirectory, Entry.isProper_of_at? proper atTrail⟩

theorem visit_of_run (proper : scan.system.top.isProper = true) {found : Found}
    (succeeded : scan.run.outcome = .ok found) : ∃ tree, scan.IsRoot tree ∧
      (scan.visit tree [] (.ofLayers scan.rootLayers)).outcome = .ok found := by
  rcases Reported.outcome_bind_eq_ok_iff.mp succeeded with ⟨_, valid, afterRoot⟩
  rcases isRoot_of_validateRoot proper valid with ⟨tree, isRoot⟩
  rcases Reported.outcome_bind_eq_ok_iff.mp afterRoot with ⟨rules, given, afterRules⟩
  simp only [isRoot.found] at afterRules
  rcases Reported.outcome_bind_eq_ok_iff.mp afterRules with ⟨result, visited, reported⟩
  have same : result = found := by simpa [Except.bind] using reported
  rw [eq_of_rootRules given] at visited
  exact ⟨tree, isRoot, same ▸ visited⟩

theorem found_of_run (proper : scan.system.top.isProper = true) {found : Found}
    (succeeded : scan.run.outcome = .ok found) : scan.IsFoundBelow [] found := by
  rcases visit_of_run proper succeeded with ⟨tree, isRoot, visited⟩
  exact found_of_visit isRoot tree [] _ found (.root isRoot) visited

end ImportAtlas.Scan
