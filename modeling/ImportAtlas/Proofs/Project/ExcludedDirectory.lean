import ImportAtlas.Proofs.FileSystem.Naming
import ImportAtlas.Proofs.Path.Lexical
import ImportAtlas.Proofs.Project.LockedDirectories
import ImportAtlas.Proofs.Project.MovedWalk

/-! # Walks past an excluded directory

What lies in a directory that the walk leaves out is not listed and not read, with one exception:
an ignore file elsewhere that is a link may lead there, and asking what it leads to may fail. The
walk is compared with the same walk in a file system that differs only inside the directory: it
comes to the same if these links are refused alike, and the files that it lists have the same
contents.
-/

namespace ImportAtlas

/-- Asking for a regular file at a place is refused in both file systems for the same cause, or in
neither. -/
def FileSystem.RefusesAlike (system other : FileSystem) (place : Location) : Prop :=
  (other.isFile? place).map (fun _ => ()) = (system.isFile? place).map fun _ => ()

private theorem FileSystem.RefusesAlike.map_eq {system other : FileSystem} {place : Location}
    (alike : system.RefusesAlike other place) {α : Type} (value : α) :
    (other.isFile? place).map (fun _ => value) = (system.isFile? place).map fun _ => value := by
  unfold RefusesAlike at alike
  cases answer : system.isFile? place <;> cases own : other.isFile? place <;>
    simp_all [Except.map]

namespace Scan

open Ignore

/-- The file system of a walk and another one are the same, except strictly inside a directory that
the walk leaves out. Neither the root nor the file of Git's own patterns depends on what is in
it. -/
structure SameButExcluded (scan : Scan) (other : FileSystem) (top : Trail) (directory : List String)
    (name : String) : Prop where
  proper : scan.system.top.isProper = true
  properOther : other.top.isProper = true
  rooted : scan.system.trailOf true scan.root = .ok top
  rootedOther : other.trailOf true scan.root = .ok top
  same : scan.system.SameOutside (top ++ (directory ++ [name])) other
  excluded : name = gitDirectory ∨
    (scan.rulesAt directory).isIgnored (pathText (directory ++ [name])) true = true
  undivided : ∀ file ∈ scan.ignoreFiles, file.IsUndivided
  excludeFile : other.isFile? scan.excludePlace = scan.system.isFile? scan.excludePlace
  excludeLines : scan.system.isFile? scan.excludePlace = .ok true →
    other.readLines scan.excludePlace = scan.system.readLines scan.excludePlace

/-- The links among the ignore files that the walk comes to are refused in another file system for
the causes for which they are refused in this one. -/
def LinksAlike (scan : Scan) (other : FileSystem) : Prop :=
  ∀ names, scan.Reaches names → scan.Opens names → ∀ file ∈ scan.ignoreFiles,
    scan.system.isLink? ((scan.place names).append file) = .ok true →
      scan.system.RefusesAlike other ((scan.place names).append file)

/-- The links among the ignore files that the walk comes to are not refused in another file
system. -/
def LinksAnswer (scan : Scan) (other : FileSystem) : Prop :=
  ∀ names, scan.Reaches names → scan.Opens names → ∀ file ∈ scan.ignoreFiles,
    scan.system.isLink? ((scan.place names).append file) = .ok true →
      ∃ answer, other.isFile? ((scan.place names).append file) = .ok answer

/-! ## Lookups past the directory -/

variable {scan : Scan} {other : FileSystem} {top : Trail} {directory : List String} {name : String}

theorem child_pathText {names : List String} (nonempty : names ≠ [])
    (named : ∀ part ∈ names, IsName part) :
    scan.root.child (pathText names) = scan.place names := by
  simp [Location.child, Location.append, ofText_pathText nonempty named, Location.isAbsolute, place]

private theorem append_undivided {names : List String} {file : Location}
    (undivided : file.IsUndivided) :
    (scan.place names).append file = scan.place names ∨
      ∃ child, (scan.place names).append file = scan.place (names ++ [child]) := by
  rcases file with ⟨anchor, parts⟩
  obtain ⟨rfl, short⟩ : anchor = "" ∧ parts.length ≤ 1 := undivided
  cases parts with
  | nil => exact Or.inl (by simp [Location.append, Location.isAbsolute])
  | cons child rest =>
      obtain rfl : rest = [] := List.eq_nil_of_length_eq_zero (by simpa using short)
      exact Or.inr ⟨child, append_place names child⟩

private theorem outcome_ignoreFileRules_of_isLink {names : List String} (rules : Rules)
    {file : Location}
    (isLink : scan.system.isLink? ((scan.place names).append file) = .ok true) :
    (scan.ignoreFileRules names rules file).outcome =
      ((scan.system.isFile? ((scan.place names).append file)).map fun _ => rules).mapError
        fun cause => .system ⟨cause, ((scan.place names).append file).text⟩ := by
  unfold ignoreFileRules
  cases answer : scan.system.isFile? ((scan.place names).append file) with
  | error cause =>
      simp only [answer]
      rfl
  | ok isFile =>
      cases isFile with
      | false =>
          simp only [answer]
          rfl
      | true =>
          simp only [answer, isLink]
          rfl

theorem SameButExcluded.entryAt_root (differ : scan.SameButExcluded other top directory name) :
    (other.entryAt true scan.root).map Entry.shape =
      (scan.system.entryAt true scan.root).map Entry.shape := by
  have outside : Trail.isInside (top ++ (directory ++ [name])) top = false := by
    rw [Trail.isInside_eq_false_iff]
    intro below
    exact absurd below.length_le (by simp)
  have looked : FileSystem.SameDestination (top ++ (directory ++ [name]))
      (scan.system.lookup true scan.root) (other.lookup true scan.root) := by
    rw [FileSystem.lookup_of_trailOf differ.rooted,
      FileSystem.lookup_of_trailOf differ.rootedOther]
    exact .entry outside
  exact FileSystem.entryAt_outside differ.same looked

theorem SameButExcluded.rootLayers_movedTo
    (differ : scan.SameButExcluded other top directory name) :
    (scan.movedTo other).rootLayers = scan.rootLayers := by
  unfold rootLayers layerFrom linesAt
  rw [excludePlace_movedTo, system_movedTo, ignorePatterns_movedTo, differ.excludeFile]
  by_cases isFile : scan.system.isFile? scan.excludePlace = .ok true
  · rw [differ.excludeLines isFile]
  · rw [if_neg isFile, if_neg isFile]

section Past

variable {names : List String} {permission : Permission} {members : List (String × Entry)}
  (differ : scan.SameButExcluded other top directory name)
  (named : ∀ part ∈ names, IsName part) (notBelow : ¬directory ++ [name] <+: names)
  (atNames : scan.system.top.at? (top ++ names) = some (.directory permission members))
include differ named notBelow atNames

theorem entryAt_member (child : String) (followsLast : Bool)
    (stays : followsLast = false ∨ ∀ target, Keyed.get? child members ≠ some (.link target)) :
    (other.entryAt followsLast (scan.place (names ++ [child]))).map Entry.shape =
      (scan.system.entryAt followsLast (scan.place (names ++ [child]))).map Entry.shape := by
  have notInside : ¬top ++ (directory ++ [name]) <+: top ++ names := by
    rwa [List.prefix_append_right_inj]
  exact FileSystem.entryAt_outside differ.same (FileSystem.lookup_under_outside differ.same
    differ.rooted differ.rootedOther named atNames notInside stays)

theorem entryAt_directory :
    (other.entryAt true (scan.place names)).map Entry.shape =
      (scan.system.entryAt true (scan.place names)).map Entry.shape := by
  cases names using List.reverseRecOn with
  | nil =>
      have place : scan.place [] = scan.root := by simp [Scan.place]
      rw [place]
      exact differ.entryAt_root
  | append_singleton above child =>
      rw [← List.append_assoc] at atNames
      rcases Entry.exists_of_at?_concat atNames with ⟨outer, inner, atAbove, present⟩
      refine entryAt_member differ (fun part member => named part (List.mem_append_left _ member))
        (fun below => notBelow (below.trans (List.prefix_append above [child]))) atAbove child true
        (Or.inr fun target isLink => ?_)
      rw [present] at isLink
      cases isLink

omit notBelow in
private theorem entryAt_directory_cases :
    (∃ cause, scan.system.entryAt true (scan.place names) = .error cause) ∨
      scan.system.entryAt true (scan.place names) = .ok (.directory permission members) := by
  rcases FileSystem.exists_tree_of_trailOf differ.rooted atNames with ⟨tree, found, reached⟩
  cases names using List.reverseRecOn with
  | nil =>
      have place : scan.place [] = scan.root := by simp [Scan.place]
      rw [Entry.at?, Option.some.injEq] at reached
      rw [place, found, reached]
      exact Or.inr rfl
  | append_singleton above child =>
      rcases Entry.exists_of_at?_concat reached with ⟨outer, inner, atAbove, present⟩
      rcases List.forall_mem_append.mp named with ⟨aboveNamed, childNamed⟩
      rcases FileSystem.entryAt_below found atAbove aboveNamed
          (List.forall_mem_singleton.mp childNamed) with
        ⟨cause, _, refused⟩ | ⟨absent, _⟩ | ⟨entry, isMember, _, followed⟩
      · exact Or.inl ⟨cause, refused true⟩
      · rw [present] at absent
        cases absent
      · rw [present, Option.some.injEq] at isMember
        rw [← isMember] at followed
        exact Or.inr (followed rfl)

omit named in
theorem exists_others :
    ∃ others, other.top.at? (top ++ names) = some (.directory permission others) ∧
      ∀ child, (Keyed.get? child others).map Entry.shape =
        (Keyed.get? child members).map Entry.shape := by
  have notInside : ¬top ++ (directory ++ [name]) <+: top ++ names := by
    rwa [List.prefix_append_right_inj]
  have outside := Trail.isInside_of_not_prefix notInside (List.prefix_refl _)
  rcases differ.same.exists_members outside atNames with ⟨others, atNamesOther, _, alike⟩
  exact ⟨others, atNamesOther, fun child => alike child (Trail.isInside_concat notInside child)⟩

/-! ### Ignore files -/

private theorem link_cases {child target : String}
    (isLink : Keyed.get? child members = some (.link target)) :
    (∃ cause, ∀ followsLast,
      scan.system.entryAt followsLast (scan.place (names ++ [child])) = .error cause ∧
        other.entryAt followsLast (scan.place (names ++ [child])) = .error cause) ∨
    (scan.system.entryAt false (scan.place (names ++ [child])) = .ok (.link target) ∧
      other.entryAt false (scan.place (names ++ [child])) = .ok (.link target)) := by
  rcases exists_others differ notBelow atNames with ⟨others, atNamesOther, _⟩
  rcases FileSystem.exists_tree_of_trailOf differ.rooted atNames with ⟨tree, found, reached⟩
  rcases FileSystem.exists_tree_of_trailOf differ.rootedOther atNamesOther with
    ⟨treeOther, foundOther, reachedOther⟩
  have isName : IsName child :=
    ((Entry.isProper_directory_iff.mp (Entry.isProper_of_at? differ.proper atNames)).2 _
      (Keyed.mem_of_get? isLink)).1
  have alike := entryAt_member differ named notBelow atNames child false (Or.inl rfl)
  rcases FileSystem.cases_of_map_shape alike with
    ⟨cause, refused, refusedOther⟩ | ⟨entry, own, unfollowed, unfollowedOther, sameShape⟩
  · refine Or.inl ⟨cause, fun followsLast => ?_⟩
    cases followsLast with
    | false => exact ⟨refused, refusedOther⟩
    | true =>
        exact ⟨FileSystem.entryAt_followed_of_refused found reached named isName refused,
          FileSystem.entryAt_followed_of_refused foundOther reachedOther named isName refusedOther⟩
  · rcases FileSystem.entryAt_below found reached named isName with
      ⟨_, _, refused⟩ | ⟨absent, _⟩ | ⟨member, isMember, memberFound, _⟩
    · have impossible := unfollowed.symm.trans (refused false)
      cases impossible
    · rw [isLink] at absent
      cases absent
    · rw [isLink, Option.some.injEq] at isMember
      have isEntry : Entry.link target = entry := by
        rw [isMember]
        exact Except.ok.inj (memberFound.symm.trans unfollowed)
      subst isEntry
      rw [Entry.eq_of_shape sameShape rfl] at unfollowedOther
      exact Or.inr ⟨unfollowed, unfollowedOther⟩

theorem ignoreFile_cases {file : Location} (undivided : file.IsUndivided) :
    (scan.system.isLink? ((scan.place names).append file) = .ok true ∧
      other.isLink? ((scan.place names).append file) = .ok true) ∨
    (other.isFile? ((scan.place names).append file) =
        scan.system.isFile? ((scan.place names).append file) ∧
      (scan.system.isFile? ((scan.place names).append file) = .ok true →
        other.isLink? ((scan.place names).append file) =
            scan.system.isLink? ((scan.place names).append file) ∧
          other.readLines ((scan.place names).append file) =
            scan.system.readLines ((scan.place names).append file))) := by
  rcases @append_undivided scan names file undivided with itself | ⟨child, isMember⟩
  · -- The place is that of the directory, which is no regular file.
    rw [itself]
    refine Or.inr ⟨FileSystem.test_outside Entry.isFile_shape
      (entryAt_directory differ named notBelow atNames), fun isFile => ?_⟩
    rcases FileSystem.entryAt_of_test isFile with ⟨entry, found, entryIsFile⟩
    rcases entryAt_directory_cases differ named atNames with ⟨cause, refused⟩ | directoryFound
    · rw [refused] at found
      cases found
    · rw [directoryFound, Except.ok.injEq] at found
      rw [← found] at entryIsFile
      cases entryIsFile
  · rw [isMember]
    have unfollowed := entryAt_member differ named notBelow atNames child false (Or.inl rfl)
    by_cases isLink : ∃ target, Keyed.get? child members = some (.link target)
    · rcases isLink with ⟨target, isLink⟩
      rcases link_cases differ named notBelow atNames isLink with
        ⟨cause, refused⟩ | ⟨found, foundOther⟩
      · have sameAnswer : other.isFile? (scan.place (names ++ [child])) =
            scan.system.isFile? (scan.place (names ++ [child])) := by
          simp only [FileSystem.isFile?, FileSystem.test, (refused true).1, (refused true).2]
        refine Or.inr ⟨sameAnswer, fun isFile => ?_⟩
        rcases FileSystem.entryAt_of_test isFile with ⟨entry, found, _⟩
        rw [(refused true).1] at found
        cases found
      · refine Or.inl ⟨?_, ?_⟩
        · simp [FileSystem.isLink?, FileSystem.test, found, Entry.isLink]
        · simp [FileSystem.isLink?, FileSystem.test, foundOther, Entry.isLink]
    · have followed := entryAt_member differ named notBelow atNames child true
        (Or.inr fun target equal => isLink ⟨target, equal⟩)
      refine Or.inr ⟨FileSystem.test_outside Entry.isFile_shape followed, fun _ => ⟨?_, ?_⟩⟩
      · exact FileSystem.test_outside Entry.isLink_shape unfollowed
      · rw [FileSystem.readLines, FileSystem.readLines,
          FileSystem.read_outside differ.same followed]

/-! ### Rules in force -/

private theorem fileLayers_movedTo {file : Location} (undivided : file.IsUndivided) :
    (scan.movedTo other).fileLayers names file = scan.fileLayers names file := by
  rw [fileLayers, fileLayers, place_movedTo]
  rcases ignoreFile_cases differ named notBelow atNames undivided with
    ⟨isLink, isLinkOther⟩ | ⟨sameFile, alike⟩
  · have noFile : ¬scan.HoldsFile ((scan.place names).append file) := by
      rw [HoldsFile, isLink]
      simp
    have noFileOther : ¬(scan.movedTo other).HoldsFile ((scan.place names).append file) := by
      rw [HoldsFile, system_movedTo, isLinkOther]
      simp
    rw [if_neg noFile, if_neg noFileOther]
  · by_cases held : scan.HoldsFile ((scan.place names).append file)
    · rcases alike held.1 with ⟨sameLink, sameLines⟩
      have heldOther : (scan.movedTo other).HoldsFile ((scan.place names).append file) := by
        rw [HoldsFile, system_movedTo, sameFile, sameLink]
        exact held
      rw [if_pos held, if_pos heldOther, layerFrom, layerFrom, linesAt, linesAt, system_movedTo,
        sameLines]
    · have notHeldOther : ¬(scan.movedTo other).HoldsFile ((scan.place names).append file) := by
        intro heldOther
        rw [HoldsFile, system_movedTo, sameFile] at heldOther
        rw [(alike heldOther.1).1] at heldOther
        exact held heldOther
      rw [if_neg held, if_neg notHeldOther]

theorem layersAt_movedTo : (scan.movedTo other).layersAt names = scan.layersAt names := by
  have ownSame : ∀ above ∈ names.inits, (scan.movedTo other).ownLayers above =
      scan.ownLayers above := by
    intro above isInit
    rcases (List.mem_inits above names).mp isInit with ⟨rest, rfl⟩
    rw [← List.append_assoc, Entry.at?_append, Option.bind_eq_some_iff] at atNames
    rcases atNames with ⟨entry, atAbove, atRest⟩
    rcases Entry.isDirectory_iff.mp (Entry.isDirectory_of_at? atRest rfl) with ⟨_, _, rfl⟩
    refine List.flatMap_congr fun file member => ?_
    exact fileLayers_movedTo differ
      (fun part inAbove => named part (List.mem_append_left _ inAbove))
      (fun below => notBelow (below.trans (List.prefix_append above rest))) atAbove
      (differ.undivided file member)
  rw [layersAt, layersAt, differ.rootLayers_movedTo, List.flatMap_congr ownSame]

theorem rulesAt_movedTo : (scan.movedTo other).rulesAt names = scan.rulesAt names := by
  rw [rulesAt, rulesAt, layersAt_movedTo differ named notBelow atNames]

/-- One ignore file extends the rules alike in both file systems, if as a link it is refused for the
same cause or not at all. -/
private theorem outcome_ignoreFileRules_movedTo (rules : Rules) {file : Location}
    (undivided : file.IsUndivided)
    (links : scan.system.isLink? ((scan.place names).append file) = .ok true →
      scan.system.RefusesAlike other ((scan.place names).append file)) :
    ((scan.movedTo other).ignoreFileRules names rules file).outcome =
      (scan.ignoreFileRules names rules file).outcome := by
  rcases ignoreFile_cases differ named notBelow atNames undivided with
    ⟨isLink, isLinkOther⟩ | ⟨sameFile, alike⟩
  · have unchanged := outcome_ignoreFileRules_of_isLink rules isLink
    have unchangedOther : ((scan.movedTo other).ignoreFileRules names rules file).outcome =
        ((other.isFile? ((scan.place names).append file)).map fun _ => rules).mapError
          fun cause => .system ⟨cause, ((scan.place names).append file).text⟩ :=
      outcome_ignoreFileRules_of_isLink rules isLinkOther
    rw [unchanged, unchangedOther, (links isLink).map_eq rules]
  · rw [ignoreFileRules_congr rules sameFile alike]

private theorem outcome_directoryRules_movedTo (rules : Rules) {files : List Location}
    (undivided : ∀ file ∈ files, file.IsUndivided)
    (links : ∀ file ∈ files, scan.system.isLink? ((scan.place names).append file) = .ok true →
      scan.system.RefusesAlike other ((scan.place names).append file)) :
    ((scan.movedTo other).directoryRules names rules files).outcome =
      (scan.directoryRules names rules files).outcome := by
  induction files generalizing rules with
  | nil => rfl
  | cons file rest induction =>
      rcases List.forall_mem_cons.mp undivided with ⟨fileUndivided, restUndivided⟩
      rcases List.forall_mem_cons.mp links with ⟨fileLinks, restLinks⟩
      rw [directoryRules, directoryRules, Reported.outcome_bind, Reported.outcome_bind,
        outcome_ignoreFileRules_movedTo differ named notBelow atNames rules fileUndivided fileLinks]
      cases (scan.ignoreFileRules names rules file).outcome with
      | error failure => rfl
      | ok extended => exact induction extended restUndivided restLinks

/-! ### Files and directories -/

theorem isOpen_movedTo_iff : (scan.movedTo other).IsOpen names ↔ scan.IsOpen names := by
  rw [IsOpen, IsOpen, place_movedTo, system_movedTo]
  rcases FileSystem.list_cases_outside differ.same
      (entryAt_directory differ named notBelow atNames) with
    ⟨cause, refused, refusedOther⟩ | ⟨members, others, listed, listedOther⟩
  · simp [refused, refusedOther]
  · simp [listed, listedOther]

private theorem list_movedTo_of_refused {cause : Cause}
    (refused : scan.system.list (scan.place names) = .error cause) :
    other.list (scan.place names) = .error cause := by
  rcases FileSystem.list_cases_outside differ.same
      (entryAt_directory differ named notBelow atNames) with
    ⟨own, refusedHere, refusedOther⟩ | ⟨members, others, listed, _⟩
  · rw [refusedOther, ← refusedHere, refused]
  · rw [listed] at refused
    cases refused

theorem exists_entryAt_movedTo_iff (child : String) {condition : Entry → Bool}
    (seen : ∀ entry : Entry, condition entry.shape = condition entry) :
    (∃ entry, other.entryAt false (scan.place (names ++ [child])) = .ok entry ∧
        condition entry = true) ↔
      ∃ entry, scan.system.entryAt false (scan.place (names ++ [child])) = .ok entry ∧
        condition entry = true := by
  rcases FileSystem.cases_of_map_shape
      (entryAt_member differ named notBelow atNames child false (Or.inl rfl)) with
    ⟨cause, refused, refusedOther⟩ | ⟨entry, own, found, foundOther, sameShape⟩
  · rw [refused, refusedOther]
  · rw [found, foundOther]
    have sameAnswer : condition own = condition entry := by
      rw [← seen own, sameShape, seen]
    simp [sameAnswer]

private theorem lists_movedTo_iff (reached : scan.Reaches names)
    (reachedOther : (scan.movedTo other).Reaches names) {child : String} :
    (scan.movedTo other).Lists names child ↔ scan.Lists names child := by
  have sameFile := exists_entryAt_movedTo_iff differ named notBelow atNames child Entry.isFile_shape
  have sameRules := rulesAt_movedTo differ named notBelow atNames
  constructor
  · intro listed
    have kept := listed.kept
    rw [sameRules] at kept
    exact ⟨reached, listed.isName, listed.outsideGit, sameFile.mp listed.isFile, kept⟩
  · intro listed
    have kept := listed.kept
    rw [← sameRules] at kept
    exact ⟨reachedOther, listed.isName, listed.outsideGit, sameFile.mpr listed.isFile, kept⟩

private theorem enters_movedTo {child : String} (entered : scan.Enters names child) :
    (scan.movedTo other).Enters names child := by
  refine ⟨entered.isName, entered.outsideGit, ?_, ?_⟩
  · exact (exists_entryAt_movedTo_iff differ named notBelow atNames child
      Entry.isDirectory_shape).mpr entered.isDirectory
  · rw [rulesAt_movedTo differ named notBelow atNames]
    exact entered.kept

end Past

/-! ## Walks -/

theorem IsRoot.at?_top {tree : Entry} (isRoot : scan.IsRoot tree)
    (rooted : scan.system.trailOf true scan.root = .ok top) {names : List String} {entry : Entry}
    (found : tree.at? names = some entry) : scan.system.top.at? (top ++ names) = some entry := by
  rcases FileSystem.trailOf_of_entryAt isRoot.found with ⟨trail, isTrail, present⟩
  rw [rooted, Except.ok.injEq] at isTrail
  rw [← isTrail] at present
  rw [Entry.at?_append, present, Option.bind_some, found]

namespace SameButExcluded

variable (differ : scan.SameButExcluded other top directory name) {tree : Entry}
include differ

theorem notBelow_of_reaches {names : List String} (reached : scan.Reaches names) :
    ¬directory ++ [name] <+: names := by
  intro below
  have entered := reached directory name below
  rcases differ.excluded with isGit | ignored
  · exact entered.outsideGit isGit
  · rw [entered.kept] at ignored
    cases ignored

private theorem notBelow_concat {names : List String} (notBelow : ¬directory ++ [name] <+: names)
    {child : String} (outsideGit : child ≠ gitDirectory)
    (kept : (scan.rulesAt names).isIgnored (pathText (names ++ [child])) true = false) :
    ¬directory ++ [name] <+: names ++ [child] := by
  intro below
  rcases List.prefix_concat_iff.mp below with equal | above
  · rcases List.append_inj' equal rfl with ⟨rfl, single⟩
    rw [List.singleton_inj] at single
    subst single
    rcases differ.excluded with isGit | ignored
    · exact outsideGit isGit
    · rw [kept] at ignored
      cases ignored
  · exact notBelow above

theorem exists_at?_of_reaches (isRoot : scan.IsRoot tree) {names : List String}
    (reached : scan.Reaches names) : ∃ permission members,
      scan.system.top.at? (top ++ names) = some (.directory permission members) := by
  rcases isRoot.at?_of_reaches reached with ⟨permission, members, found⟩
  exact ⟨permission, members, isRoot.at?_top differ.rooted found⟩

private theorem exists_isRoot_movedTo (isRoot : scan.IsRoot tree) :
    ∃ treeOther, (scan.movedTo other).IsRoot treeOther := by
  rcases Entry.isDirectory_iff.mp isRoot.isDirectory with ⟨permission, members, rfl⟩
  have atRoot : scan.system.top.at? (top ++ []) = some (.directory permission members) :=
    isRoot.at?_top differ.rooted rfl
  rcases exists_others differ (by simp) atRoot with ⟨others, atRootOther, _⟩
  rw [List.append_nil] at atRootOther
  refine ⟨.directory permission others, ?_, rfl,
    Entry.isProper_of_at? differ.properOther atRootOther⟩
  simp [FileSystem.entryAt, differ.rootedOther, atRootOther]

private theorem reaches_movedTo (isRoot : scan.IsRoot tree) {names : List String}
    (reached : scan.Reaches names) : (scan.movedTo other).Reaches names := by
  intro above child before
  have aboveReached := reached.of_prefix ((List.prefix_append above [child]).trans before)
  rcases differ.exists_at?_of_reaches isRoot aboveReached with ⟨permission, members, atAbove⟩
  exact enters_movedTo differ aboveReached.named (differ.notBelow_of_reaches aboveReached) atAbove
    (reached above child before)

private theorem opens_movedTo (isRoot : scan.IsRoot tree) {names : List String}
    (reached : scan.Reaches names) (opened : scan.Opens names) :
    (scan.movedTo other).Opens names := by
  intro above before
  have aboveReached := reached.of_prefix before
  rcases differ.exists_at?_of_reaches isRoot aboveReached with ⟨permission, members, atAbove⟩
  exact (isOpen_movedTo_iff differ aboveReached.named (differ.notBelow_of_reaches aboveReached)
    atAbove).mpr (opened above before)

end SameButExcluded

private theorem nothing_append (found : Found) : Found.nothing.append found = found := by
  simp [Found.nothing, Found.append]

private theorem outcome_visitAll_filter {names : List String} {rules : Rules}
    {members : List Member}
    {isBusy : Member → Bool}
    (idle : ∀ member ∈ members, isBusy member = false →
      (member.visit (names ++ [member.name]) rules).outcome = .ok .nothing) :
    (visitAll names rules (members.filter isBusy)).outcome =
      (visitAll names rules members).outcome := by
  induction members with
  | nil => rfl
  | cons member rest induction =>
      rcases List.forall_mem_cons.mp idle with ⟨first, others⟩
      by_cases busy : isBusy member = true
      · rw [List.filter_cons_of_pos busy, visitAll, visitAll, Reported.outcome_bind,
          Reported.outcome_bind]
        cases (member.visit (names ++ [member.name]) rules).outcome with
        | error failure => rfl
        | ok found =>
            simp only [Except.bind, Reported.outcome_bind, induction others]
      · rw [List.filter_cons_of_neg busy, induction others, visitAll, Reported.outcome_bind,
          first (by simpa using busy)]
        simp only [Except.bind, Reported.outcome_bind]
        cases (visitAll names rules rest).outcome with
        | error failure => rfl
        | ok found => simp [nothing_append]

private theorem outcome_visitAll_congr {names : List String} {rules : Rules}
    {left right : List Member}
    (sameNames : left.map Member.name = right.map Member.name)
    (each : ∀ first ∈ left, ∀ second ∈ right, first.name = second.name →
      (first.visit (names ++ [first.name]) rules).outcome =
        (second.visit (names ++ [second.name]) rules).outcome) :
    (visitAll names rules left).outcome = (visitAll names rules right).outcome := by
  induction left generalizing right with
  | nil =>
      rw [List.map_nil, eq_comm, List.map_eq_nil_iff] at sameNames
      rw [sameNames]
  | cons first rest induction =>
      cases right with
      | nil => cases sameNames
      | cons second others =>
          rw [List.map_cons, List.map_cons, List.cons.injEq] at sameNames
          have further := induction sameNames.2 fun member inRest other inOthers =>
            each member (List.mem_cons_of_mem first inRest) other
              (List.mem_cons_of_mem second inOthers)
          rw [visitAll, visitAll, Reported.outcome_bind, Reported.outcome_bind,
            each first List.mem_cons_self second List.mem_cons_self sameNames.1]
          cases (second.visit (names ++ [second.name]) rules).outcome with
          | error failure => rfl
          | ok found => simp only [Except.bind, Reported.outcome_bind, further]

def keptDirectoryMembers (scan : Scan) (names : List String) (members : List (String × Entry)) :
    List Member :=
  (scan.keptMembers names members).filter fun member => member.entry.isDirectory

private theorem outcome_visitAll_keptDirectoryMembers (names : List String) (rules : Rules)
    (members : List (String × Entry)) :
    (visitAll names rules (scan.keptDirectoryMembers names members)).outcome =
      (visitAll names rules (scan.keptMembers names members)).outcome := by
  apply outcome_visitAll_filter
  intro member isKept notDirectory
  rcases mem_sortedMembers.mp (List.mem_filter.mp (List.mem_filter.mp isKept).1).1 with
    ⟨inner, _, rfl⟩
  cases entry : inner.2 with
  | directory => simp [entry, Entry.isDirectory] at notDirectory
  | _ => simp [visit]

private theorem pairwise_keptDirectoryMembers {names : List String}
    {members : List (String × Entry)}
    (distinct : (members.map Prod.fst).Nodup) :
    ((scan.keptDirectoryMembers names members).map Member.name).Pairwise (· < ·) :=
  List.pairwise_map.mpr ((pairwise_keptMembers distinct).filter _)

theorem mem_map_name_keptDirectoryMembers {names : List String} {members : List (String × Entry)}
    (distinct : (members.map Prod.fst).Nodup) {child : String} :
    child ∈ (scan.keptDirectoryMembers names members).map Member.name ↔
      (∃ entry, Keyed.get? child members = some entry ∧ entry.isDirectory = true) ∧
        child ≠ gitDirectory ∧
          (scan.rulesAt names).isIgnored (pathText (names ++ [child])) true = false := by
  rw [List.mem_map]
  constructor
  · rintro ⟨member, isKept, rfl⟩
    rcases List.mem_filter.mp isKept with ⟨isKept, isDirectory⟩
    rcases List.mem_filter.mp isKept with ⟨inFilter, entered⟩
    rcases mem_sortedMembers.mp (List.mem_filter.mp inFilter).1 with ⟨inner, inMembers, rfl⟩
    simp only [isEntered, isIgnored_ofLayersAt, Bool.and_eq_true, decide_eq_true_eq,
      Bool.not_eq_true'] at entered
    exact ⟨⟨inner.2, Keyed.get?_of_mem distinct inMembers, isDirectory⟩, entered⟩
  · rintro ⟨⟨entry, present, isDirectory⟩, outsideGit, kept⟩
    refine ⟨⟨child, entry, scan.visit entry⟩, ?_, rfl⟩
    refine List.mem_filter.mpr ⟨List.mem_filter.mpr ⟨List.mem_filter.mpr ⟨?_, ?_⟩, ?_⟩, isDirectory⟩
    · exact mem_sortedMembers.mpr ⟨(child, entry), Keyed.mem_of_get? present, rfl⟩
    · rcases Entry.isDirectory_iff.mp isDirectory with ⟨_, _, rfl⟩
      rfl
    · simp [isEntered, outsideGit, isIgnored_ofLayersAt, kept]

section Directory

variable (differ : scan.SameButExcluded other top directory name) {tree treeOther : Entry}
  (isRoot : scan.IsRoot tree) (isRootOther : (scan.movedTo other).IsRoot treeOther)
  {names : List String} {rules : Rules} {permission : Permission}
  {members others : List (String × Entry)}
  (arrived : scan.Arrives tree names rules (.directory permission members))
  (arrivedOther : (scan.movedTo other).Arrives treeOther names rules (.directory permission others))
  (notBelow : ¬directory ++ [name] <+: names)
include differ isRoot isRootOther arrived arrivedOther notBelow

private theorem ownRecords_movedTo (isOpen : scan.IsOpen names) :
    (scan.movedTo other).ownRecords names others = scan.ownRecords names members := by
  have atNames := isRoot.at?_top differ.rooted arrived.found
  have isOpenOther := (isOpen_movedTo_iff differ arrived.named notBelow atNames).mpr isOpen
  have sameLists := @lists_movedTo_iff _ _ _ _ _ _ _ _ differ arrived.named notBelow atNames
    (arrived.reached rfl isOpen) (arrivedOther.reached rfl isOpenOther)
  refine eq_of_ordered (pairwise_ownRecords isRootOther arrivedOther)
    (pairwise_ownRecords isRoot arrived) fun record => ?_
  rw [mem_ownRecords_iff isRootOther arrivedOther isOpenOther,
    mem_ownRecords_iff isRoot arrived isOpen]
  simp only [sameLists]

variable (alike : ∀ child, (Keyed.get? child others).map Entry.shape =
  (Keyed.get? child members).map Entry.shape)
include alike

private theorem map_name_keptDirectoryMembers_movedTo :
    ((scan.movedTo other).keptDirectoryMembers names others).map Member.name =
      (scan.keptDirectoryMembers names members).map Member.name := by
  have distinct := (arrived.members_proper isRoot).1
  have distinctOther := (arrivedOther.members_proper isRootOther).1
  have sameRules := rulesAt_movedTo differ arrived.named notBelow
    (isRoot.at?_top differ.rooted arrived.found)
  refine Distinct.eq_of_pairwise String.lt_asymm (pairwise_keptDirectoryMembers distinctOther)
    (pairwise_keptDirectoryMembers distinct) fun child => ?_
  rw [mem_map_name_keptDirectoryMembers distinct, mem_map_name_keptDirectoryMembers distinctOther,
    sameRules]
  rw [Entry.exists_isDirectory_iff (alike child)]

variable (each : ∀ member ∈ members, ∀ own ∈ others, own.2.shape = member.2.shape →
  ∀ rules, scan.Arrives tree (names ++ [member.1]) rules member.2 →
    (scan.movedTo other).Arrives treeOther (names ++ [member.1]) rules own.2 →
    ¬directory ++ [name] <+: names ++ [member.1] →
    ((scan.movedTo other).visit own.2 (names ++ [member.1]) rules).outcome =
      (scan.visit member.2 (names ++ [member.1]) rules).outcome)
include each

private theorem outcome_visitAll_movedTo (isOpen : scan.IsOpen names) :
    (visitAll names (.ofLayers (scan.layersAt names))
        ((scan.movedTo other).keptMembers names others)).outcome =
      (visitAll names (.ofLayers (scan.layersAt names))
        (scan.keptMembers names members)).outcome := by
  have atNames := isRoot.at?_top differ.rooted arrived.found
  have isOpenOther := (isOpen_movedTo_iff differ arrived.named notBelow atNames).mpr isOpen
  have sameLayers := layersAt_movedTo differ arrived.named notBelow atNames
  have distinct := (arrived.members_proper isRoot).1
  have distinctOther := (arrivedOther.members_proper isRootOther).1
  rw [← outcome_visitAll_keptDirectoryMembers, ← outcome_visitAll_keptDirectoryMembers]
  apply outcome_visitAll_congr (map_name_keptDirectoryMembers_movedTo differ isRoot isRootOther
    arrived arrivedOther notBelow alike)
  intro own isOwn member isMember sameName
  have goesOn := (mem_map_name_keptDirectoryMembers distinct).mp (List.mem_map_of_mem isMember)
  rcases arrives_of_mem_keptMembers isRootOther arrivedOther isOpenOther
    (List.mem_filter.mp isOwn).1 with ⟨innerOther, inOthers, rfl, childOther⟩
  rcases arrives_of_mem_keptMembers isRoot arrived isOpen (List.mem_filter.mp isMember).1 with
    ⟨inner, inMembers, rfl, child⟩
  simp only at sameName goesOn ⊢
  have sameShape := alike inner.1
  rw [Keyed.get?_of_mem distinct inMembers, ← sameName, Keyed.get?_of_mem distinctOther inOthers,
    Option.map_some, Option.map_some, Option.some.injEq] at sameShape
  rw [sameName, sameLayers] at childOther
  rw [sameName]
  exact each inner inMembers innerOther inOthers sameShape _ child childOther
    (differ.notBelow_concat notBelow goesOn.2.1 goesOn.2.2)

private theorem outcome_visitDirectory_movedTo (links : scan.LinksAlike other) :
    ((scan.movedTo other).visitDirectory ((scan.movedTo other).visits others) names rules).outcome =
      (scan.visitDirectory (scan.visits members) names rules).outcome := by
  have atNames := isRoot.at?_top differ.rooted arrived.found
  have named := arrived.named
  cases listed : scan.system.list (scan.place names) with
  | error cause =>
      have listedOther : (scan.movedTo other).system.list ((scan.movedTo other).place names) =
          .error cause := list_movedTo_of_refused differ named notBelow atNames listed
      rw [outcome_visitDirectory_of_refused listed, outcome_visitDirectory_of_refused listedOther]
  | ok listing =>
      have isOpen : scan.IsOpen names := ⟨listing, listed⟩
      have isOpenOther := (isOpen_movedTo_iff differ named notBelow atNames).mpr isOpen
      have reached := arrived.reached rfl isOpen
      have sameRules := outcome_directoryRules_movedTo differ named notBelow atNames rules
        differ.undivided (links names reached (arrived.opens isOpen))
      have sameLayers := layersAt_movedTo differ named notBelow atNames
      have sameRecords :=
        ownRecords_movedTo differ isRoot isRootOther arrived arrivedOther notBelow isOpen
      have sameVisits := outcome_visitAll_movedTo differ isRoot isRootOther arrived arrivedOther
        notBelow alike each isOpen
      rw [outcome_visitDirectory arrived isOpen, outcome_visitDirectory arrivedOther isOpenOther,
        sameLayers, sameRecords, sameVisits, ignoreFiles_movedTo, sameRules]

end Directory

section Walk

variable (differ : scan.SameButExcluded other top directory name)
  (links : scan.LinksAlike other)
include differ links

private theorem outcome_visit_movedTo {tree treeOther : Entry} (isRoot : scan.IsRoot tree)
    (isRootOther : (scan.movedTo other).IsRoot treeOther) (entry : Entry) :
    ∀ own names rules, own.shape = entry.shape → scan.Arrives tree names rules entry →
      (scan.movedTo other).Arrives treeOther names rules own → ¬directory ++ [name] <+: names →
        ((scan.movedTo other).visit own names rules).outcome =
          (scan.visit entry names rules).outcome := by
  induction entry using Entry.induct with
  | leaf entry notDirectory =>
      intro own names rules sameShape _ _ _
      rw [Entry.eq_of_shape sameShape notDirectory]
      cases entry with
      | directory => cases notDirectory
      | _ => simp [visit]
  | directory permission members induction =>
      intro own names rules sameShape arrived arrivedOther notBelow
      rcases Entry.eq_directory_of_shape sameShape with ⟨others, rfl⟩
      rcases exists_others differ notBelow (isRoot.at?_top differ.rooted arrived.found) with
        ⟨found, atNamesOther, alike⟩
      have atOwn : other.top.at? (top ++ names) = some (.directory permission others) :=
        isRootOther.at?_top differ.rootedOther arrivedOther.found
      rw [atOwn, Option.some.injEq, Entry.directory.injEq] at atNamesOther
      rw [← atNamesOther.2] at alike
      rw [visit, visit]
      refine outcome_visitDirectory_movedTo differ isRoot isRootOther arrived arrivedOther notBelow
        alike ?_ links
      intro member inMembers inner inOthers memberShape rules child childOther childNotBelow
      exact induction member inMembers inner.2 _ rules memberShape child childOther childNotBelow

omit links in
private theorem validateRoot_movedTo :
    validateRoot other scan.root = validateRoot scan.system scan.root :=
  validateRoot_outside differ.same differ.entryAt_root

omit links in
private theorem rootRules_movedTo : (scan.movedTo other).rootRules = scan.rootRules :=
  rootRules_congr differ.excludeFile differ.excludeLines

theorem outcome_run_movedTo : (scan.movedTo other).run.outcome = scan.run.outcome := by
  rw [outcome_run_eq, outcome_run_eq, root_movedTo, system_movedTo, validateRoot_movedTo differ,
    rootRules_movedTo differ]
  cases valid : validateRoot scan.system scan.root with
  | error failure => simp only [Except.bind]
  | ok _ =>
      rcases isRoot_of_validateRoot differ.proper valid with ⟨tree, isRoot⟩
      rcases differ.exists_isRoot_movedTo isRoot with ⟨treeOther, isRootOther⟩
      have foundOther : other.entryAt true scan.root = .ok treeOther := isRootOther.found
      cases given : scan.rootRules.outcome with
      | error failure => simp only [Except.bind]
      | ok rules =>
          have sameShape := differ.entryAt_root
          rw [isRoot.found, foundOther] at sameShape
          have arrivedOther := Arrives.root isRootOther
          rw [differ.rootLayers_movedTo] at arrivedOther
          rw [eq_of_rootRules given]
          simp only [Except.bind, isRoot.found, foundOther]
          exact outcome_visit_movedTo differ links isRoot isRootOther tree treeOther [] _
            (Except.ok.inj sameShape) (.root isRoot) arrivedOther (by simp)

omit links in
/-- A walk that succeeds comes to no link that is refused, so the links are refused alike in another
file system in which none of them is. -/
theorem linksAlike_of_linksAnswer {found : Found} (succeeded : scan.run.outcome = .ok found)
    (answer : scan.LinksAnswer other) : scan.LinksAlike other := by
  intro names reached opened file member isLink
  rcases answersTo_of_run differ.proper succeeded reached opened names (List.prefix_refl names)
    file member with ⟨own, answered⟩
  rcases answer names reached opened file member isLink with ⟨_, answeredOther⟩
  rw [FileSystem.RefusesAlike, answered, answeredOther]
  rfl

omit links in
theorem linksAnswer_of_run {found foundOther : Found} (succeeded : scan.run.outcome = .ok found)
    (succeededOther : (scan.movedTo other).run.outcome = .ok foundOther) :
    scan.LinksAnswer other := by
  rcases visit_of_run differ.proper succeeded with ⟨tree, isRoot, _⟩
  intro names reached opened file member _
  exact answersTo_of_run differ.properOther succeededOther (differ.reaches_movedTo isRoot reached)
    (differ.opens_movedTo isRoot reached opened) names (List.prefix_refl names) file member

omit links in
theorem read_movedTo {tree : Entry} (isRoot : scan.IsRoot tree) {names : List String}
    {file : String} (listed : scan.Lists names file) :
    other.read (scan.place (names ++ [file])) =
      scan.system.read (scan.place (names ++ [file])) := by
  rcases isRoot.at?_of_reaches listed.reached with ⟨permission, members, atNames⟩
  rcases listed.isFile with ⟨entry, found, isFile⟩
  have isMember := isRoot.get?_of_entryAt atNames listed.reached.named listed.isName found
  have noLink : ∀ target, Keyed.get? file members ≠ some (.link target) := by
    intro target isLink
    rw [isMember, Option.some.injEq] at isLink
    rw [isLink] at isFile
    cases isFile
  exact FileSystem.read_outside differ.same (entryAt_member differ listed.reached.named
    (differ.notBelow_of_reaches listed.reached) (isRoot.at?_top differ.rooted atNames) file true
    (Or.inr noLink))

end Walk

end Scan

end ImportAtlas
