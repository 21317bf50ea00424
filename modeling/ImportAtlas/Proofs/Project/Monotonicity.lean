import ImportAtlas.Config.Basic
import ImportAtlas.Proofs.FileSystem.Contents
import ImportAtlas.Proofs.Ignore.Additions
import ImportAtlas.Proofs.Project.Enumeration

/-! # Monotonicity of ignoring

A line is added at the end of the patterns of the configuration or of a file. The rules then decide
differently about some paths, and a walk enters other directories, in which it reads other ignore
files; these have a say about paths below only. Main statement: with a line that ignores, a walk
still succeeds and finds no more files; with a line that keeps, it finds no fewer, and succeeds
exactly if the ignore files of the directories that it now enters can be asked for and compiled.
-/

namespace ImportAtlas.Scan

open Ignore

open Text (Coded)

/-! ## Walks that differ in their rules -/

structure SameFiles (scan other : Scan) : Prop where
  valid : validateRoot other.system other.root = .ok () ↔
    validateRoot scan.system scan.root = .ok ()
  rootRules : (∃ rules, other.rootRules.outcome = .ok rules) ↔
    ∃ rules, scan.rootRules.outcome = .ok rules
  hasRules : ∀ directory, other.HasRules directory ↔ scan.HasRules directory
  isOpen : ∀ directory, other.IsOpen directory ↔ scan.IsOpen directory
  isDirectory : ∀ names,
    (∃ entry, other.system.entryAt false (other.place names) = .ok entry ∧
      entry.isDirectory = true) ↔
    ∃ entry, scan.system.entryAt false (scan.place names) = .ok entry ∧ entry.isDirectory = true
  isFile : ∀ names,
    (∃ entry, other.system.entryAt false (other.place names) = .ok entry ∧ entry.isFile = true) ↔
    ∃ entry, scan.system.entryAt false (scan.place names) = .ok entry ∧ entry.isFile = true

theorem SameFiles.opens_iff {scan other : Scan} (same : scan.SameFiles other)
    {directory : List String} : other.Opens directory ↔ scan.Opens directory :=
  forall_congr' fun above => imp_congr_right fun _ => same.isOpen above

theorem SameFiles.symm {scan other : Scan} (same : scan.SameFiles other) :
    other.SameFiles scan where
  valid := same.valid.symm
  rootRules := same.rootRules.symm
  hasRules directory := (same.hasRules directory).symm
  isOpen directory := (same.isOpen directory).symm
  isDirectory names := (same.isDirectory names).symm
  isFile names := (same.isFile names).symm

structure Widens (narrow wide : Scan) : Prop extends narrow.SameFiles wide where
  kept : ∀ names path isDirectory, (narrow.rulesAt names).isIgnored path isDirectory = false →
    (wide.rulesAt names).isIgnored path isDirectory = false

namespace Widens

variable {narrow wide : Scan} (widens : narrow.Widens wide)
include widens

private theorem enters {above : List String} {child : String}
    (entered : narrow.Enters above child) :
    wide.Enters above child where
  isName := entered.isName
  outsideGit := entered.outsideGit
  isDirectory := (widens.isDirectory _).mpr entered.isDirectory
  kept := widens.kept _ _ _ entered.kept

theorem reaches {directory : List String} (reached : narrow.Reaches directory) :
    wide.Reaches directory :=
  fun above child before => widens.enters (reached above child before)

theorem lists {directory : List String} {name : String} (listed : narrow.Lists directory name) :
    wide.Lists directory name where
  reached := widens.reaches listed.reached
  isName := listed.isName
  outsideGit := listed.outsideGit
  isFile := (widens.isFile _).mpr listed.isFile
  kept := widens.kept _ _ _ listed.kept

private theorem yields {names : List String} {record : FileRecord}
    (given : narrow.Yields names record) :
    wide.Yields names record := by
  rcases given with ⟨directory, name, below, opened, listed, equal⟩
  exact ⟨directory, name, below, widens.opens_iff.mpr opened, widens.lists listed, equal⟩

theorem sublist (proper : narrow.system.top.isProper = true)
    (properWide : wide.system.top.isProper = true) {found more : Found}
    (succeeded : narrow.run.outcome = .ok found) (succeededWide : wide.run.outcome = .ok more) :
    found.records.Sublist more.records := by
  have below := found_of_run proper succeeded
  have belowWide := found_of_run properWide succeededWide
  have kept : found.records = more.records.filter (· ∈ found.records) := by
    refine eq_of_ordered below.ordered (belowWide.ordered.filter _) fun record => ?_
    rw [List.mem_filter, decide_eq_true_eq]
    refine ⟨fun member => ⟨?_, member⟩, And.right⟩
    exact (belowWide.mem_iff record).mpr (widens.yields ((below.mem_iff record).mp member))
  rw [kept]
  exact List.filter_sublist

private theorem exists_run_iff_narrow (proper : narrow.system.top.isProper = true)
    (properWide : wide.system.top.isProper = true) :
    (∃ more, wide.run.outcome = .ok more) ↔
      (∃ found, narrow.run.outcome = .ok found) ∧
        ∀ directory, wide.Reaches directory → wide.Opens directory → ¬narrow.Reaches directory →
          wide.HasRules directory := by
  rw [exists_run_iff proper, exists_run_iff properWide, widens.valid, widens.rootRules]
  constructor
  · rintro ⟨valid, rootRules, hasRules⟩
    refine ⟨⟨valid, rootRules, fun directory reached opened => ?_⟩,
      fun directory reached opened _ => hasRules directory reached opened⟩
    exact (widens.hasRules directory).mp
      (hasRules directory (widens.reaches reached) (widens.opens_iff.mpr opened))
  · rintro ⟨⟨valid, rootRules, hasRules⟩, rulesBesides⟩
    refine ⟨valid, rootRules, fun directory reached opened => ?_⟩
    -- What the directories above have in their ignore files does not matter here, only what this
    -- one has, and that is the same in both walks.
    by_cases reachedBefore : narrow.Reaches directory
    · exact (widens.hasRules directory).mpr
        (hasRules directory reachedBefore (widens.opens_iff.mp opened))
    · exact rulesBesides directory reached opened reachedBefore

end Widens

/-! ## Sources with added lines -/

def linesOf (content : List UInt8) : List Coded :=
  (Text.lines (Text.Utf8.decodeLenient content)).map Coded.ofChars

def ContentAdds (effect : Bool) (content longer : List UInt8) : Prop :=
  Adds effect (linesOf content) (linesOf longer)

theorem ContentAdds.refl (effect : Bool) (content : List UInt8) :
    ContentAdds effect content content :=
  Adds.refl effect (linesOf content)

/-- Two walks are the same, except that lines of one effect are added at the end of the patterns of
the configuration and of files. -/
structure Extends (effect : Bool) (scan other : Scan) : Prop where
  root : other.root = scan.root
  ignoreFiles : other.ignoreFiles = scan.ignoreFiles
  patterns : Adds effect scan.ignorePatterns other.ignorePatterns
  system : scan.system.Rewritten (ContentAdds effect) other.system

namespace Extends

variable {effect : Bool} {scan other : Scan} (longer : scan.Extends effect other)
include longer

theorem place_eq (names : List String) : other.place names = scan.place names := by
  rw [place, place, longer.root]

theorem linesAt_adds (place : Location) :
    Adds effect (scan.linesAt place) (other.linesAt place) := by
  unfold linesAt FileSystem.readLines
  rcases longer.system.read_cases (ContentAdds.refl effect) place with
    ⟨cause, refused, refusedOther⟩ | ⟨content, own, given, givenOther, adds⟩
  · rw [refused, refusedOther]
    exact .refl effect []
  · rw [given, givenOther]
    exact adds

theorem valid_linesAt_iff (place : Location) :
    (∀ line ∈ other.linesAt place, isReversed line = false) ↔
      ∀ line ∈ scan.linesAt place, isReversed line = false :=
  (longer.linesAt_adds place).valid_iff

/-! ### Layers -/

theorem layerFrom_goesOn (base : String) (place : Location) :
    Layer.GoesOn effect (scan.layerFrom base place) (other.layerFrom base place) :=
  ⟨rfl, (longer.linesAt_adds place).patterns⟩

private theorem rootLayers_goOn :
    List.Forall₂ (Layer.GoesOn effect) scan.rootLayers other.rootLayers := by
  have samePlace : other.excludePlace = scan.excludePlace := longer.place_eq _
  unfold rootLayers
  rw [samePlace, longer.system.isFile?_eq]
  refine .cons ⟨rfl, longer.patterns.patterns⟩ ?_
  split
  · exact .cons (longer.layerFrom_goesOn "" _) .nil
  · exact .nil

private theorem holdsFile_iff (place : Location) :
    other.HoldsFile place ↔ scan.HoldsFile place := by
  rw [HoldsFile, HoldsFile, longer.system.isFile?_eq, longer.system.isLink?_eq]

private theorem fileLayers_goOn (names : List String) (file : Location) :
    List.Forall₂ (Layer.GoesOn effect) (scan.fileLayers names file)
      (other.fileLayers names file) := by
  unfold fileLayers
  simp only [longer.place_eq, longer.holdsFile_iff]
  split
  · exact .cons (longer.layerFrom_goesOn _ _) .nil
  · exact .nil

private theorem ownLayers_goOn (names : List String) :
    List.Forall₂ (Layer.GoesOn effect) (scan.ownLayers names) (other.ownLayers names) := by
  unfold ownLayers
  rw [longer.ignoreFiles]
  exact forall₂_flatMap fun file _ => longer.fileLayers_goOn names file

private theorem layersAt_goOn (names : List String) :
    List.Forall₂ (Layer.GoesOn effect) (scan.layersAt names) (other.layersAt names) :=
  List.rel_append longer.rootLayers_goOn (forall₂_flatMap fun above _ =>
    longer.ownLayers_goOn above)

/-! ### Walks -/

private theorem applies_iff (names : List String) (file : Location) :
    other.Applies names file ↔ scan.Applies names file := by
  unfold Applies
  simp only [longer.place_eq, longer.system.isFile?_eq, longer.system.isLink?_eq,
    longer.valid_linesAt_iff]

private theorem validateRoot_eq :
    validateRoot other.system other.root = validateRoot scan.system scan.root := by
  have exist : other.system.exists? scan.root = scan.system.exists? scan.root :=
    longer.system.test_eq fun _ _ _ => rfl
  have isDirectory : other.system.isDirectory? scan.root = scan.system.isDirectory? scan.root :=
    longer.system.test_eq fun _ _ alike => alike.isDirectory_eq
  unfold validateRoot
  rw [longer.root, exist, isDirectory, longer.system.isAccessible_eq]

theorem sameFiles : scan.SameFiles other where
  valid := by rw [longer.validateRoot_eq]
  rootRules := by
    have samePlace : other.excludePlace = scan.excludePlace := longer.place_eq _
    rw [exists_rootRules_iff, exists_rootRules_iff, samePlace, longer.patterns.valid_iff]
    simp only [longer.system.isFile?_eq, longer.valid_linesAt_iff]
  hasRules directory := by
    simp only [HasRules, longer.ignoreFiles, longer.applies_iff]
  isOpen directory := by
    rw [IsOpen, IsOpen, longer.place_eq, longer.system.exists_list_iff]
  isDirectory names := by
    rw [longer.place_eq]
    exact longer.system.exists_entryAt_iff fun _ _ alike => alike.isDirectory_eq
  isFile names := by
    rw [longer.place_eq]
    exact longer.system.exists_entryAt_iff fun _ _ alike => alike.isFile_eq

theorem isIgnored_cases (names : List String) (path : String) (isDirectory : Bool) :
    (other.rulesAt names).isIgnored path isDirectory =
        (scan.rulesAt names).isIgnored path isDirectory ∨
      (other.rulesAt names).isIgnored path isDirectory = effect :=
  Rules.isIgnored_cases (longer.layersAt_goOn names) path isDirectory

end Extends

private theorem Extends.widens_of_ignoring {scan other : Scan} (longer : scan.Extends true other) :
    other.Widens scan where
  toSameFiles := longer.sameFiles.symm
  kept names path isDirectory kept := by
    rcases longer.isIgnored_cases names path isDirectory with same | ignored
    · rw [← same, kept]
    · rw [kept] at ignored
      cases ignored

private theorem Extends.widens_of_keeping {scan other : Scan} (longer : scan.Extends false other) :
    scan.Widens other where
  toSameFiles := longer.sameFiles
  kept names path isDirectory kept := by
    rcases longer.isIgnored_cases names path isDirectory with same | keptNow
    · rw [same, kept]
    · exact keptNow

/-! ## One more line -/

/-- One line is added at the end of the patterns of the configuration or of a file. -/
inductive LineAdded (scan : Scan) (line : Coded) : Scan → Prop
  | toPatterns : LineAdded scan line
      { scan with ignorePatterns := scan.ignorePatterns ++ [line] }
  | toFile {trail : Trail} {permission : Permission} {content longer : List UInt8}
      (held : scan.system.top.at? trail = some (.file permission content))
      (written : linesOf longer = linesOf content ++ [line]) : LineAdded scan line
        { scan with system := scan.system.withEntry trail (some (.file permission longer)) }

namespace LineAdded

variable {scan other : Scan} {line : Coded} (added : scan.LineAdded line other)
include added

private theorem extends_of_hasEffect {effect : Bool} (given : HasEffect effect line) :
    scan.Extends effect other := by
  have reflexive := ContentAdds.refl effect
  cases added with
  | toPatterns =>
      exact ⟨rfl, rfl, .concat _ given, .refl reflexive scan.system⟩
  | @toFile trail permission content longer held written =>
      have adds : ContentAdds effect content longer := by
        rw [ContentAdds, written]
        exact .concat _ given
      exact ⟨rfl, rfl, .refl effect _, FileSystem.rewritten_withEntry reflexive adds held⟩

theorem isProper (proper : scan.system.top.isProper = true) :
    other.system.top.isProper = true := by
  cases added with
  | toPatterns => exact proper
  | toFile held _ => exact Entry.isProper_withEntry held proper

end LineAdded

/-- Ignoring is monotone. With a line added that ignores, a walk that succeeded still does, and the
files that it finds are some of those that it found, in the same order. With a line added that
keeps, a walk only succeeds if it did before, and the files that it found are some of those that it
finds; and it does succeed exactly if the rules can be put together in every directory that it now
reaches and did not reach before. Both walks succeed from a valid root if the rules can be put
together wherever one of them comes. -/
theorem run_monotone {scan other : Scan} {line : Coded} {pattern : Pattern}
    (proper : scan.system.top.isProper = true) (added : scan.LineAdded line other)
    (compiled : compileLine (dropLineEnds line) = .ok (some pattern)) :
    (pattern.ignores = true → ∀ found, scan.run.outcome = .ok found →
      ∃ fewer, other.run.outcome = .ok fewer ∧ fewer.records.Sublist found.records) ∧
    (pattern.ignores = false →
      (∀ more, other.run.outcome = .ok more →
        ∃ found, scan.run.outcome = .ok found ∧ found.records.Sublist more.records) ∧
      ∀ found, scan.run.outcome = .ok found →
        ((∃ more, other.run.outcome = .ok more) ↔
          ∀ directory, other.Reaches directory → other.Opens directory →
            ¬scan.Reaches directory → other.HasRules directory)) ∧
    (validateRoot scan.system scan.root = .ok () → (∃ rules, scan.rootRules.outcome = .ok rules) →
      (∀ directory, scan.Reaches directory ∨ other.Reaches directory → scan.Opens directory →
        scan.HasRules directory) →
      (∃ found, scan.run.outcome = .ok found) ∧ ∃ there, other.run.outcome = .ok there) := by
  have properOther := added.isProper proper
  have given : HasEffect pattern.ignores line := ⟨some pattern, compiled, by simp⟩
  have longer := added.extends_of_hasEffect given
  refine ⟨?_, ?_, ?_⟩
  · intro ignoring found succeeded
    rw [ignoring] at longer
    have widens := longer.widens_of_ignoring
    rcases ((widens.exists_run_iff_narrow properOther proper).mp ⟨found, succeeded⟩).1 with
      ⟨fewer, succeededOther⟩
    exact ⟨fewer, succeededOther, widens.sublist properOther proper succeededOther succeeded⟩
  · intro keeping
    rw [keeping] at longer
    have widens := longer.widens_of_keeping
    have succeeds := widens.exists_run_iff_narrow proper properOther
    constructor
    · intro more succeededOther
      rcases (succeeds.mp ⟨more, succeededOther⟩).1 with ⟨found, succeeded⟩
      exact ⟨found, succeeded, widens.sublist proper properOther succeeded succeededOther⟩
    · intro found succeeded
      rw [succeeds]
      exact and_iff_right ⟨found, succeeded⟩
  · intro valid rootRules hasRules
    have same := longer.sameFiles
    constructor
    · exact (exists_run_iff proper).mpr ⟨valid, rootRules, fun directory reached =>
        hasRules directory (Or.inl reached)⟩
    · refine (exists_run_iff properOther).mpr
        ⟨same.valid.mpr valid, same.rootRules.mpr rootRules, fun directory reached opened => ?_⟩
      exact (same.hasRules directory).mpr
        (hasRules directory (Or.inr reached) (same.opens_iff.mp opened))

def treeWithRules (rules : String) : Entry :=
  .directory .newDirectory [
    ("a.ts", .file .newFile []),
    ("d", .directory .newDirectory [
      (".gitignore", .file .newFile (Text.Utf8.encode rules.toList)),
      ("b.ts", .file .newFile [])])]

def scanWithRules (patterns : List Coded) (rules : String) : Scan where
  system := ⟨.directory .newDirectory [("r", treeWithRules rules)], [], false⟩
  root := .ofText "/r"
  ignorePatterns := patterns
  ignoreFiles := [.ofText ".gitignore", .ofText ".ignore"]

theorem compileLine_keptDirectory : compileLine (dropLineEnds "!d/") =
    .ok (some ⟨false, [.leadingDirectories, .symbol (.literal (.char 'd')), .descendants]⟩) := by
  decide +kernel

theorem run_monotone_nestedRules :
    (∃ found fewer, (scanWithRules [] "*.log").run.outcome = .ok found ∧
      (scanWithRules [] "*.log\n*.ts").run.outcome = .ok fewer ∧
      fewer.records.Sublist found.records) ∧
    ∃ found more, (scanWithRules ["d/"] "*.log").run.outcome = .ok found ∧
      (scanWithRules ["d/", "!d/"] "*.log").run.outcome = .ok more ∧
      found.records.Sublist more.records := by
  constructor
  · have isRoot : (scanWithRules [] "*.log").IsRoot (treeWithRules "*.log") :=
      ⟨rfl, rfl, by decide +kernel⟩
    have undisturbed : (scanWithRules [] "*.log").Undisturbed :=
      .of_directoryTrails isRoot (by decide +kernel) (by decide +kernel) (by decide +kernel)
        (by decide +kernel) (by decide +kernel)
    have added : (scanWithRules [] "*.log").LineAdded "*.ts" (scanWithRules [] "*.log\n*.ts") :=
      @LineAdded.toFile _ _ ["r", "d", ".gitignore"] _ _ _ rfl (by decide +kernel)
    have compiled : compileLine (dropLineEnds "*.ts") = .ok (some ⟨true, [.leadingDirectories,
        .symbol .anyChars, .symbol (.literal (.char '.')), .symbol (.literal (.char 't')),
        .symbol (.literal (.char 's')),
        .selfOrDescendants]⟩) := by decide +kernel
    rcases outcome_run (by decide +kernel) rfl undisturbed with ⟨found, succeeded⟩
    rcases (run_monotone (by decide +kernel) added compiled).1 rfl found succeeded with
      ⟨fewer, succeededNow, fewerFound⟩
    exact ⟨found, fewer, succeeded, succeededNow, fewerFound⟩
  · have isRoot : (scanWithRules ["d/", "!d/"] "*.log").IsRoot (treeWithRules "*.log") :=
      ⟨rfl, rfl, by decide +kernel⟩
    have undisturbed : (scanWithRules ["d/", "!d/"] "*.log").Undisturbed :=
      .of_directoryTrails isRoot (by decide +kernel) (by decide +kernel) (by decide +kernel)
        (by decide +kernel) (by decide +kernel)
    have added : (scanWithRules ["d/"] "*.log").LineAdded "!d/"
        (scanWithRules ["d/", "!d/"] "*.log") := .toPatterns
    have compiled := compileLine_keptDirectory
    rcases outcome_run (by decide +kernel) rfl undisturbed with ⟨more, succeeded⟩
    rcases ((run_monotone (by decide +kernel) added compiled).2.1 rfl).1 more succeeded with
      ⟨found, succeededBefore, moreFound⟩
    exact ⟨found, more, succeededBefore, succeeded, moreFound⟩

/-- A line that keeps a directory can make a walk fail: a reversed range in the ignore file of the
directory, which was not read before, is not recovered from. -/
theorem run_fails_in_keptDirectory :
    (scanWithRules ["d/"] "[z-a]").LineAdded "!d/" (scanWithRules ["d/", "!d/"] "[z-a]") ∧
      (∃ pattern, compileLine (dropLineEnds "!d/") = .ok (some pattern) ∧
        pattern.ignores = false) ∧
      (∃ found, (scanWithRules ["d/"] "[z-a]").run.outcome = .ok found) ∧
      ∀ more, (scanWithRules ["d/", "!d/"] "[z-a]").run.outcome ≠ .ok more := by
  refine ⟨.toPatterns, ⟨_, compileLine_keptDirectory, rfl⟩, ?_, ?_⟩
  · have isRoot : (scanWithRules ["d/"] "[z-a]").IsRoot (treeWithRules "[z-a]") :=
      ⟨rfl, rfl, by decide +kernel⟩
    have rootRules : ∃ rules, (scanWithRules ["d/"] "[z-a]").rootRules.outcome = .ok rules :=
      exists_rootRules_iff.mpr ⟨by decide +kernel, false, by decide +kernel, nofun⟩
    refine (exists_run_iff (by decide +kernel)).mpr ⟨rfl, rootRules, ?_⟩
    intro directory reached _
    rcases isRoot.at?_of_reaches reached with ⟨_, _, atDirectory⟩
    have inTree : directory ∈ [[], ["d"]] := Entry.mem_directoryTrails atDirectory rfl
    rcases List.mem_cons.mp inTree with rfl | below
    · intro file member
      refine ⟨false, ?_, nofun⟩
      revert file
      decide +kernel
    · rw [List.mem_singleton.mp below] at reached
      have ignored : ((scanWithRules ["d/"] "[z-a]").rulesAt []).isIgnored
          (pathText ([] ++ ["d"])) true = true := by decide +kernel
      rw [(reached [] "d" (List.prefix_refl _)).kept] at ignored
      cases ignored
  · intro more succeeded
    rcases (exists_run_iff (by decide +kernel)).mp ⟨more, succeeded⟩ with ⟨_, _, hasRules⟩
    have reached : (scanWithRules ["d/", "!d/"] "[z-a]").Reaches ["d"] :=
      Reaches.concat_iff.mpr ⟨.nil, by decide, by decide, ⟨_, rfl, rfl⟩, by decide +kernel⟩
    have opened : (scanWithRules ["d/", "!d/"] "[z-a]").Opens ["d"] :=
      (Opens.nil ⟨_, rfl⟩).concat ⟨_, rfl⟩
    rcases hasRules ["d"] reached opened (.ofText ".gitignore") (by decide) with
      ⟨isFile, held, linked⟩
    have isThere : (scanWithRules ["d/", "!d/"] "[z-a]").HoldsFile
        (((scanWithRules ["d/", "!d/"] "[z-a]").place ["d"]).append (.ofText ".gitignore")) := by
      decide +kernel
    rw [isThere.1, Except.ok.injEq] at held
    rcases linked held.symm with ⟨isLink, answer, valid⟩
    rw [isThere.2, Except.ok.injEq] at answer
    have reversed := valid answer.symm
    revert reversed
    decide +kernel

end ImportAtlas.Scan
