import ImportAtlas.Config.Basic
import ImportAtlas.Proofs.FileSystem.Unlocked
import ImportAtlas.Proofs.Project.Enumeration
import Mathlib.Control.Monad.Basic
import Mathlib.Data.List.Nodup

/-! # Walks past locked directories

Directories below the root may be closed to listing, to searching or to both. A walk is compared
with the same walk in the file system in which all of them are open. Main statement: it succeeds
exactly if every directory that it lists can be searched, and every link among the ignore files
followed; it then finds the files to which an open way leads.
-/

namespace ImportAtlas

/-- Whether a place is that of a member, as seen from a directory. -/
def Location.IsMember (file : Location) : Prop :=
  ∃ name, IsName name ∧ file = ⟨"", [name]⟩

namespace Scan

open Ignore

/-- The same walk with every directory open to everyone. -/
def unlocked (scan : Scan) : Scan :=
  { scan with system := scan.system.unlocked }

def Answers (scan : Scan) (directory : List String) : Prop :=
  ∀ file ∈ scan.ignoreFiles,
    ∃ answer, scan.system.isFile? ((scan.place directory).append file) = .ok answer

def AnswersTo (scan : Scan) (directory : List String) : Prop :=
  ∀ above, above <+: directory → scan.Answers above

theorem AnswersTo.of_prefix {scan : Scan} {above directory : List String}
    (answers : scan.AnswersTo directory) (before : above <+: directory) : scan.AnswersTo above :=
  fun upper inAbove => answers upper (inAbove.trans before)

/-- A directory can be listed and searched, and the links among its ignore files followed. -/
structure CanBeAsked (scan : Scan) (directory : List String) : Prop where
  accessible : scan.system.isAccessible (scan.place directory) = true
  links : ∀ file ∈ scan.ignoreFiles,
    scan.system.isLink? ((scan.place directory).append file) = .ok true →
      ∃ answer, scan.system.isFile? ((scan.place directory).append file) = .ok answer

/-- Whether all directories on the way to a recorded file can be listed and searched. -/
def hasOpenWay (scan : Scan) (record : FileRecord) : Bool :=
  (Path.components record.path).dropLast.inits.all fun above =>
    scan.system.isAccessible (scan.place above)

variable {scan : Scan} {tree : Entry}

/-! ## Rules in force -/

theorem IsRoot.unlocked (isRoot : scan.IsRoot tree) : scan.unlocked.IsRoot tree.unlocked where
  found := FileSystem.entryAt_unlocked_of_ok isRoot.found
  isDirectory := by simp [isRoot.isDirectory]
  proper := Entry.isProper_unlocked isRoot.proper

theorem append_place (directory : List String) (name : String) :
    (scan.place directory).append ⟨"", [name]⟩ = scan.place (directory ++ [name]) := by
  simp [Location.append, Location.isAbsolute, place]

theorem exists_isLink (isRoot : scan.IsRoot tree) {directory : List String}
    (reached : scan.Reaches directory) {file : Location} (isMember : file.IsMember) {answer : Bool}
    (answered : scan.system.isFile? ((scan.place directory).append file) = .ok answer) :
    ∃ linked, scan.system.isLink? ((scan.place directory).append file) = .ok linked := by
  rcases isMember with ⟨name, isName, rfl⟩
  have place : scan.place (directory ++ [name]) = scan.root.under (directory ++ [name]) := rfl
  rcases isRoot.at?_of_reaches reached with ⟨permission, members, atDirectory⟩
  rw [append_place, place] at answered ⊢
  unfold FileSystem.isFile? FileSystem.test at answered
  unfold FileSystem.isLink? FileSystem.test
  rcases FileSystem.entryAt_below isRoot.found atDirectory reached.named isName with
    ⟨cause, known, refused⟩ | ⟨_, missing⟩ | ⟨entry, _, unfollowed, _⟩
  · simp [refused, known] at answered
  · exact ⟨false, by simp [missing, Cause.isAbsence]⟩
  · exact ⟨entry.isLink, by simp [unfollowed]⟩

theorem linesAt_unlocked {place : Location} (held : scan.system.isFile? place = .ok true) :
    scan.unlocked.linesAt place = scan.linesAt place := by
  rcases FileSystem.entryAt_of_test held with ⟨entry, found, isFile⟩
  have other : entry.isDirectory = false := by
    cases entry with
    | directory => cases isFile
    | _ => rfl
  simp only [linesAt, FileSystem.readLines, unlocked, FileSystem.read_unlocked found other]

private theorem linesAt_cases_unlocked (place : Location) :
    scan.linesAt place = [] ∨ scan.linesAt place = scan.unlocked.linesAt place := by
  unfold linesAt FileSystem.readLines unlocked
  rcases @FileSystem.read_cases_unlocked scan.system place with ⟨cause, refused⟩ | same
  · simp [refused, Except.map]
  · simp [same]

private theorem fileLayers_unlocked (isRoot : scan.IsRoot tree) {directory : List String}
    (reached : scan.Reaches directory) {file : Location} (isMember : file.IsMember)
    (answered : ∃ answer, scan.system.isFile? ((scan.place directory).append file) = .ok answer) :
    scan.unlocked.fileLayers directory file = scan.fileLayers directory file := by
  rcases answered with ⟨isFile, fileAnswer⟩
  rcases exists_isLink isRoot reached isMember fileAnswer with ⟨isLink, linkAnswer⟩
  have sameFile : scan.unlocked.system.isFile? ((scan.place directory).append file) =
      scan.system.isFile? ((scan.place directory).append file) := by
    rw [fileAnswer]
    exact FileSystem.test_unlocked Entry.isFile_unlocked fileAnswer
  have sameLink : scan.unlocked.system.isLink? ((scan.place directory).append file) =
      scan.system.isLink? ((scan.place directory).append file) := by
    rw [linkAnswer]
    exact FileSystem.test_unlocked Entry.isLink_unlocked linkAnswer
  have sameHeld : scan.unlocked.HoldsFile ((scan.place directory).append file) ↔
      scan.HoldsFile ((scan.place directory).append file) := by
    rw [HoldsFile, HoldsFile, sameFile, sameLink]
  have samePlace : scan.unlocked.place directory = scan.place directory := rfl
  rw [fileLayers, fileLayers, samePlace]
  by_cases held : scan.HoldsFile ((scan.place directory).append file)
  · rw [if_pos held, if_pos (sameHeld.mpr held), layerFrom, linesAt_unlocked held.1]
    rfl
  · rw [if_neg held, if_neg fun heldOpen => held (sameHeld.mp heldOpen)]

/-! ## Directories that can be listed and searched -/

theorem isAccessible_iff {directory : List String} {entry : Entry}
    (found : scan.system.entryAt true (scan.place directory) = .ok entry) :
    scan.system.isAccessible (scan.place directory) = true ↔
      scan.system.canRead entry = true ∧ scan.system.canSearch entry = true := by
  simp [FileSystem.isAccessible, found]

theorem isOpen_iff {directory : List String} :
    scan.IsOpen directory ↔ ∃ permission members,
      scan.system.entryAt true (scan.place directory) = .ok (.directory permission members) ∧
        scan.system.canRead (.directory permission members) = true := by
  unfold IsOpen FileSystem.list
  constructor
  · rintro ⟨listing, listed⟩
    split at listed
    · cases listed
    · rename_i permission members found
      split at listed
      · rename_i readable
        exact ⟨permission, members, found, readable⟩
      · cases listed
    · cases listed
  · rintro ⟨permission, members, found, readable⟩
    exact ⟨members, by simp [found, readable]⟩

theorem under_place (directory : List String) (child : String) :
    (scan.place directory).under [child] = scan.place (directory ++ [child]) := by
  simp [Location.under, place]

theorem isAccessible_or_refused {directory : List String} (isOpen : scan.IsOpen directory)
    {child : String} (isName : IsName child) (followsLast : Bool) :
    scan.system.isAccessible (scan.place directory) = true ∨
      ∃ cause : Cause, cause.isAbsence = false ∧
        scan.system.entryAt followsLast (scan.place (directory ++ [child])) = .error cause := by
  rcases isOpen_iff.mp isOpen with ⟨permission, members, atDirectory, readable⟩
  cases searchable : scan.system.canSearch (.directory permission members) with
  | true => exact Or.inl ((isAccessible_iff atDirectory).mpr ⟨readable, searchable⟩)
  | false =>
      rw [← under_place]
      exact Or.inr (FileSystem.entryAt_of_not_canSearch atDirectory isName searchable followsLast)

private theorem isAccessible_of_entryAt {directory : List String} (isOpen : scan.IsOpen directory)
    {child : String} (isName : IsName child) {entry : Entry}
    (found : scan.system.entryAt false (scan.place (directory ++ [child])) = .ok entry) :
    scan.system.isAccessible (scan.place directory) = true := by
  rcases isAccessible_or_refused isOpen isName false with accessible | ⟨cause, _, refused⟩
  · exact accessible
  · rw [refused] at found
    cases found

private theorem isAccessible_of_lists {directory : List String} {name : String}
    (listed : scan.Lists directory name) (opened : scan.Opens directory) {above : List String}
    (before : above <+: directory) : scan.system.isAccessible (scan.place above) = true := by
  have isOpen := opened above before
  rcases before with ⟨rest, rfl⟩
  cases rest with
  | nil =>
      rw [List.append_nil] at listed
      rcases listed.isFile with ⟨entry, found, _⟩
      exact isAccessible_of_entryAt isOpen listed.isName found
  | cons child rest =>
      have entered := listed.reached above child ⟨rest, by simp⟩
      rcases entered.isDirectory with ⟨entry, found, _⟩
      exact isAccessible_of_entryAt isOpen entered.isName found

private theorem opens_unlocked {directory : List String} (opened : scan.Opens directory) :
    scan.unlocked.Opens directory := by
  intro above before
  rcases opened above before with ⟨members, listed⟩
  exact FileSystem.list_unlocked listed

private theorem hasOpenWay_iff {directory : List String} {name : String}
    (named : ∀ part ∈ directory ++ [name], IsName part) :
    scan.hasOpenWay (.ofPath (pathText (directory ++ [name]))) = true ↔
      ∀ above, above <+: directory → scan.system.isAccessible (scan.place above) = true := by
  have components : Path.components (FileRecord.ofPath (pathText (directory ++ [name]))).path =
      directory ++ [name] := components_pathText (by simp) named
  simp [hasOpenWay, components]

private theorem isOpen_of_isAccessible {directory : List String}
    (accessible : scan.system.isAccessible (scan.place directory) = true)
    (openUnlocked : scan.unlocked.IsOpen directory) : scan.IsOpen directory := by
  cases found : scan.system.entryAt true (scan.place directory) with
  | error cause => simp [FileSystem.isAccessible, found] at accessible
  | ok entry =>
      rcases isOpen_iff.mp openUnlocked with ⟨permission, members, atUnlocked, _⟩
      have unlockedEntry : scan.unlocked.system.entryAt true (scan.unlocked.place directory) =
          .ok entry.unlocked := FileSystem.entryAt_unlocked_of_ok found
      rw [unlockedEntry, Except.ok.injEq] at atUnlocked
      have isDirectory : entry.isDirectory = true := by
        rw [← Entry.isDirectory_unlocked, atUnlocked]
        rfl
      rcases Entry.isDirectory_iff.mp isDirectory with ⟨own, inner, rfl⟩
      exact isOpen_iff.mpr ⟨own, inner, found, ((isAccessible_iff found).mp accessible).1⟩

theorem entryAt_of_unlocked {directory : List String}
    (accessible : scan.system.isAccessible (scan.place directory) = true)
    (isOpen : scan.IsOpen directory) {child : String} (isName : IsName child) {entry : Entry}
    (found : scan.unlocked.system.entryAt false (scan.place (directory ++ [child])) = .ok entry) :
    ∃ own, scan.system.entryAt false (scan.place (directory ++ [child])) = .ok own ∧
      own.unlocked = entry := by
  rcases isOpen_iff.mp isOpen with ⟨permission, members, atDirectory, _⟩
  have searchable := ((isAccessible_iff atDirectory).mp accessible).2
  have notDenied := FileSystem.entryAt_ne_denied atDirectory isName searchable
  rw [under_place] at notDenied
  rcases @FileSystem.entryAt_unlocked scan.system false (scan.place (directory ++ [child])) with
    denied | same
  · exact absurd denied notDenied
  · rw [unlocked, same] at found
    cases own : scan.system.entryAt false (scan.place (directory ++ [child])) with
    | error cause =>
        rw [own] at found
        cases found
    | ok entry =>
        rw [own] at found
        exact ⟨entry, rfl, Except.ok.inj found⟩

/-! ## From a walk to the one with all directories open -/

section Alike

variable (isRoot : scan.IsRoot tree) (files : ∀ file ∈ scan.ignoreFiles, file.IsMember)
  (exclude : ∃ answer, scan.system.isFile? scan.excludePlace = .ok answer)
include isRoot files exclude

theorem rulesAt_unlocked {directory : List String} (reached : scan.Reaches directory)
    (answers : scan.AnswersTo directory) :
    scan.unlocked.rulesAt directory = scan.rulesAt directory := by
  have rootSame : scan.unlocked.rootLayers = scan.rootLayers := by
    rcases exclude with ⟨answer, answered⟩
    have sameFile : scan.unlocked.system.isFile? scan.excludePlace =
        scan.system.isFile? scan.excludePlace := by
      rw [answered]
      exact FileSystem.test_unlocked Entry.isFile_unlocked answered
    have samePlace : scan.unlocked.excludePlace = scan.excludePlace := rfl
    have samePatterns : scan.unlocked.ignorePatterns = scan.ignorePatterns := rfl
    unfold rootLayers
    rw [samePlace, sameFile, samePatterns]
    split
    · rename_i held
      rw [layerFrom, linesAt_unlocked held]
      rfl
    · rfl
  have ownSame : ∀ above ∈ directory.inits, scan.unlocked.ownLayers above =
      scan.ownLayers above := by
    intro above isInit
    have before := (List.mem_inits above directory).mp isInit
    refine List.flatMap_congr fun file member => ?_
    exact fileLayers_unlocked isRoot (reached.of_prefix before) (files file member)
      (answers above before file member)
  rw [rulesAt, rulesAt, layersAt, layersAt, rootSame, List.flatMap_congr ownSame]

theorem enters_unlocked {above : List String} (reached : scan.Reaches above)
    (answers : scan.AnswersTo above) {child : String} (entered : scan.Enters above child) :
    scan.unlocked.Enters above child := by
  rcases entered.isDirectory with ⟨entry, found, isDirectory⟩
  refine ⟨entered.isName, entered.outsideGit,
    ⟨entry.unlocked, FileSystem.entryAt_unlocked_of_ok found, by simp [isDirectory]⟩, ?_⟩
  rw [rulesAt_unlocked isRoot files exclude reached answers]
  exact entered.kept

theorem reaches_unlocked {directory : List String} (reached : scan.Reaches directory)
    (answers : scan.AnswersTo directory) : scan.unlocked.Reaches directory := by
  intro above child inDirectory
  have before : above <+: directory := (List.prefix_append above [child]).trans inDirectory
  exact enters_unlocked isRoot files exclude (reached.of_prefix before) (answers.of_prefix before)
    (reached above child inDirectory)

private theorem lists_unlocked {directory : List String} {name : String}
    (listed : scan.Lists directory name) (answers : scan.AnswersTo directory) :
    scan.unlocked.Lists directory name := by
  rcases listed.isFile with ⟨entry, found, isFile⟩
  refine ⟨reaches_unlocked isRoot files exclude listed.reached answers, listed.isName,
    listed.outsideGit,
    ⟨entry.unlocked, FileSystem.entryAt_unlocked_of_ok found, by simp [isFile]⟩, ?_⟩
  rw [rulesAt_unlocked isRoot files exclude listed.reached answers]
  exact listed.kept

/-! ## And back -/

variable (answers : ∀ directory, scan.Reaches directory → scan.Opens directory →
  scan.AnswersTo directory)
include answers

private theorem reaches_of_unlocked {directory : List String}
    (reached : scan.unlocked.Reaches directory) (opened : scan.unlocked.Opens directory)
    (accessible : ∀ above, above <+: directory →
      scan.system.isAccessible (scan.place above) = true) :
    scan.Reaches directory ∧ scan.Opens directory := by
  induction directory using List.reverseRecOn with
  | nil =>
      refine ⟨Reaches.nil, ?_⟩
      intro above before
      exact isOpen_of_isAccessible (accessible above before) (opened above before)
  | append_singleton names child induction =>
      rcases Reaches.concat_iff.mp reached with ⟨namesReached, entered⟩
      have inNames : ∀ {above}, above <+: names → above <+: names ++ [child] :=
        fun before => before.trans (List.prefix_append names [child])
      rcases induction namesReached (fun above before => opened above (inNames before))
          (fun above before => accessible above (inNames before)) with ⟨ownReached, ownOpened⟩
      have own := List.prefix_refl names
      rcases entered.isDirectory with ⟨entry, found, isDirectory⟩
      rcases entryAt_of_unlocked (accessible names (inNames own)) (ownOpened names own)
          entered.isName found with ⟨inner, ownFound, rfl⟩
      rw [Entry.isDirectory_unlocked] at isDirectory
      have kept := entered.kept
      rw [rulesAt_unlocked isRoot files exclude ownReached
        (answers names ownReached ownOpened)] at kept
      refine ⟨Reaches.concat_iff.mpr ⟨ownReached, entered.isName, entered.outsideGit,
        ⟨inner, ownFound, isDirectory⟩, kept⟩, ?_⟩
      intro above before
      exact isOpen_of_isAccessible (accessible above before) (opened above before)

private theorem lists_of_unlocked {directory : List String} {name : String}
    (listed : scan.unlocked.Lists directory name) (opened : scan.unlocked.Opens directory)
    (accessible : ∀ above, above <+: directory →
      scan.system.isAccessible (scan.place above) = true) :
    scan.Lists directory name ∧ scan.Opens directory := by
  rcases reaches_of_unlocked isRoot files exclude answers listed.reached opened accessible with
    ⟨reached, ownOpened⟩
  have own := List.prefix_refl directory
  rcases listed.isFile with ⟨entry, found, isFile⟩
  rcases entryAt_of_unlocked (accessible directory own) (ownOpened directory own) listed.isName
      found with ⟨inner, ownFound, rfl⟩
  rw [Entry.isFile_unlocked] at isFile
  have kept := listed.kept
  rw [rulesAt_unlocked isRoot files exclude reached
    (answers directory reached ownOpened)] at kept
  exact ⟨⟨reached, listed.isName, listed.outsideGit, ⟨inner, ownFound, isFile⟩, kept⟩, ownOpened⟩

/-- A walk yields the files that it yields with all directories open, as far as the directories on
the way to them can be listed and searched. -/
private theorem yields_iff_unlocked {record : FileRecord} :
    scan.Yields [] record ↔ scan.unlocked.Yields [] record ∧ scan.hasOpenWay record = true := by
  constructor
  · rintro ⟨directory, name, below, opened, listed, rfl⟩
    refine ⟨⟨directory, name, below, opens_unlocked opened, lists_unlocked isRoot files exclude
      listed (answers directory listed.reached opened), rfl⟩, ?_⟩
    exact (hasOpenWay_iff listed.named).mpr fun _ before =>
      isAccessible_of_lists listed opened before
  · rintro ⟨⟨directory, name, below, opened, listed, rfl⟩, openWay⟩
    have accessible := (hasOpenWay_iff listed.named).mp openWay
    rcases lists_of_unlocked isRoot files exclude answers listed opened accessible with
      ⟨ownListed, ownOpened⟩
    exact ⟨directory, name, below, ownOpened, ownListed, rfl⟩

end Alike

/-! ## Walks that succeed -/

theorem answersTo_of_run (proper : scan.system.top.isProper = true) {found : Found}
    (succeeded : scan.run.outcome = .ok found) {directory : List String}
    (reached : scan.Reaches directory) (opened : scan.Opens directory) :
    scan.AnswersTo directory := by
  rcases (exists_run_iff proper).mp ⟨found, succeeded⟩ with ⟨_, _, hasRules⟩
  intro above before file member
  rcases hasRules above (reached.of_prefix before)
    (fun upper inAbove => opened upper (inAbove.trans before)) file member with ⟨answer, given, _⟩
  exact ⟨answer, given⟩

/-! ## Directories that can be asked for their ignore files -/

private theorem canBeAsked_of_answers {directory : List String} (isOpen : scan.IsOpen directory)
    (someFiles : scan.ignoreFiles ≠ []) (files : ∀ file ∈ scan.ignoreFiles, file.IsMember)
    (answers : scan.Answers directory) : scan.CanBeAsked directory := by
  refine ⟨?_, fun file member _ => answers file member⟩
  rcases List.exists_mem_of_ne_nil _ someFiles with ⟨file, member⟩
  rcases answers file member with ⟨answer, isFile⟩
  rcases files file member with ⟨name, isName, rfl⟩
  rw [append_place, FileSystem.isFile?, FileSystem.test] at isFile
  rcases isAccessible_or_refused isOpen isName true with
    accessible | ⟨cause, known, refused⟩
  · exact accessible
  · simp [refused, known] at isFile

private theorem answers_of_canBeAsked (isRoot : scan.IsRoot tree)
    (files : ∀ file ∈ scan.ignoreFiles, file.IsMember) {directory : List String}
    (reached : scan.Reaches directory) (isOpen : scan.IsOpen directory)
    (asked : scan.CanBeAsked directory)
    (byAbsence : ∀ file ∈ scan.ignoreFiles, FileSystem.ByAbsence
      (scan.unlocked.system.isFile? ((scan.place directory).append file))) :
    scan.Answers directory := by
  intro file member
  have links := asked.links file member
  have undisturbed := byAbsence file member
  rcases files file member with ⟨name, isName, rfl⟩
  have under : scan.place (directory ++ [name]) = scan.root.under (directory ++ [name]) := rfl
  rcases isRoot.at?_of_reaches reached with ⟨permission, members, atDirectory⟩
  rw [append_place] at links undisturbed ⊢
  rcases FileSystem.entryAt_below isRoot.found atDirectory reached.named isName with
    ⟨cause, known, refused⟩ | ⟨_, missing⟩ | ⟨entry, _, unfollowed, followed⟩
  · -- The cause is not that of a locked directory, so it disturbs the other walk as well.
    exfalso
    rcases isOpen_iff.mp isOpen with ⟨own, inner, atPlace, _⟩
    have searchable := ((isAccessible_iff atPlace).mp asked.accessible).2
    have notDenied := FileSystem.entryAt_ne_denied atPlace isName searchable
    rw [under_place, under, refused] at notDenied
    rcases @FileSystem.entryAt_unlocked scan.system true (scan.place (directory ++ [name])) with
      denied | same
    · rw [under, refused] at denied
      exact notDenied denied
    · rw [under, refused] at same
      have disturbs : scan.unlocked.system.isFile? (scan.place (directory ++ [name])) =
          .error cause := by
        rw [FileSystem.isFile?, FileSystem.test, under, unlocked, same]
        simp [Except.map, known]
      rw [undisturbed cause disturbs] at known
      cases known
  · exact ⟨false, by simp [FileSystem.isFile?, FileSystem.test, under, missing, Cause.isAbsence]⟩
  · by_cases isLink : entry.isLink = true
    · exact links (by simp [FileSystem.isLink?, FileSystem.test, under, unfollowed, isLink])
    · have found := followed (by simpa using isLink)
      exact ⟨entry.isFile, by simp [FileSystem.isFile?, FileSystem.test, under, found]⟩

private theorem answersTo_of_canBeAsked (isRoot : scan.IsRoot tree)
    (files : ∀ file ∈ scan.ignoreFiles, file.IsMember)
    (exclude : ∃ answer, scan.system.isFile? scan.excludePlace = .ok answer)
    (undisturbed : scan.unlocked.Undisturbed)
    (asked : ∀ directory, scan.Reaches directory → scan.Opens directory →
      scan.CanBeAsked directory) {directory : List String}
    (reached : scan.Reaches directory) (opened : scan.Opens directory) :
    scan.AnswersTo directory := by
  have single : ∀ {names}, scan.Reaches names → scan.Opens names → scan.unlocked.Reaches names →
      scan.Answers names := fun reached opened reachedOpen =>
    answers_of_canBeAsked isRoot files reached (opened _ (List.prefix_refl _))
      (asked _ reached opened) (undisturbed.isFile _ reachedOpen)
  induction directory using List.reverseRecOn with
  | nil =>
      intro above before
      rw [List.prefix_nil.mp before]
      exact single reached opened Reaches.nil
  | append_singleton names child induction =>
      rcases Reaches.concat_iff.mp reached with ⟨namesReached, entered⟩
      have namesAnswer := induction namesReached fun above before =>
        opened above (before.trans (List.prefix_append names [child]))
      intro above before
      rcases List.prefix_concat_iff.mp before with rfl | inNames
      · refine single reached opened (Reaches.concat_iff.mpr ⟨?_, ?_⟩)
        · exact reaches_unlocked isRoot files exclude namesReached namesAnswer
        · exact enters_unlocked isRoot files exclude namesReached namesAnswer entered
      · exact namesAnswer above inNames

/-! ## The walk as a whole -/

private theorem validateRoot_unlocked (valid : validateRoot scan.system scan.root = .ok ()) :
    validateRoot scan.unlocked.system scan.unlocked.root = .ok () := by
  unfold validateRoot at valid
  split at valid
  · cases valid
  · cases valid
  · rename_i present
    split at valid
    · cases valid
    · cases valid
    · rename_i isDirectory
      have presentOpen : scan.unlocked.system.exists? scan.unlocked.root = .ok true :=
        FileSystem.test_unlocked (fun _ => rfl) present
      have isDirectoryOpen : scan.unlocked.system.isDirectory? scan.unlocked.root = .ok true :=
        FileSystem.test_unlocked Entry.isDirectory_unlocked isDirectory
      have accessible : scan.unlocked.system.isAccessible scan.unlocked.root = true := by
        split at valid
        · rename_i accessible
          rcases FileSystem.entryAt_of_test isDirectory with ⟨tree, found, _⟩
          have foundOpen : scan.unlocked.system.entryAt true scan.unlocked.root =
              .ok tree.unlocked := FileSystem.entryAt_unlocked_of_ok found
          simp only [FileSystem.isAccessible, found, Bool.and_eq_true] at accessible
          simp only [FileSystem.isAccessible, foundOpen, Bool.and_eq_true]
          exact ⟨FileSystem.canRead_unlocked accessible.1,
            FileSystem.canSearch_unlocked accessible.2⟩
        · cases valid
      simp [validateRoot, presentOpen, isDirectoryOpen, accessible]

/-- A walk that nothing but locked directories disturbs succeeds exactly if every directory that it
lists can be searched, and the links among its ignore files followed. It then finds, in the same
order, those of the files that it finds with all directories open to which the directories on the
way can be listed and searched. -/
theorem run_pastLockedDirectories (proper : scan.system.top.isProper = true)
    (valid : validateRoot scan.system scan.root = .ok ())
    (someFiles : scan.ignoreFiles ≠ []) (files : ∀ file ∈ scan.ignoreFiles, file.IsMember)
    (exclude : ∃ answer, scan.system.isFile? scan.excludePlace = .ok answer)
    (undisturbed : scan.unlocked.Undisturbed) :
    ((∃ found, scan.run.outcome = .ok found) ↔
      ∀ directory, scan.Reaches directory → scan.Opens directory → scan.CanBeAsked directory) ∧
    ∀ found, scan.run.outcome = .ok found →
      ∃ whole, scan.unlocked.run.outcome = .ok whole ∧
        found.records = whole.records.filter scan.hasOpenWay := by
  rcases isRoot_of_validateRoot proper valid with ⟨tree, isRoot⟩
  refine ⟨⟨?_, ?_⟩, ?_⟩
  · rintro ⟨found, succeeded⟩ directory reached opened
    have own := List.prefix_refl directory
    exact canBeAsked_of_answers (opened directory own) someFiles files
      (answersTo_of_run proper succeeded reached opened directory own)
  · intro asked
    have valid_of_unlocked : ∀ {place : Location},
        (∀ line ∈ scan.unlocked.linesAt place, isReversed line = false) →
        ∀ line ∈ scan.linesAt place, isReversed line = false := by
      intro place validOpen
      rcases @linesAt_cases_unlocked scan place with nothing | same
      · simp [nothing]
      · rwa [same]
    refine outcome_run_of_applies isRoot valid undisturbed.patterns exclude
      (valid_of_unlocked undisturbed.excludeLines) ?_
    intro directory reached opened file member
    have answers := answersTo_of_canBeAsked isRoot files exclude undisturbed asked reached opened
    have reachedOpen := reaches_unlocked isRoot files exclude reached answers
    rcases answers directory (List.prefix_refl directory) file member with ⟨answer, isFile⟩
    exact ⟨⟨answer, isFile⟩, exists_isLink isRoot reached (files file member) isFile,
      valid_of_unlocked (undisturbed.lines directory reachedOpen file member)⟩
  · intro found succeeded
    have properOpen : scan.unlocked.system.top.isProper = true := Entry.isProper_unlocked proper
    rcases outcome_run properOpen (validateRoot_unlocked valid) undisturbed with
      ⟨whole, wholeSucceeded⟩
    have below := found_of_run proper succeeded
    have wholeBelow := found_of_run properOpen wholeSucceeded
    refine ⟨whole, wholeSucceeded, eq_of_ordered below.ordered (wholeBelow.ordered.filter _) ?_⟩
    intro record
    rw [List.mem_filter, below.mem_iff, wholeBelow.mem_iff]
    exact yields_iff_unlocked isRoot files exclude fun _ reached opened =>
      answersTo_of_run proper succeeded reached opened

def treeWithDirectory (permission : Permission) : Entry :=
  .directory .newDirectory [
    ("a.ts", .file .newFile []),
    ("d", .directory permission [("b.ts", .file .newFile [])])]

def scanWithDirectory (permission : Permission) : Scan where
  system := ⟨.directory .newDirectory [("r", treeWithDirectory permission)], [], false⟩
  root := .ofText "/r"
  ignorePatterns := []
  ignoreFiles := [.ofText ".gitignore", .ofText ".ignore"]

private theorem unlocked_scanWithDirectory (permission : Permission) :
    (scanWithDirectory permission).unlocked = scanWithDirectory .newDirectory := rfl

theorem isRoot_scanWithDirectory (permission : Permission) :
    (scanWithDirectory permission).IsRoot (treeWithDirectory permission) := by
  rcases permission with ⟨canRead, canSearch⟩
  cases canRead <;> cases canSearch <;> exact ⟨rfl, rfl, by decide +kernel⟩

theorem undisturbed_scanWithDirectory : (scanWithDirectory .newDirectory).Undisturbed :=
  .of_directoryTrails (isRoot_scanWithDirectory .newDirectory) (by decide +kernel)
    (by decide +kernel) (by decide +kernel) (by decide +kernel) (by decide +kernel)

private theorem isMember_scanWithDirectory (permission : Permission) :
    ∀ file ∈ (scanWithDirectory permission).ignoreFiles, file.IsMember :=
  List.forall_mem_cons.mpr ⟨⟨".gitignore", by decide, by decide⟩,
    List.forall_mem_singleton.mpr ⟨".ignore", by decide, by decide⟩⟩

theorem run_pastLockedDirectories_unlisted :
    ∃ found whole, (scanWithDirectory ⟨false, true⟩).run.outcome = .ok found ∧
      (scanWithDirectory .newDirectory).run.outcome = .ok whole ∧
      .ofPath "d/b.ts" ∈ whole.records ∧ .ofPath "d/b.ts" ∉ found.records := by
  have asked : ∀ directory, (scanWithDirectory ⟨false, true⟩).Reaches directory →
      (scanWithDirectory ⟨false, true⟩).Opens directory →
      (scanWithDirectory ⟨false, true⟩).CanBeAsked directory := by
    intro directory reached opened
    rcases (isRoot_scanWithDirectory ⟨false, true⟩).at?_of_reaches reached with
      ⟨_, _, atDirectory⟩
    have inTree : directory ∈ [[], ["d"]] := Entry.mem_directoryTrails atDirectory rfl
    rcases List.mem_cons.mp inTree with rfl | closed
    · exact ⟨by decide +kernel, by decide +kernel⟩
    · rw [List.mem_singleton.mp closed] at opened
      rcases opened ["d"] (List.prefix_refl _) with ⟨members, listed⟩
      have refused : (scanWithDirectory ⟨false, true⟩).system.list
          ((scanWithDirectory ⟨false, true⟩).place ["d"]) = .error .denied := rfl
      rw [refused] at listed
      cases listed
  rcases @run_pastLockedDirectories (scanWithDirectory ⟨false, true⟩) (by decide +kernel)
      (by decide +kernel) (by decide) (isMember_scanWithDirectory _) ⟨false, by decide +kernel⟩
      undisturbed_scanWithDirectory with ⟨succeeds, content⟩
  rcases succeeds.mpr asked with ⟨found, succeeded⟩
  rcases content found succeeded with ⟨whole, wholeSucceeded, same⟩
  rw [unlocked_scanWithDirectory] at wholeSucceeded
  refine ⟨found, whole, succeeded, wholeSucceeded, ?_, ?_⟩
  · have below := found_of_run (by decide +kernel) wholeSucceeded
    have reached : (scanWithDirectory .newDirectory).Reaches ["d"] :=
      Reaches.concat_iff.mpr ⟨.nil, by decide, by decide, ⟨_, rfl, rfl⟩, by decide +kernel⟩
    refine (below.mem_iff _).mpr ⟨["d"], "b.ts", List.nil_prefix,
      undisturbed_scanWithDirectory.opens (isRoot_scanWithDirectory .newDirectory) reached, ?_,
      by decide +kernel⟩
    exact ⟨reached, by decide, by decide, ⟨_, rfl, rfl⟩, by decide +kernel⟩
  · rw [same, List.mem_filter]
    rintro ⟨_, openWay⟩
    have locked : (scanWithDirectory ⟨false, true⟩).hasOpenWay (.ofPath "d/b.ts") = false := by
      decide +kernel
    rw [locked] at openWay
    cases openWay

theorem run_fails_in_unsearchedDirectory :
    validateRoot (scanWithDirectory ⟨true, false⟩).system (scanWithDirectory ⟨true, false⟩).root =
        .ok () ∧
      (∃ whole, (scanWithDirectory ⟨true, false⟩).unlocked.run.outcome = .ok whole) ∧
      ∀ found, (scanWithDirectory ⟨true, false⟩).run.outcome ≠ .ok found := by
  refine ⟨by decide +kernel, outcome_run (by decide +kernel) (by decide +kernel)
    undisturbed_scanWithDirectory, ?_⟩
  intro found succeeded
  have reached : (scanWithDirectory ⟨true, false⟩).Reaches ["d"] :=
    Reaches.concat_iff.mpr
      ⟨.nil, by decide, by decide, ⟨_, rfl, rfl⟩, by decide +kernel⟩
  have opened : (scanWithDirectory ⟨true, false⟩).Opens ["d"] := by
    intro above before
    rcases List.prefix_concat_iff.mp (show above <+: [] ++ ["d"] from before) with rfl | inRoot
    · exact ⟨_, rfl⟩
    · rw [List.prefix_nil.mp inRoot]
      exact ⟨_, rfl⟩
  have answers := answersTo_of_run (by decide +kernel) succeeded reached opened
  rcases answers ["d"] (List.prefix_refl _) (.ofText ".gitignore") (by decide) with
    ⟨answer, answered⟩
  have denied : (scanWithDirectory ⟨true, false⟩).system.isFile?
      (((scanWithDirectory ⟨true, false⟩).place ["d"]).append (.ofText ".gitignore")) =
        .error .denied := by
    decide +kernel
  rw [denied] at answered
  cases answered

end Scan

end ImportAtlas
