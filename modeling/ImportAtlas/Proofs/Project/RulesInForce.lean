import ImportAtlas.Project.Walk
import ImportAtlas.Proofs.Ignore.Layers
import Mathlib.Data.List.Infix

/-! # Rules in force

The rules that hold in a directory come from the patterns of the configuration, from the file in
which Git keeps its own patterns, and from the ignore files of all directories from the root down
to this one. Main statements: these are the rules that a walk arrives with and goes on with.
-/

namespace ImportAtlas.Scan

open Ignore

variable {scan : Scan}

/-! ## Sources of rules -/

def linesAt (scan : Scan) (place : Location) : List Text.Coded :=
  match scan.system.readLines place with
  | .ok lines => lines
  | .error _ => []

def layerFrom (scan : Scan) (base : String) (place : Location) : Layer :=
  ⟨base, patternsOf (scan.linesAt place), place.text⟩

def rootLayers (scan : Scan) : List Layer :=
  ⟨"", patternsOf scan.ignorePatterns, "configuration"⟩ ::
    if scan.system.isFile? scan.excludePlace = .ok true then [scan.layerFrom "" scan.excludePlace]
    else []

def HoldsFile (scan : Scan) (place : Location) : Prop :=
  scan.system.isFile? place = .ok true ∧ scan.system.isLink? place = .ok false

instance (place : Location) : Decidable (scan.HoldsFile place) :=
  inferInstanceAs (Decidable (_ ∧ _))

def fileLayers (scan : Scan) (names : List String) (file : Location) : List Layer :=
  if scan.HoldsFile ((scan.place names).append file) then
    [scan.layerFrom (pathText names) ((scan.place names).append file)]
  else []

def ownLayers (scan : Scan) (names : List String) : List Layer :=
  scan.ignoreFiles.flatMap (scan.fileLayers names)

/-- The layers in force in a directory, from the lowest precedence to the highest: those that hold
everywhere, then those of the directories from the root down to it. -/
def layersAt (scan : Scan) (names : List String) : List Layer :=
  scan.rootLayers ++ names.inits.flatMap scan.ownLayers

def layersAbove (scan : Scan) (names : List String) : List Layer :=
  scan.rootLayers ++ names.inits.dropLast.flatMap scan.ownLayers

def rulesAt (scan : Scan) (names : List String) : Rules := ⟨scan.layersAt names⟩

theorem layersAbove_nil : scan.layersAbove [] = scan.rootLayers := by
  simp [layersAbove]

theorem layersAbove_concat (names : List String) (name : String) :
    scan.layersAbove (names ++ [name]) = scan.layersAt names := by
  simp [layersAbove, layersAt]

theorem layersAt_eq (names : List String) :
    scan.layersAt names = scan.layersAbove names ++ scan.ownLayers names := by
  cases names using List.reverseRecOn with
  | nil => simp [layersAt, layersAbove]
  | append_singleton names name => simp [layersAt, layersAbove]

/-! ## Rules that a walk puts together -/

theorem outcome_ignoreLines (place : Location) :
    (scan.ignoreLines place).outcome = .ok (scan.linesAt place) := by
  unfold ignoreLines linesAt
  cases scan.system.readLines place <;> simp [Except.bind]

theorem eq_of_addFile {layers : List Layer} {base : String} {place : Location} {extended : Rules}
    (added : (scan.addFile (.ofLayers layers) base place).outcome = .ok extended) :
    extended = .ofLayers (layers ++ [scan.layerFrom base place]) := by
  rcases Reported.outcome_bind_eq_ok_iff.mp added with ⟨lines, read, compiled⟩
  rw [outcome_ignoreLines, Except.ok.injEq] at read
  subst read
  exact Rules.eq_of_withLines (Reported.outcome_mapError_eq_ok_iff.mp compiled)

theorem eq_of_rootRules {rules : Rules} (given : scan.rootRules.outcome = .ok rules) :
    rules = .ofLayers scan.rootLayers := by
  rcases Reported.outcome_bind_eq_ok_iff.mp given with ⟨configured, compiled, extended⟩
  have noLayers : Rules.empty = .ofLayers [] := rfl
  rw [noLayers, Reported.outcome_mapError_eq_ok_iff] at compiled
  rw [Rules.eq_of_withLines compiled] at extended
  unfold rootLayers
  split at extended
  · simp [refused, Reported.fail] at extended
  · rename_i absent
    rw [Reported.outcome_pure, Except.ok.injEq] at extended
    rw [← extended, absent, if_neg (by simp), List.nil_append]
  · rename_i present
    rw [eq_of_addFile extended, present, if_pos rfl]
    rfl

private theorem eq_of_ignoreFileRules {layers : List Layer} {names : List String} {file : Location}
    {extended : Rules}
    (given : (scan.ignoreFileRules names (.ofLayers layers) file).outcome = .ok extended) :
    extended = .ofLayers (layers ++ scan.fileLayers names file) := by
  unfold ignoreFileRules at given
  unfold fileLayers
  by_cases held : scan.HoldsFile ((scan.place names).append file)
  · simp only [held.1, held.2] at given
    rw [if_pos held]
    exact eq_of_addFile given
  · have unchanged : extended = .ofLayers layers := by
      cases isFile : scan.system.isFile? ((scan.place names).append file) with
      | error cause => simp [isFile, refused, Reported.fail] at given
      | ok answer =>
          cases answer with
          | false => simpa [isFile, eq_comm] using given
          | true =>
              cases isLink : scan.system.isLink? ((scan.place names).append file) with
              | error cause => simp [isFile, isLink, refused, Reported.fail] at given
              | ok linked =>
                  cases linked with
                  | false => exact absurd ⟨isFile, isLink⟩ held
                  | true => simpa [isFile, isLink, eq_comm] using given
    rw [if_neg held, List.append_nil, unchanged]

theorem eq_of_directoryRules {layers : List Layer} {names : List String} {files : List Location}
    {extended : Rules}
    (given : (scan.directoryRules names (.ofLayers layers) files).outcome = .ok extended) :
    extended = .ofLayers (layers ++ files.flatMap (scan.fileLayers names)) := by
  induction files generalizing layers with
  | nil =>
      rw [directoryRules, Reported.outcome_pure, Except.ok.injEq] at given
      rw [List.flatMap_nil, List.append_nil, given]
  | cons file rest induction =>
      rcases Reported.outcome_bind_eq_ok_iff.mp given with ⟨rules, first, others⟩
      rw [eq_of_ignoreFileRules first] at others
      rw [induction others, List.flatMap_cons, List.append_assoc]

/-! ## Rules that can be put together -/

theorem exists_addFile_iff {rules : Rules} {base : String} {place : Location} :
    (∃ extended, (scan.addFile rules base place).outcome = .ok extended) ↔
      ∀ line ∈ scan.linesAt place, isReversed line = false := by
  have compiles : (scan.addFile rules base place).outcome =
      (rules.withLines base (scan.linesAt place) place.text).outcome.mapError .pattern := by
    rw [addFile, Reported.outcome_bind, outcome_ignoreLines]
    rfl
  rw [← @Rules.exists_withLines_iff rules base place.text, compiles]
  cases (rules.withLines base (scan.linesAt place) place.text).outcome <;> simp [Except.mapError]

theorem exists_rootRules_iff : (∃ rules, scan.rootRules.outcome = .ok rules) ↔
    (∀ line ∈ scan.ignorePatterns, isReversed line = false) ∧
      ∃ isFile, scan.system.isFile? scan.excludePlace = .ok isFile ∧
        (isFile = true → ∀ line ∈ scan.linesAt scan.excludePlace, isReversed line = false) := by
  constructor
  · rintro ⟨rules, given⟩
    rcases Reported.outcome_bind_eq_ok_iff.mp given with ⟨configured, compiled, extended⟩
    refine ⟨Rules.exists_withLines_iff.mp ⟨_, Reported.outcome_mapError_eq_ok_iff.mp compiled⟩, ?_⟩
    cases answer : scan.system.isFile? scan.excludePlace with
    | error cause => simp [answer, refused, Reported.fail] at extended
    | ok isFile =>
        refine ⟨isFile, rfl, ?_⟩
        rintro rfl
        simp only [answer] at extended
        exact exists_addFile_iff.mp ⟨rules, extended⟩
  · rintro ⟨patternsValid, isFile, answer, excludeValid⟩
    have configured := Rules.empty.outcome_withLines_eq_push "" "configuration" patternsValid
    refine Reported.exists_outcome_bind (Reported.outcome_mapError_eq_ok_iff.mpr configured) ?_
    cases isFile with
    | false => simp [answer]
    | true =>
        simp only [answer]
        exact exists_addFile_iff.mpr (excludeValid rfl)

/-- Whether rules can be extended by an ignore file of a directory: it can be told whether it is a
regular file there, and in this case it can be compiled. -/
def Applies (scan : Scan) (names : List String) (file : Location) : Prop :=
  ∃ isFile, scan.system.isFile? ((scan.place names).append file) = .ok isFile ∧
    (isFile = true → ∃ isLink, scan.system.isLink? ((scan.place names).append file) = .ok isLink ∧
      (isLink = false →
        ∀ line ∈ scan.linesAt ((scan.place names).append file), isReversed line = false))

structure CanApply (scan : Scan) (names : List String) (file : Location) : Prop where
  isFile : ∃ answer, scan.system.isFile? ((scan.place names).append file) = .ok answer
  isLink : ∃ answer, scan.system.isLink? ((scan.place names).append file) = .ok answer
  valid : ∀ line ∈ scan.linesAt ((scan.place names).append file), isReversed line = false

theorem CanApply.applies {names : List String} {file : Location}
    (canApply : scan.CanApply names file) : scan.Applies names file := by
  rcases canApply.isFile with ⟨isFile, fileAnswer⟩
  rcases canApply.isLink with ⟨isLink, linkAnswer⟩
  exact ⟨isFile, fileAnswer, fun _ => ⟨isLink, linkAnswer, fun _ => canApply.valid⟩⟩

/-- Whether the rules in force in a directory can be put together. -/
def HasRules (scan : Scan) (names : List String) : Prop :=
  ∀ file ∈ scan.ignoreFiles, scan.Applies names file

private theorem exists_ignoreFileRules_iff {rules : Rules} {names : List String} {file : Location} :
    (∃ extended, (scan.ignoreFileRules names rules file).outcome = .ok extended) ↔
      scan.Applies names file := by
  unfold ignoreFileRules Applies
  cases fileAnswer : scan.system.isFile? ((scan.place names).append file) with
  | error cause => simp [fileAnswer, refused, Reported.fail]
  | ok isFile =>
      cases isFile with
      | false => simp [fileAnswer]
      | true =>
          cases linkAnswer : scan.system.isLink? ((scan.place names).append file) with
          | error cause => simp [fileAnswer, linkAnswer, refused, Reported.fail]
          | ok isLink =>
              cases isLink with
              | true => simp [fileAnswer, linkAnswer]
              | false => simpa [fileAnswer, linkAnswer] using exists_addFile_iff

theorem exists_directoryRules_iff {rules : Rules} {names : List String} {files : List Location} :
    (∃ extended, (scan.directoryRules names rules files).outcome = .ok extended) ↔
      ∀ file ∈ files, scan.Applies names file := by
  induction files generalizing rules with
  | nil => simp [directoryRules]
  | cons file rest induction =>
      rw [List.forall_mem_cons, ← @exists_ignoreFileRules_iff scan rules]
      constructor
      · rintro ⟨extended, given⟩
        rcases Reported.outcome_bind_eq_ok_iff.mp given with ⟨next, first, others⟩
        exact ⟨⟨next, first⟩, induction.mp ⟨extended, others⟩⟩
      · rintro ⟨⟨next, first⟩, others⟩
        exact Reported.exists_outcome_bind first (induction.mpr others)

theorem isIgnored_ofLayersAt (names : List String) (path : String) (isDirectory : Bool) :
    (Rules.ofLayers (scan.layersAt names)).isIgnored path isDirectory =
      (scan.rulesAt names).isIgnored path isDirectory :=
  Rules.isIgnored_ofLayers (scan.layersAt names) path isDirectory

end ImportAtlas.Scan
