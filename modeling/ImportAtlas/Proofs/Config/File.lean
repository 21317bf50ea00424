import ImportAtlas.Config.File
import ImportAtlas.Project.Walk
import ImportAtlas.Proofs.Config.Entries
import ImportAtlas.Proofs.FileSystem.Lookup
import Mathlib.Control.Monad.Basic

/-! # What a configuration file comes to

Entries that fit a parameter give it its datum, the last one counting, and every other entry is
reported. Main statement: a configuration file fails only for a scalar without a value, for bytes
that are not UTF-8, and for an entry that is to be reported and cannot be shown; otherwise each
parameter has its default or the last datum that the file gives for it and that it accepts.
-/

namespace ImportAtlas.Config

variable {room : Nat}

/-! ## Entries -/

def IsReportable (room : Nat) (entry : Datum × Datum) : Prop :=
  match parameterOf? entry.1 with
  | none => entry.1.firstFault room = none
  | some parameter => parameter.Accepts entry.2 ∨ entry.2.firstFault room = none

def entryFor? (parameter : Parameter) (entry : Datum × Datum) : Option Datum :=
  if parameterOf? entry.1 = some parameter ∧ (default.set? parameter entry.2).isSome then
    some entry.2
  else none

def given? (parameter : Parameter) (entries : List (Datum × Datum)) : Option Datum :=
  (entries.filterMap (entryFor? parameter)).getLast?

theorem entryFor?_eq_some_iff {parameter : Parameter} {entry : Datum × Datum} {value : Datum} :
    entryFor? parameter entry = some value ↔
      entry = (.text parameter.name, value) ∧ parameter.Accepts value := by
  rcases entry with ⟨key, given⟩
  simp only [entryFor?, Option.isSome_iff_exists, exists_set?_iff, parameterOf?_eq_some_iff,
    Option.ite_none_right_eq_some, Option.some.injEq, Prod.mk.injEq]
  constructor
  · rintro ⟨⟨named, accepted⟩, rfl⟩
    exact ⟨⟨named, rfl⟩, accepted⟩
  · rintro ⟨⟨named, rfl⟩, accepted⟩
    exact ⟨⟨named, accepted⟩, rfl⟩

private theorem entryFor?_of_unfit {parameter own : Parameter} {entry : Datum × Datum}
    (known : parameterOf? entry.1 = some own) (unfit : ¬own.Accepts entry.2) :
    entryFor? parameter entry = none := by
  rw [Option.eq_none_iff_forall_ne_some]
  intro value given
  rcases entryFor?_eq_some_iff.mp given with ⟨rfl, accepted⟩
  obtain rfl : parameter = own := Option.some.inj ((parameterOf?_name parameter).symm.trans known)
  exact unfit accepted

private theorem entryFor?_of_set? {config changed : Config} {own : Parameter}
    {entry : Datum × Datum}
    (known : parameterOf? entry.1 = some own) (set : config.set? own entry.2 = some changed)
    (parameter : Parameter) :
    changed.get parameter = (entryFor? parameter entry).getD (config.get parameter) := by
  rcases entry with ⟨key, value⟩
  obtain rfl : key = .text own.name := parameterOf?_eq_some_iff.mp known
  by_cases same : parameter = own
  · subst same
    rw [entryFor?_eq_some_iff.mpr ⟨rfl, exists_set?_iff.mp ⟨changed, set⟩⟩, get_of_set? set]
    rfl
  · have other : entryFor? parameter (.text own.name, value) = none := by
      rw [entryFor?, if_neg]
      rintro ⟨named, _⟩
      exact same (Option.some.inj (named.symm.trans known))
    rw [other, get_of_set?_of_ne set same]
    rfl

private theorem outcome_reportAbout (datum : Datum) (event : Log.Event) :
    (reportAbout room datum event).outcome =
      match datum.firstFault room with
      | none => .ok ()
      | some fault => .error (.unshown fault) := by
  unfold reportAbout
  cases datum.firstFault room <;> rfl

theorem outcome_mergeEntry (room : Nat) (config : Config) (entry : Datum × Datum) :
    (∃ fault, (mergeEntry room config entry).outcome = .error (.unshown fault)) ∧
        ¬IsReportable room entry ∨
      ∃ merged, (mergeEntry room config entry).outcome = .ok merged ∧ IsReportable room entry ∧
        ∀ parameter, merged.get parameter =
          (entryFor? parameter entry).getD (config.get parameter) := by
  unfold mergeEntry IsReportable
  cases known : parameterOf? entry.1 with
  | none =>
      have nothing : ∀ parameter, entryFor? parameter entry = none := by
        simp [entryFor?, known]
      cases shown : entry.1.firstFault room with
      | none => exact Or.inr ⟨config, by simp [outcome_reportAbout, shown, Except.bind], rfl,
          by simp [nothing]⟩
      | some fault =>
          exact Or.inl ⟨⟨fault, by simp [outcome_reportAbout, shown, Except.bind]⟩, nofun⟩
  | some own =>
      cases set : config.set? own entry.2 with
      | none =>
          have unfit := set?_eq_none_iff.mp set
          have nothing : ∀ parameter, entryFor? parameter entry = none := fun _ =>
            entryFor?_of_unfit known unfit
          cases shown : entry.2.firstFault room with
          | none => exact Or.inr ⟨config, by simp [set, outcome_reportAbout, shown, Except.bind],
              Or.inr rfl, by simp [nothing]⟩
          | some fault =>
              exact Or.inl ⟨⟨fault, by simp [set, outcome_reportAbout, shown, Except.bind]⟩,
                by simp [unfit]⟩
      | some changed =>
          exact Or.inr ⟨changed, by simp [set], Or.inl (exists_set?_iff.mp ⟨changed, set⟩),
            entryFor?_of_set? known set⟩

theorem merge_ok_iff {config : Config} {entries : List (Datum × Datum)} :
    (∃ merged, (merge room config entries).outcome = .ok merged) ↔
      ∀ entry ∈ entries, IsReportable room entry := by
  induction entries generalizing config with
  | nil => exact iff_of_true ⟨config, rfl⟩ (by simp)
  | cons entry rest induction =>
      rw [List.forall_mem_cons]
      rcases outcome_mergeEntry room config entry with
        ⟨⟨fault, failed⟩, notReportable⟩ | ⟨first, merged, fine, _⟩
      · simp [merge, failed, Except.bind, notReportable]
      · rw [← @induction first]
        simp [merge, merged, Except.bind, fine]

theorem get_of_merge {config merged : Config} {entries : List (Datum × Datum)}
    (succeeded : (merge room config entries).outcome = .ok merged) (parameter : Parameter) :
    merged.get parameter = (given? parameter entries).getD (config.get parameter) := by
  induction entries generalizing config with
  | nil =>
      rw [merge, Reported.outcome_pure, Except.ok.injEq] at succeeded
      rw [succeeded]
      rfl
  | cons entry rest induction =>
      rcases Reported.outcome_bind_eq_ok_iff.mp succeeded with ⟨first, entryMerged, restMerged⟩
      rw [induction restMerged]
      rcases outcome_mergeEntry room config entry with
        ⟨⟨fault, failed⟩, _⟩ | ⟨other, merged, _, after⟩
      · rw [failed] at entryMerged
        cases entryMerged
      · rw [merged, Except.ok.injEq] at entryMerged
        rw [← entryMerged, after, given?, given?, List.filterMap_cons]
        cases entryFor? parameter entry with
        | none => rfl
        | some value => simp [List.getLast?_cons]

theorem mem_of_given? {parameter : Parameter} {entries : List (Datum × Datum)} {value : Datum}
    (given : given? parameter entries = some value) :
    (.text parameter.name, value) ∈ entries ∧ parameter.Accepts value := by
  rcases List.mem_filterMap.mp (List.mem_of_getLast? given) with ⟨entry, member, own⟩
  rcases entryFor?_eq_some_iff.mp own with ⟨rfl, accepted⟩
  exact ⟨member, accepted⟩

/-! ## Files -/

def entriesOf : Datum → List (Datum × Datum)
  | .mapping entries => entries
  | _ => []

/-- Whether a text gives a configuration: it is no document at all, or a document of which every
entry fits or can be reported. -/
def IsLoadable (limits : Limits) (text : Text.Portioned) : Prop :=
  match Yaml.read limits text with
  | .error fault => fault = .malformed
  | .ok document => ∀ entry ∈ entriesOf document, IsReportable limits.shown entry

/-- What the file at a place gives for a parameter, if it can be read and is a document. -/
def fileGives? (limits : Limits) (system : FileSystem) (place : Location) (parameter : Parameter) :
    Option Datum :=
  match (system.readPortions place).map (Yaml.read limits) with
  | .ok (.ok document) => given? parameter (entriesOf document)
  | _ => none

private theorem ofDocument_ok_iff {place : Location} {document : Datum} :
    (∃ config, (ofDocument room place document).outcome = .ok config) ↔
      ∀ entry ∈ entriesOf document, IsReportable room entry := by
  cases document with
  | mapping entries => exact merge_ok_iff
  | _ => simp [ofDocument, entriesOf, Except.bind]

private theorem get_of_ofDocument {place : Location} {document : Datum} {config : Config}
    (succeeded : (ofDocument room place document).outcome = .ok config) (parameter : Parameter) :
    config.get parameter =
      (given? parameter (entriesOf document)).getD (default.get parameter) := by
  cases document with
  | mapping entries => exact get_of_merge succeeded parameter
  | _ =>
      simp only [ofDocument, Reported.outcome_bind, Reported.outcome_report, Except.bind,
        Reported.outcome_pure, Except.ok.injEq] at succeeded
      rw [← succeeded]
      rfl

private theorem exists_of_fileGives? {limits : Limits} {system : FileSystem} {place : Location}
    {parameter : Parameter} {value : Datum}
    (given : fileGives? limits system place parameter = some value) :
    ∃ text document, system.readPortions place = .ok text ∧ Yaml.read limits text = .ok document ∧
      (.text parameter.name, value) ∈ entriesOf document ∧ parameter.Accepts value := by
  unfold fileGives? at given
  cases found : system.readPortions place with
  | error cause => simp [found, Except.map] at given
  | ok text =>
      cases read : Yaml.read limits text with
      | error fault => simp [found, read, Except.map] at given
      | ok document =>
          simp only [found, read, Except.map] at given
          exact ⟨text, document, rfl, read, mem_of_given? given⟩

private theorem load_of_answered {limits : Limits} {system : FileSystem} {place : Location}
    {present : Bool} (answered : system.exists? place = .ok present) :
    ((∃ config, (load limits system place).outcome = .ok config) ↔
      ∀ bytes, system.read place = .ok bytes → IsLoadable limits (.ofBytes bytes)) ∧
    ∀ config, (load limits system place).outcome = .ok config → ∀ parameter,
      config.get parameter =
        (fileGives? limits system place parameter).getD (default.get parameter) := by
  unfold load fileGives? FileSystem.readPortions
  rw [answered]
  cases content : system.read place with
  | error cause =>
      cases present <;> simp [Except.map, Except.bind]
  | ok bytes =>
      obtain rfl : present = true := by
        rw [FileSystem.exists?_of_read content, Except.ok.injEq] at answered
        exact answered.symm
      simp only [Except.map, IsLoadable, Except.ok.injEq, forall_eq']
      cases read : Yaml.read limits (.ofBytes bytes) with
      | ok document => exact ⟨ofDocument_ok_iff, fun _ => get_of_ofDocument⟩
      | error fault =>
          cases fault with
          | malformed =>
              simp [Except.bind]
          | _ => simp [Reported.fail]

/-- A configuration file can be loaded exactly if it cannot be read or its text is loadable. Each
parameter then has what the file gives for it, or else its default. What the file gives is as it
stands in the document, and accepted by the parameter. -/
theorem loadForRoot_exact (limits : Limits) {system : FileSystem} {root : Location}
    {present : Bool} (answered : system.exists? (root.child fileName) = .ok present) :
    ((∃ config, (loadForRoot limits system root).outcome = .ok config) ↔
      ∀ bytes, system.read (root.child fileName) = .ok bytes →
        IsLoadable limits (.ofBytes bytes)) ∧
    (∀ config, (loadForRoot limits system root).outcome = .ok config → ∀ parameter,
      config.get parameter =
        (fileGives? limits system (root.child fileName) parameter).getD
          (default.get parameter)) ∧
    ∀ parameter value, fileGives? limits system (root.child fileName) parameter = some value →
      ∃ text document, system.readPortions (root.child fileName) = .ok text ∧
        Yaml.read limits text = .ok document ∧
        (.text parameter.name, value) ∈ entriesOf document ∧ parameter.Accepts value := by
  rcases load_of_answered answered with ⟨loads, holds⟩
  exact ⟨loads, holds, fun _ _ => exists_of_fileGives?⟩

def configuredRoot (bytes : List UInt8) : FileSystem where
  top := .directory .newDirectory
    [("r", .directory .newDirectory [(fileName, .file .newFile bytes)])]
  workingDirectory := []
  isPrivileged := false

theorem loadForRoot_exact_unfitEntry :
    let bytes := "read_manifest: 1\nignore_files: [a, \"\\uD83D\"]\n".toList.map Char.toUInt8
    let limits : Limits := ⟨9, 9, 9, 9, 9⟩
    IsLoadable limits (.ofBytes bytes) ∧
      (fileGives? limits (configuredRoot bytes) (.child (.ofText "/r") fileName)
          .readManifest).getD (default.get .readManifest) = .bool true ∧
      (fileGives? limits (configuredRoot bytes) (.child (.ofText "/r") fileName)
          .ignoreFiles).getD (default.get .ignoreFiles) =
        .list [.text "a", .text [.half 0x3D]] := by
  intro bytes limits
  have answered : (configuredRoot bytes).exists? (.child (.ofText "/r") fileName) = .ok true := by
    decide +kernel
  have content : (configuredRoot bytes).read (.child (.ofText "/r") fileName) = .ok bytes := by
    decide +kernel
  have succeeded : (loadForRoot limits (configuredRoot bytes) (.ofText "/r")).outcome =
      .ok { default with ignoreFiles := ["a", [.half 0x3D]] } := by
    decide +kernel
  rcases loadForRoot_exact limits answered with ⟨succeeds, given, _⟩
  exact ⟨succeeds.mp ⟨_, succeeded⟩ bytes content, (given _ succeeded .readManifest).symm,
    (given _ succeeded .ignoreFiles).symm⟩

private theorem read_of_fault (limits : Limits) {text : Text.Portioned} {fault : Yaml.Fault}
    (lexed : Yaml.refuseNames [] (Yaml.tokens (.ofText text)) = [.fault fault]) :
    Yaml.read limits text = .error fault := by
  have parsed : Yaml.parseDocument limits.yaml [.fault fault] = .error fault := by
    rw [Yaml.parseDocument, Yaml.parseNode]
    · simp [Yaml.aliasName?, Yaml.parseProperties, Yaml.parseContent]
      rfl
    all_goals simp
  rw [Yaml.read, lexed, parsed]

theorem loadForRoot_fails_of_undecodableFile :
    Scan.validateRoot (configuredRoot [0xFF]) (.ofText "/r") = .ok () ∧
      (configuredRoot [0xFF]).read (.child (.ofText "/r") fileName) = .ok [0xFF] ∧
      ∀ limits config,
        (loadForRoot limits (configuredRoot [0xFF]) (.ofText "/r")).outcome ≠ .ok config := by
  have failed : ∀ limits, (loadForRoot limits (configuredRoot [0xFF]) (.ofText "/r")).outcome =
      .error (.undecodable ⟨0, 0xFF, 1, .invalidStart⟩) := by
    intro limits
    have answered : (configuredRoot [0xFF]).exists? (.child (.ofText "/r") fileName) =
        .ok true := by
      decide +kernel
    have content : (configuredRoot [0xFF]).readPortions (.child (.ofText "/r") fileName) =
        .ok (.ofBytes [0xFF]) := by
      decide +kernel
    have unread : Yaml.read limits (.ofBytes [0xFF]) =
        .error (.undecodable ⟨0, 0xFF, 1, .invalidStart⟩) :=
      read_of_fault limits (by decide +kernel)
    rw [loadForRoot, load, answered, content]
    simp only [unread]
    rfl
  refine ⟨by decide +kernel, by decide +kernel, ?_⟩
  intro limits config succeeded
  rw [failed] at succeeded
  cases succeeded

end ImportAtlas.Config
