import ImportAtlas.Proofs.Config.File
import Mathlib.Data.List.Pairwise

/-! # Strict and lenient reading

The entries of a mapping are read in two ways: one refuses the first entry that does not fit, the
other reports such entries and passes over them. Main statement: where the strict reading gives a
configuration, the lenient one gives the same, and otherwise it gives what the fitting entries say,
in whatever order they come.
-/

namespace ImportAtlas.Config

open Text (Coded)

open scoped Reported

variable {room : Nat}

/-! ## Strict reading -/

theorem exists_foldlM_iff {config : Config} {entries : List (Datum × Datum)} :
    (∃ result, entries.foldlM (enter room) config = .ok result) ↔
      ∀ entry ∈ entries, IsFitting entry := by
  induction entries generalizing config with
  | nil => exact iff_of_true ⟨config, rfl⟩ nofun
  | cons entry rest induction =>
      rw [List.forall_mem_cons, List.foldlM_cons, ← @exists_enter_iff room config]
      cases entered : enter room config entry with
      | error fault => simp [bind, Except.bind]
      | ok changed =>
          rw [← @induction changed]
          simp [bind, Except.bind]

theorem foldlM_eq_error_iff {config : Config} {entries : List (Datum × Datum)} {fault : Fault} :
    entries.foldlM (enter room) config = .error fault ↔
      ∃ before entry after, entries = before ++ entry :: after ∧
        (∀ earlier ∈ before, IsFitting earlier) ∧ IsRefused room entry fault := by
  constructor
  · intro refused
    induction entries generalizing config with
    | nil => cases refused
    | cons entry rest induction =>
        rw [List.foldlM_cons] at refused
        cases entered : enter room config entry with
        | error other =>
            rw [entered] at refused
            obtain rfl : other = fault := Except.error.inj refused
            exact ⟨[], entry, rest, rfl, nofun, enter_eq_error_iff.mp entered⟩
        | ok changed =>
            rw [entered] at refused
            rcases induction refused with ⟨before, later, after, rfl, fitting, isRefused⟩
            refine ⟨entry :: before, later, after, rfl, ?_, isRefused⟩
            exact List.forall_mem_cons.mpr ⟨exists_enter_iff.mp ⟨changed, entered⟩, fitting⟩
  · rintro ⟨before, entry, after, rfl, fitting, isRefused⟩
    rcases (@exists_foldlM_iff room config).mpr fitting with ⟨reached, read⟩
    rw [List.foldlM_append, read]
    have refused : enter room reached entry = .error fault := enter_eq_error_iff.mpr isRefused
    simp [bind, Except.bind, refused]

/-! ## Lenient reading -/

private theorem isReportable_iff {entry : Datum × Datum} :
    IsReportable room entry ↔ ∀ fault, ¬IsRefused room entry (.unshown fault) := by
  simp only [← @enter_eq_error_iff room default]
  unfold IsReportable enter Fault.about
  cases parameterOf? entry.1 with
  | none => cases shown : entry.1.firstFault room <;> simp
  | some parameter =>
      simp only [← @exists_set?_iff default]
      cases set : default.set? parameter entry.2 with
      | none => cases shown : entry.2.firstFault room <;> simp
      | some changed => simp

theorem exists_merge_iff {config : Config} {entries : List (Datum × Datum)} :
    (∃ merged, (merge room config entries).outcome = .ok merged) ↔
      ∀ entry ∈ entries, ∀ fault, ¬IsRefused room entry (.unshown fault) := by
  simp only [merge_ok_iff, isReportable_iff]

private theorem mergeEntry_of_enter {config changed : Config} {entry : Datum × Datum}
    (entered : enter room config entry = .ok changed) (lenientRoom : Nat) :
    mergeEntry lenientRoom config entry = pure changed := by
  rcases enter_eq_ok_iff.mp entered with ⟨parameter, named, set⟩
  simp [mergeEntry, named, set]

theorem merge_of_foldlM {config result : Config} {entries : List (Datum × Datum)}
    (read : entries.foldlM (enter room) config = .ok result) (lenientRoom : Nat) :
    merge lenientRoom config entries = pure result := by
  induction entries generalizing config with
  | nil => exact congrArg pure (Except.ok.inj read)
  | cons entry rest induction =>
      rw [List.foldlM_cons] at read
      cases entered : enter room config entry with
      | error fault =>
          rw [entered] at read
          cases read
      | ok changed =>
          rw [entered] at read
          rw [merge, mergeEntry_of_enter entered lenientRoom, pure_bind]
          exact induction read

/-! ## Mappings -/

def IsMapping (entries : List (Datum × Datum)) : Prop :=
  entries.Pairwise fun entry other => entry.1.isSameKey other.1 = false

instance (entries : List (Datum × Datum)) : Decidable (IsMapping entries) :=
  inferInstanceAs (Decidable (entries.Pairwise _))

def NamesApart (entry other : Datum × Datum) : Prop :=
  ∀ parameter : Parameter, entry.1 = .text parameter.name → other.1 ≠ .text parameter.name

instance : Std.Symm NamesApart where
  symm _ _ apart parameter named otherNamed := apart parameter otherNamed named

theorem IsMapping.namesApart {entries : List (Datum × Datum)} (isMapping : IsMapping entries) :
    entries.Pairwise NamesApart := by
  refine List.Pairwise.imp ?_ isMapping
  intro entry other different parameter named otherNamed
  rw [named, otherNamed] at different
  simp [Datum.isSameKey] at different

theorem eq_of_namesApart {entries : List (Datum × Datum)} (apart : entries.Pairwise NamesApart)
    {parameter : Parameter} {value other : Datum} (member : (.text parameter.name, value) ∈ entries)
    (otherMember : (.text parameter.name, other) ∈ entries) : value = other := by
  by_contra different
  have entriesDiffer : (Datum.text parameter.name, value) ≠ (Datum.text parameter.name, other) :=
    fun equal => different (congrArg Prod.snd equal)
  exact apart.forall member otherMember entriesDiffer parameter rfl rfl

private theorem given?_eq_some_iff {entries : List (Datum × Datum)}
    (apart : entries.Pairwise NamesApart)
    {parameter : Parameter} {value : Datum} :
    given? parameter entries = some value ↔
      (.text parameter.name, value) ∈ entries ∧ parameter.Accepts value := by
  refine ⟨mem_of_given?, fun ⟨member, accepted⟩ => ?_⟩
  -- The last fitting entry counts, and there is only this one for the parameter.
  have own : entryFor? parameter (.text parameter.name, value) = some value :=
    entryFor?_eq_some_iff.mpr ⟨rfl, accepted⟩
  cases given : given? parameter entries with
  | none =>
      rw [given?, List.getLast?_eq_none_iff] at given
      have inside := List.mem_filterMap.mpr ⟨_, member, own⟩
      rw [given] at inside
      cases inside
  | some other => rw [eq_of_namesApart apart member (mem_of_given? given).1]

/-! ## What a mapping says -/

private theorem sizeDatum_injective : Function.Injective sizeDatum := by
  intro size other same
  cases size <;> cases other <;> simp [sizeDatum] at same ⊢
  exact_mod_cast same

private theorem eq_of_get {left right : Config}
    (same : ∀ parameter, left.get parameter = right.get parameter) : left = right := by
  have textsSame : ∀ {texts others : List Coded},
      Datum.list (texts.map .text) = .list (others.map .text) → texts = others := by
    intro texts others same
    exact List.map_inj_right (fun _ _ => Datum.text.inj) |>.mp (Datum.list.inj same)
  have patterns := textsSame (same .ignorePatterns)
  have files := textsSame (same .ignoreFiles)
  have filename := Datum.text.inj (same .manifestFilename)
  have read := Datum.bool.inj (same .readManifest)
  have size := sizeDatum_injective (same .maxFileSizeKb)
  cases left
  cases right
  congr

/-- Whether each parameter has the datum that entries give for it, or its default where they give
none that it accepts. -/
def Follows (config : Config) (entries : List (Datum × Datum)) : Prop :=
  ∀ parameter : Parameter,
    (∀ value, (.text parameter.name, value) ∈ entries → parameter.Accepts value →
      config.get parameter = value) ∧
    ((∀ value, (.text parameter.name, value) ∈ entries → ¬parameter.Accepts value) →
      config.get parameter = default.get parameter)

theorem follows_of_merge {config : Config} {entries : List (Datum × Datum)}
    (apart : entries.Pairwise NamesApart)
    (merged : (merge room default entries).outcome = .ok config) :
    config.Follows entries := by
  intro parameter
  constructor
  · intro value member accepted
    rw [get_of_merge merged, (given?_eq_some_iff apart).mpr ⟨member, accepted⟩]
    rfl
  · intro noneAccepted
    rw [get_of_merge merged]
    cases given : given? parameter entries with
    | none => rfl
    | some made =>
        rcases (given?_eq_some_iff apart).mp given with ⟨member, accepted⟩
        exact absurd accepted (noneAccepted made member)

theorem Follows.unique {left right : Config} {entries : List (Datum × Datum)}
    (leftFollows : left.Follows entries) (rightFollows : right.Follows entries) : left = right := by
  refine eq_of_get fun parameter => ?_
  by_cases given : ∃ value, (.text parameter.name, value) ∈ entries ∧ parameter.Accepts value
  · rcases given with ⟨value, member, accepted⟩
    rw [(leftFollows parameter).1 value member accepted,
      (rightFollows parameter).1 value member accepted]
  · have noneAccepted : ∀ value, (.text parameter.name, value) ∈ entries →
        ¬parameter.Accepts value :=
      fun value member accepted => given ⟨value, member, accepted⟩
    rw [(leftFollows parameter).2 noneAccepted, (rightFollows parameter).2 noneAccepted]

theorem Follows.of_perm {config : Config} {entries others : List (Datum × Datum)}
    (follows : config.Follows entries) (permuted : entries.Perm others) :
    config.Follows others := by
  intro parameter
  simp only [← permuted.mem_iff]
  exact follows parameter

private theorem merge_perm {config : Config} {entries others : List (Datum × Datum)}
    (apart : entries.Pairwise NamesApart) (permuted : entries.Perm others)
    (merged : (merge room default entries).outcome = .ok config) :
    (merge room default others).outcome = .ok config := by
  -- Whether the reading succeeds and what it follows both depend on the members alone.
  have reportable : ∀ entry ∈ others, ∀ fault, ¬IsRefused room entry (.unshown fault) := by
    simp only [← permuted.mem_iff]
    exact exists_merge_iff.mp ⟨config, merged⟩
  rcases (@exists_merge_iff room default).mpr reportable with ⟨other, otherMerged⟩
  have othersApart : others.Pairwise NamesApart :=
    (permuted.pairwise_iff fun {_ _} apart => Std.Symm.symm _ _ apart).mp apart
  have otherFollows := follows_of_merge othersApart otherMerged
  have follows := (follows_of_merge apart merged).of_perm permuted
  rw [otherMerged, otherFollows.unique follows]

/-! ## Sound configurations -/

/-- What a configuration holds can be used as it stands. -/
structure IsSound (config : Config) : Prop where
  pattern_nonempty : ∀ pattern ∈ config.ignorePatterns, pattern ≠ []
  fileName_nonempty : ∀ name ∈ config.ignoreFiles, name ≠ []
  filename_not_blank : config.manifestFilename.isBlank = false
  size_pos : ∀ size, config.maxFileSize = some size → 0 < size ∧ 1024 ∣ size

private theorem isSound_default : default.IsSound where
  pattern_nonempty := by decide
  fileName_nonempty := by decide
  filename_not_blank := by decide
  size_pos := nofun

theorem IsSound.set? {config changed : Config} (sound : config.IsSound) {parameter : Parameter}
    {value : Datum} (given : config.set? parameter value = some changed) : changed.IsSound := by
  cases parameter <;> simp only [Config.set?, Option.map_eq_some_iff] at given <;>
    rcases given with ⟨fitting, found, rfl⟩
  case ignorePatterns =>
    exact { sound with pattern_nonempty := (texts?_eq_some_iff.mp found).2 }
  case ignoreFiles =>
    exact { sound with fileName_nonempty := (texts?_eq_some_iff.mp found).2 }
  case manifestFilename =>
    exact { sound with filename_not_blank := (filename?_eq_some_iff.mp found).2 }
  case readManifest =>
    exact { sound with }
  case maxFileSizeKb =>
    refine { sound with size_pos := ?_ }
    rintro size given
    rcases Option.map_eq_some_iff.mp given with ⟨number, isSize, rfl⟩
    have positive := (size?_eq_some_iff.mp found).2 number isSize
    exact ⟨by omega, Nat.dvd_mul_left 1024 number⟩

theorem IsSound.mergeEntry {config merged : Config} (sound : config.IsSound)
    {entry : Datum × Datum} (succeeded : (mergeEntry room config entry).outcome = .ok merged) :
    merged.IsSound := by
  unfold Config.mergeEntry at succeeded
  split at succeeded
  · rcases Reported.outcome_bind_eq_ok_iff.mp succeeded with ⟨_, _, kept⟩
    exact Except.ok.inj kept ▸ sound
  · split at succeeded
    · rcases Reported.outcome_bind_eq_ok_iff.mp succeeded with ⟨_, _, kept⟩
      exact Except.ok.inj kept ▸ sound
    · rename_i changed set
      exact Except.ok.inj succeeded ▸ sound.set? set

theorem IsSound.merge {config merged : Config} (sound : config.IsSound)
    {entries : List (Datum × Datum)}
    (succeeded : (merge room config entries).outcome = .ok merged) :
    merged.IsSound := by
  induction entries generalizing config with
  | nil => exact Except.ok.inj succeeded ▸ sound
  | cons entry rest induction =>
      rcases Reported.outcome_bind_eq_ok_iff.mp succeeded with ⟨first, entryMerged, restMerged⟩
      exact induction (sound.mergeEntry entryMerged) restMerged

def Parameter.kinds : Parameter → List String
  | .ignorePatterns | .ignoreFiles => ["list"]
  | .manifestFilename => ["str"]
  | .readManifest => ["bool"]
  | .maxFileSizeKb => ["NoneType", "int"]

private theorem kindName_get_mem (config : Config) (parameter : Parameter) :
    (config.get parameter).kindName ∈ parameter.kinds := by
  cases parameter with
  | maxFileSizeKb =>
      cases given : config.maxFileSizeKb <;> simp [get, given, Datum.kindName, Parameter.kinds]
  | _ => simp [get, Datum.kindName, Parameter.kinds]

/-! ## Configurations written out -/

/-- The entries that give every parameter what a configuration has for it. -/
def entries (config : Config) : List (Datum × Datum) :=
  Parameter.all.map fun parameter => (.text parameter.name, config.get parameter)

theorem IsSound.accepts_get {config : Config} (sound : config.IsSound) (parameter : Parameter) :
    parameter.Accepts (config.get parameter) := by
  unfold Parameter.Accepts
  cases parameter with
  | ignorePatterns => exact ⟨_, rfl, sound.pattern_nonempty⟩
  | ignoreFiles => exact ⟨_, rfl, sound.fileName_nonempty⟩
  | manifestFilename => exact ⟨_, rfl, sound.filename_not_blank⟩
  | readManifest => exact ⟨_, rfl⟩
  | maxFileSizeKb =>
      cases given : config.maxFileSizeKb with
      | none => exact Or.inl (by simp [get, given])
      | some size =>
          have positive := (sound.size_pos (size * 1024) (by simp [maxFileSize, given])).1
          exact Or.inr ⟨size, by simp [get, given], by omega⟩

private theorem mem_entries {config : Config} {parameter : Parameter} :
    (.text parameter.name, config.get parameter) ∈ config.entries :=
  List.mem_map.mpr ⟨parameter, by cases parameter <;> decide, rfl⟩

theorem isMapping_entries (config : Config) : IsMapping config.entries := by
  have distinct : Parameter.all.Pairwise fun parameter other =>
      (Datum.text parameter.name).isSameKey (.text other.name) = false := by
    decide
  exact List.pairwise_map.mpr distinct

private theorem IsSound.follows_entries {config : Config} (sound : config.IsSound) :
    config.Follows config.entries := by
  intro parameter
  constructor
  · intro value member _
    exact eq_of_namesApart (isMapping_entries config).namesApart mem_entries member
  · intro noneAccepted
    exact absurd (sound.accepts_get parameter) (noneAccepted _ mem_entries)

private theorem IsSound.ofMapping_entries {config : Config} (sound : config.IsSound) (room : Nat) :
    ofMapping room config.entries = .ok config := by
  have fitting : ∀ entry ∈ config.entries, IsFitting entry := by
    intro entry member
    rcases List.mem_map.mp member with ⟨parameter, _, rfl⟩
    exact ⟨parameter, rfl, sound.accepts_get parameter⟩
  rcases (@exists_foldlM_iff room default).mpr fitting with ⟨result, read⟩
  have merged : (Config.merge room default config.entries).outcome = .ok result := by
    rw [merge_of_foldlM read, Reported.outcome_pure]
  have follows := follows_of_merge (isMapping_entries config).namesApart merged
  rw [ofMapping, read, follows.unique sound.follows_entries]

/-! ## Both readings -/

/-- The strict reading of a mapping succeeds where all entries fit, and refuses the first one that
does not; what it gives the lenient reading gives too. The lenient reading fails only for an entry
that cannot be shown. Its result is sound, has for each parameter what fits in the mapping,
whatever the order, and is read back strictly. -/
theorem readings_agree (strictRoom lenientRoom : Nat) {entries : List (Datum × Datum)}
    (isMapping : IsMapping entries) :
    ((∃ config, ofMapping strictRoom entries = .ok config) ↔
      ∀ entry ∈ entries, IsFitting entry) ∧
    (∀ fault, ofMapping strictRoom entries = .error fault ↔
      ∃ before entry after, entries = before ++ entry :: after ∧
        (∀ earlier ∈ before, IsFitting earlier) ∧ IsRefused strictRoom entry fault) ∧
    (∀ config, ofMapping strictRoom entries = .ok config →
      (merge lenientRoom default entries).outcome = .ok config) ∧
    ((∃ config, (merge lenientRoom default entries).outcome = .ok config) ↔
      ∀ entry ∈ entries, ∀ fault, ¬IsRefused lenientRoom entry (.unshown fault)) ∧
    ∀ config, (merge lenientRoom default entries).outcome = .ok config →
      config.Follows entries ∧
      (∀ others, entries.Perm others →
        (merge lenientRoom default others).outcome = .ok config) ∧
      (∀ parameter, (config.get parameter).kindName ∈ parameter.kinds) ∧
      config.IsSound ∧
      ofMapping strictRoom config.entries = .ok config := by
  have apart := isMapping.namesApart
  refine ⟨exists_foldlM_iff, fun fault => foldlM_eq_error_iff, ?_, exists_merge_iff, ?_⟩
  · intro config read
    rw [merge_of_foldlM read, Reported.outcome_pure]
  · intro config merged
    have sound := isSound_default.merge merged
    exact ⟨follows_of_merge apart merged, fun others permuted => merge_perm apart permuted merged,
      kindName_get_mem config, sound, sound.ofMapping_entries strictRoom⟩

theorem readings_agree_unfitEntry :
    let entries : List (Datum × Datum) :=
      [(.text "read_manifest", .bool false), (.text "manifest_filename", .text [.half 0x3D]),
        (.text "ignore_files", .int 1)]
    IsMapping entries ∧ ofMapping 0 entries = .error (.invalid .ignoreFiles (.int 1)) ∧
      ∃ config, (merge 0 default entries).outcome = .ok config ∧ config.readManifest = false ∧
        config.manifestFilename = [.half 0x3D] ∧ ofMapping 0 config.entries = .ok config := by
  intro entries
  have isMapping : IsMapping entries := by decide
  have merged : (merge 0 default entries).outcome =
      .ok { default with readManifest := false, manifestFilename := [.half 0x3D] } := by
    decide +kernel
  have fitting : ∀ entry ∈ [(.text "read_manifest", .bool false),
      (.text "manifest_filename", .text [.half 0x3D])], IsFitting entry := by
    rw [List.forall_mem_cons, List.forall_mem_singleton]
    exact ⟨⟨.readManifest, rfl, false, rfl⟩, ⟨.manifestFilename, rfl, [.half 0x3D], rfl, by decide⟩⟩
  have refused : IsRefused 0 (.text "ignore_files", .int 1) (.invalid .ignoreFiles (.int 1)) := by
    have unfit : ¬Parameter.Accepts .ignoreFiles (.int 1) := by
      rintro ⟨texts, isList, _⟩
      cases isList
    have isShown : (Datum.int 1).firstFault 0 = none := by decide +kernel
    have shown : (Fault.invalid .ignoreFiles (.int 1)).about 0 (.int 1) =
        .invalid .ignoreFiles (.int 1) := by
      rw [Fault.about, isShown]
      rfl
    exact shown ▸ .invalid unfit
  rcases readings_agree 0 0 isMapping with ⟨_, strict, _, _, lenient⟩
  rcases lenient _ merged with ⟨_, _, _, _, readBack⟩
  exact ⟨isMapping, (strict _).mpr ⟨_, _, [], rfl, fitting, refused⟩, _, merged, rfl, rfl, readBack⟩

theorem merge_fails_for_unwritableEntry :
    let entries : List (Datum × Datum) :=
      [(.text "ignore_patterns", .int WriteFault.integerBound)]
    IsMapping entries ∧
      (∀ room, ofMapping room entries = .error (.unshown .overlongInteger)) ∧
      ∀ room config, (merge room default entries).outcome ≠ .ok config := by
  intro entries
  have refused : ∀ room, IsRefused room (.text "ignore_patterns", .int WriteFault.integerBound)
      (.unshown .overlongInteger) := by
    intro room
    have unfit : ¬Parameter.Accepts .ignorePatterns (.int WriteFault.integerBound) := by
      rintro ⟨texts, isList, _⟩
      cases isList
    have tooLong : (Datum.int WriteFault.integerBound).firstFault room = some .overlongInteger :=
      WriteFault.ofInt_integerBound
    have hidden : (Fault.invalid .ignorePatterns (.int WriteFault.integerBound)).about room
        (.int WriteFault.integerBound) = .unshown .overlongInteger := by
      rw [Fault.about, tooLong]
      rfl
    exact hidden ▸ .invalid unfit
  refine ⟨by decide, fun room => foldlM_eq_error_iff.mpr ⟨[], _, [], rfl, nofun, refused room⟩, ?_⟩
  intro room config merged
  exact exists_merge_iff.mp ⟨config, merged⟩ _ (List.mem_singleton_self _) _ (refused room)

end ImportAtlas.Config
