import ImportAtlas.Manifest.File
import ImportAtlas.Proofs.FileSystem.Lookup
import ImportAtlas.Proofs.FileSystem.Naming
import ImportAtlas.Proofs.Json.Limits

/-! # What a manifest file comes to

A manifest is read in stages, and each stage has its own way to come to nothing. Main statement:
there is a manifest exactly where a readable file holds one. Reading fails only where looking for
the file is refused, or where its text exceeds a limit of reading JSON.
-/

namespace ImportAtlas.Manifest

open FileSystem (decodeText?)

variable {limit : Nat} {system : FileSystem} {place : Location}

/-! ## Texts in files -/

def HoldsText (system : FileSystem) (place : Location) (text : List Char) : Prop :=
  ∃ permission bytes, system.entryAt true place = .ok (.file permission bytes) ∧
    system.canRead (.file permission bytes) = true ∧ decodeText? bytes = some text

theorem HoldsText.unique {text other : List Char}
    (holds : HoldsText system place text) (holdsOther : HoldsText system place other) :
    text = other := by
  rcases holds with ⟨permission, bytes, found, _, decoded⟩
  rcases holdsOther with ⟨otherPermission, otherBytes, foundOther, _, decodedOther⟩
  rw [found, Except.ok.injEq, Entry.file.injEq] at foundOther
  rw [foundOther.2, decodedOther, Option.some.injEq] at decoded
  exact decoded.symm

private theorem isFile?_of_holdsText {text : List Char}
    (holds : HoldsText system place text) :
    system.isFile? place = .ok true ∧ system.readText place = .ok text := by
  rcases holds with ⟨permission, bytes, found, readable, decoded⟩
  simp [FileSystem.isFile?, FileSystem.test, FileSystem.readText, FileSystem.read, found,
    Entry.isFile, readable, decoded]

private theorem holdsText_of_readText {text : List Char}
    (isFile : system.isFile? place = .ok true) (read : system.readText place = .ok text) :
    HoldsText system place text := by
  rcases FileSystem.entryAt_of_test isFile with ⟨entry, found, regular⟩
  cases entry with
  | file permission bytes =>
      simp only [FileSystem.readText, FileSystem.read, found] at read
      by_cases readable : system.canRead (.file permission bytes) = true
      · cases decoded : decodeText? bytes with
        | none => simp [readable, decoded] at read
        | some chars =>
            obtain rfl : chars = text := by simpa [readable, decoded] using read
            exact ⟨permission, bytes, found, readable, decoded⟩
      · simp [readable] at read
  | _ => cases regular

/-! ## Outcomes -/

def HoldsManifest (limit : Nat) (system : FileSystem) (place : Location)
    (manifest : Manifest) : Prop :=
  ∃ text document, HoldsText system place text ∧ Json.parseWithin limit text = .ok document ∧
    parse document = .ok manifest

/-- What makes reading a manifest fail. -/
inductive Prevents (limit : Nat) (system : FileSystem) (place : Location) : Failure → Prop
  | refused {cause : Cause} (unanswered : system.entryAt true place = .error cause)
      (present : cause.isAbsence = false) :
      Prevents limit system place (.system ⟨cause, place.text⟩)
  | overlongInteger {text : List Char} {digits : Nat} (holds : HoldsText system place text)
      (failed : Json.parseWithin limit text = .error (.overlongInteger digits)) :
      Prevents limit system place (.overlongInteger digits)
  | nested {text : List Char} {isObject : Bool} (holds : HoldsText system place text)
      (failed : Json.parseWithin limit text = .error (.nested isObject)) :
      Prevents limit system place (.nested isObject)

theorem isFile?_eq_error_iff {cause : Cause} :
    system.isFile? place = .error cause ↔
      system.entryAt true place = .error cause ∧ cause.isAbsence = false := by
  unfold FileSystem.isFile? FileSystem.test
  cases system.entryAt true place with
  | ok entry => simp
  | error other =>
      simp only [Except.error.injEq]
      split <;> grind

@[simp] theorem outcome_absent (message : Text.Coded) : (absent message).outcome = .ok none := rfl

theorem outcome_loadAt_of_holdsText {text : List Char}
    (holds : HoldsText system place text) :
    (loadAt limit system place).outcome =
      match Json.parseWithin limit text with
      | .error (.overlongInteger digits) => .error (.overlongInteger digits)
      | .error (.nested isObject) => .error (.nested isObject)
      | .error .malformed => .ok none
      | .ok document =>
          match parse document with
          | .ok manifest => .ok (some manifest)
          | .error _ => .ok none := by
  rcases isFile?_of_holdsText holds with ⟨isFile, read⟩
  unfold loadAt
  simp only [isFile, read]
  cases parsed : Json.parseWithin limit text with
  | error fault => cases fault <;> rfl
  | ok document =>
      cases made : parse document with
      | error fault => simp only [made, outcome_absent]
      | ok manifest => simp only [made, Reported.outcome_pure]

theorem outcome_loadAt_of_refused {cause : Cause}
    (refused : system.isFile? place = .error cause) :
    (loadAt limit system place).outcome = .error (.system ⟨cause, place.text⟩) := by
  rw [loadAt, refused]
  rfl

private theorem outcome_loadAt_otherwise
    (answered : ∀ cause, system.isFile? place ≠ .error cause)
    (noText : ∀ text, ¬HoldsText system place text) :
    (loadAt limit system place).outcome = .ok none := by
  unfold loadAt
  cases isFile : system.isFile? place with
  | error cause => exact absurd isFile (answered cause)
  | ok regular =>
      cases regular with
      | false => rfl
      | true =>
          cases read : system.readText place with
          | error fault => rfl
          | ok text => exact absurd (holdsText_of_readText isFile read) (noText text)

theorem loadAt_cases (limit : Nat) (system : FileSystem) (place : Location) :
    (∃ cause, system.isFile? place = .error cause) ∨
      (∃ text, HoldsText system place text) ∨
      (loadAt limit system place).outcome = .ok none := by
  by_cases refused : ∃ cause, system.isFile? place = .error cause
  · exact Or.inl refused
  · by_cases holds : ∃ text, HoldsText system place text
    · exact Or.inr (Or.inl holds)
    · exact Or.inr (Or.inr (outcome_loadAt_otherwise (not_exists.mp refused) (not_exists.mp holds)))

private theorem outcome_loadAt_of_holdsManifest {manifest : Manifest}
    (holds : HoldsManifest limit system place manifest) :
    (loadAt limit system place).outcome = .ok (some manifest) := by
  rcases holds with ⟨text, document, holdsText, parsed, made⟩
  simp only [outcome_loadAt_of_holdsText holdsText, parsed, made]

private theorem outcome_loadAt_of_prevents {failure : Failure}
    (prevents : Prevents limit system place failure) :
    (loadAt limit system place).outcome = .error failure := by
  cases prevents with
  | refused unanswered present =>
      exact outcome_loadAt_of_refused (isFile?_eq_error_iff.mpr ⟨unanswered, present⟩)
  | overlongInteger holds failed | nested holds failed =>
      simp only [outcome_loadAt_of_holdsText holds, failed]

private theorem holdsManifest_of_outcome_loadAt {manifest : Manifest}
    (loaded : (loadAt limit system place).outcome = .ok (some manifest)) :
    HoldsManifest limit system place manifest := by
  rcases loadAt_cases limit system place with ⟨cause, refused⟩ | ⟨text, holds⟩ | isNone
  · rw [outcome_loadAt_of_refused refused] at loaded
    cases loaded
  · rw [outcome_loadAt_of_holdsText holds] at loaded
    split at loaded
    any_goals cases loaded
    rename_i document parsed
    split at loaded
    · rename_i made
      cases loaded
      exact ⟨text, document, holds, parsed, made⟩
    · cases loaded
  · rw [isNone] at loaded
    cases loaded

private theorem prevents_of_outcome_loadAt {failure : Failure}
    (failed : (loadAt limit system place).outcome = .error failure) :
    Prevents limit system place failure := by
  rcases loadAt_cases limit system place with ⟨cause, refused⟩ | ⟨text, holds⟩ | isNone
  · rw [outcome_loadAt_of_refused refused, Except.error.injEq] at failed
    rcases isFile?_eq_error_iff.mp refused with ⟨unanswered, present⟩
    exact failed ▸ .refused unanswered present
  · rw [outcome_loadAt_of_holdsText holds] at failed
    split at failed
    · rename_i overlong
      exact Except.error.inj failed ▸ .overlongInteger holds overlong
    · rename_i nested
      exact Except.error.inj failed ▸ .nested holds nested
    · cases failed
    · split at failed <;> cases failed
  · rw [isNone] at failed
    cases failed

private theorem Prevents.refused_or_excessive {failure : Failure}
    (prevents : Prevents limit system place failure) :
    (system.entryAt true place = .error .denied ∨ system.entryAt true place = .error .nameTooLong) ∨
      ∃ text, HoldsText system place text ∧ Json.IsExcessive limit text := by
  cases prevents with
  | refused unanswered present =>
      rcases FileSystem.refused_of_entryAt unanswered present with rfl | rfl
      · exact Or.inl (Or.inl unanswered)
      · exact Or.inl (Or.inr unanswered)
  | overlongInteger holds failed =>
      exact Or.inr ⟨_, holds, Json.isExcessive_of_parseWithin failed nofun⟩
  | nested holds failed => exact Or.inr ⟨_, holds, Json.isExcessive_of_parseWithin failed nofun⟩

/-- Reading gives a manifest exactly where a readable file holds one under the name that is given.
It fails only where looking for the file is refused or the text exceeds a limit, and comes to
nothing everywhere else. -/
theorem load_exact (limit : Nat) (system : FileSystem) (root : Location) (filename : Text.Coded) :
    (∀ manifest, (load limit system root filename).outcome = .ok (some manifest) ↔
      ∃ place, root.named? filename = some place ∧
        HoldsManifest limit system place manifest) ∧
    (∀ failure, (load limit system root filename).outcome = .error failure ↔
      ∃ place, root.named? filename = some place ∧ Prevents limit system place failure) ∧
    ∀ place failure, root.named? filename = some place → Prevents limit system place failure →
      (system.entryAt true place = .error .denied ∨
        system.entryAt true place = .error .nameTooLong) ∨
      ∃ text, HoldsText system place text ∧ Json.IsExcessive limit text := by
  refine ⟨?_, ?_, fun _ _ _ => Prevents.refused_or_excessive⟩ <;>
    unfold load
  · intro manifest
    cases root.named? filename with
    | none => simp
    | some place =>
        simp only [Option.some.injEq, exists_eq_left']
        exact ⟨holdsManifest_of_outcome_loadAt, outcome_loadAt_of_holdsManifest⟩
  · intro failure
    cases root.named? filename with
    | none => simp
    | some place =>
        simp only [Option.some.injEq, exists_eq_left']
        exact ⟨prevents_of_outcome_loadAt, outcome_loadAt_of_prevents⟩

def lockedManifest : FileSystem where
  top := .directory .newDirectory
    [("r", .directory .newDirectory
      [("d", .directory ⟨true, false⟩ [("package.json", .file .newFile [0x7B, 0x7D])])])]
  workingDirectory := []
  isPrivileged := false

theorem load_fails_of_lockedDirectory :
    Text.Coded.isBlank "d/package.json" = false ∧
      lockedManifest.isDirectory? (.ofText "/r") = .ok true ∧
      ∀ limit result,
        (load limit lockedManifest (.ofText "/r") "d/package.json").outcome ≠ .ok result := by
  have named : Location.named? (.ofText "/r") "d/package.json" =
      some (.ofText "/r/d/package.json") :=
    Location.named?_ofText _ "d/package.json"
  have refused : lockedManifest.isFile? (.ofText "/r/d/package.json") = .error .denied := by
    decide
  refine ⟨by decide, by decide, ?_⟩
  intro limit result loaded
  rw [load, named, outcome_loadAt_of_refused refused] at loaded
  cases loaded

end ImportAtlas.Manifest
