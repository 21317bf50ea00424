import ImportAtlas.FileSystem.Source
import ImportAtlas.Proofs.FileSystem.Outside
import ImportAtlas.Project.Walk

/-! # Walks in another file system

The same walk may take place in another file system. What it does there is compared question by
question: where the answers are the same, it goes on alike.
-/

namespace ImportAtlas.Scan

open Ignore

/-- The same walk in another file system. -/
def movedTo (scan : Scan) (other : FileSystem) : Scan := { scan with system := other }

section Moved

variable (scan : Scan) (other : FileSystem)

@[simp] theorem system_movedTo : (scan.movedTo other).system = other := rfl

@[simp] theorem root_movedTo : (scan.movedTo other).root = scan.root := rfl

@[simp] theorem place_movedTo (names : List String) :
    (scan.movedTo other).place names = scan.place names := rfl

@[simp] theorem excludePlace_movedTo : (scan.movedTo other).excludePlace = scan.excludePlace := rfl

@[simp] theorem ignorePatterns_movedTo :
    (scan.movedTo other).ignorePatterns = scan.ignorePatterns := rfl

@[simp] theorem ignoreFiles_movedTo : (scan.movedTo other).ignoreFiles = scan.ignoreFiles := rfl

end Moved

variable {scan : Scan} {other : FileSystem}

theorem validateRoot_outside {inner : Trail} (same : scan.system.SameOutside inner other)
    (alike : (other.entryAt true scan.root).map Entry.shape =
      (scan.system.entryAt true scan.root).map Entry.shape) :
    validateRoot other scan.root = validateRoot scan.system scan.root := by
  have exist : other.exists? scan.root = scan.system.exists? scan.root :=
    FileSystem.test_outside (fun _ => rfl) alike
  have isDirectory : other.isDirectory? scan.root = scan.system.isDirectory? scan.root :=
    FileSystem.test_outside Entry.isDirectory_shape alike
  unfold validateRoot
  rw [exist, isDirectory, FileSystem.isAccessible_outside same alike]

theorem rootRules_congr
    (sameFile : other.isFile? scan.excludePlace = scan.system.isFile? scan.excludePlace)
    (sameLines : scan.system.isFile? scan.excludePlace = .ok true →
      other.readLines scan.excludePlace = scan.system.readLines scan.excludePlace) :
    (scan.movedTo other).rootRules = scan.rootRules := by
  unfold rootRules addFile ignoreLines
  rw [excludePlace_movedTo, system_movedTo, ignorePatterns_movedTo, sameFile]
  cases isFile : scan.system.isFile? scan.excludePlace with
  | error cause => rfl
  | ok answer =>
      cases answer with
      | false => rfl
      | true => rw [sameLines isFile]

theorem ignoreFileRules_congr {names : List String} (rules : Rules) {file : Location}
    (sameFile : other.isFile? ((scan.place names).append file) =
      scan.system.isFile? ((scan.place names).append file))
    (alike : scan.system.isFile? ((scan.place names).append file) = .ok true →
      other.isLink? ((scan.place names).append file) =
          scan.system.isLink? ((scan.place names).append file) ∧
        other.readLines ((scan.place names).append file) =
          scan.system.readLines ((scan.place names).append file)) :
    (scan.movedTo other).ignoreFileRules names rules file =
      scan.ignoreFileRules names rules file := by
  unfold ignoreFileRules addFile ignoreLines
  simp only [place_movedTo, system_movedTo, sameFile]
  cases answer : scan.system.isFile? ((scan.place names).append file) with
  | error cause => rfl
  | ok isFile =>
      cases isFile with
      | false => rfl
      | true =>
          rcases alike answer with ⟨sameLink, sameLines⟩
          simp only [sameLink, sameLines]

theorem keptDirectories_movedTo :
    (scan.movedTo other).keptDirectories = scan.keptDirectories := by
  funext names rules members
  induction members with
  | nil => rfl
  | cons member rest induction =>
      rw [keptDirectories, keptDirectories, induction]
      rfl

end ImportAtlas.Scan
