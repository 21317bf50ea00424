import ImportAtlas.FileSystem.Edit
import ImportAtlas.FileSystem.Source
import ImportAtlas.Proofs.FileSystem.Tree

/-! # File systems that differ in the contents of files

Two file systems that are the same except for what is in their files. Every lookup comes to the same
in both, and where it finds a file, the contents are related. Main statement: this is what writing
another content into a file does.
-/

namespace ImportAtlas

namespace Entry

/-- Two entries are the same but for their members and for contents, which are related. -/
inductive Alike (related : List UInt8 → List UInt8 → Prop) : Entry → Entry → Prop
  | file (permission : Permission) {content other : List UInt8} (holds : related content other) :
      Alike related (.file permission content) (.file permission other)
  | directory (permission : Permission) (members others : List (String × Entry)) :
      Alike related (.directory permission members) (.directory permission others)
  | link (target : String) : Alike related (.link target) (.link target)
  | pipe (permission : Permission) : Alike related (.pipe permission) (.pipe permission)

namespace Alike

variable {related : List UInt8 → List UInt8 → Prop} {entry own : Entry}

theorem refl (reflexive : ∀ content, related content content) (entry : Entry) :
    Alike related entry entry := by
  cases entry with
  | file permission content => exact .file permission (reflexive content)
  | directory permission members => exact .directory permission members members
  | link target => exact .link target
  | pipe permission => exact .pipe permission

theorem permission_eq (alike : Alike related entry own) : own.permission = entry.permission := by
  cases alike <;> rfl

theorem isDirectory_eq (alike : Alike related entry own) : own.isDirectory = entry.isDirectory := by
  cases alike <;> rfl

theorem isFile_eq (alike : Alike related entry own) : own.isFile = entry.isFile := by
  cases alike <;> rfl

private theorem isLink_eq (alike : Alike related entry own) : own.isLink = entry.isLink := by
  cases alike <;> rfl

end Alike

theorem rel_refl {related : List UInt8 → List UInt8 → Prop}
    (reflexive : ∀ content, related content content) (found? : Option Entry) :
    Option.Rel (Alike related) found? found? := by
  cases found? with
  | none => exact .none
  | some found => exact .some (.refl reflexive found)

end Entry

namespace FileSystem

open Entry (Alike)

/-- Two file systems are the same, as one user sees them, except for the contents of files, which
are related. -/
structure Rewritten (related : List UInt8 → List UInt8 → Prop) (system other : FileSystem) : Prop
    where
  workingDirectory : other.workingDirectory = system.workingDirectory
  isPrivileged : other.isPrivileged = system.isPrivileged
  top : ∀ trail, Option.Rel (Alike related) (system.top.at? trail) (other.top.at? trail)

variable {related : List UInt8 → List UInt8 → Prop} {system other : FileSystem}
  {followsLast : Bool} {place : Location}

namespace Rewritten

theorem refl (reflexive : ∀ content, related content content) (system : FileSystem) :
    system.Rewritten related system where
  workingDirectory := rfl
  isPrivileged := rfl
  top trail := Entry.rel_refl reflexive (system.top.at? trail)

variable (rewritten : system.Rewritten related other)
include rewritten

theorem canRead_eq {entry own : Entry} (alike : Alike related entry own) :
    other.canRead own = system.canRead entry := by
  rw [canRead, canRead, rewritten.isPrivileged, alike.permission_eq]

theorem canSearch_eq {entry own : Entry} (alike : Alike related entry own) :
    other.canSearch own = system.canSearch entry := by
  rw [canSearch, canSearch, rewritten.isPrivileged, alike.permission_eq]

theorem at?_cases (trail : Trail) :
    (system.top.at? trail = none ∧ other.top.at? trail = none) ∨
      ∃ entry own, system.top.at? trail = some entry ∧ other.top.at? trail = some own ∧
        Alike related entry own := by
  have top := rewritten.top trail
  generalize system.top.at? trail = found at top ⊢
  generalize other.top.at? trail = foundOther at top ⊢
  cases top with
  | none => exact Or.inl ⟨rfl, rfl⟩
  | some alike => exact Or.inr ⟨_, _, rfl, rfl, alike⟩

theorem get?_cases {trail : Trail} {permission : Permission}
    {members others : List (String × Entry)}
    (atTrail : system.top.at? trail = some (.directory permission members))
    (atOther : other.top.at? trail = some (.directory permission others)) (name : String) :
    (Keyed.get? name members = none ∧ Keyed.get? name others = none) ∨
      ∃ entry own, Keyed.get? name members = some entry ∧ Keyed.get? name others = some own ∧
        Alike related entry own := by
  rw [← Entry.at?_concat atTrail, ← Entry.at?_concat atOther]
  exact rewritten.at?_cases _

/-! ## Lookups -/

theorem followParts_eq {followLink followOther : Trail → List String → Except Cause Destination}
    (links : ∀ trail parts, followOther trail parts = followLink trail parts) (trail : Trail)
    (parts : List String) :
    other.followParts followsLast followOther trail parts =
      system.followParts followsLast followLink trail parts := by
  induction parts generalizing trail with
  | nil => rfl
  | cons part rest induction =>
      rw [followParts, followParts]
      rcases rewritten.at?_cases trail with ⟨absent, absentOther⟩ | ⟨_, _, found, foundOther, alike⟩
      · rw [absent, absentOther]
      · rw [found, foundOther]
        cases alike with
        | directory permission members others =>
            have searchable := rewritten.canSearch_eq (.directory permission members others)
            simp only [searchable, induction]
            rcases rewritten.get?_cases found foundOther part with
              ⟨absent, absentOther⟩ | ⟨_, _, present, presentOther, next⟩
            · simp only [absent, absentOther]
            · simp only [present, presentOther]
              cases next with
              | link target => simp only [links]
              | _ => rfl
        | _ => rfl

theorem follow_eq (links : Nat) (trail : Trail) (parts : List String) :
    other.follow followsLast links trail parts = system.follow followsLast links trail parts := by
  induction links generalizing trail parts with
  | zero => exact rewritten.followParts_eq (fun _ _ => rfl) trail parts
  | succ links induction => exact rewritten.followParts_eq induction trail parts

theorem trailOf_eq : other.trailOf followsLast place = system.trailOf followsLast place := by
  unfold trailOf lookup
  rw [rewritten.workingDirectory, rewritten.follow_eq]

/-- A place is refused in both file systems for the same cause, or alike entries are there. -/
theorem entryAt_cases (followsLast : Bool) (place : Location) :
    (∃ cause, system.entryAt followsLast place = .error cause ∧
      other.entryAt followsLast place = .error cause) ∨
    ∃ entry own, system.entryAt followsLast place = .ok entry ∧
      other.entryAt followsLast place = .ok own ∧ Alike related entry own := by
  unfold entryAt
  rw [rewritten.trailOf_eq]
  cases system.trailOf followsLast place with
  | error cause => exact Or.inl ⟨cause, rfl, rfl⟩
  | ok trail =>
      rcases rewritten.at?_cases trail with
        ⟨absent, absentOther⟩ | ⟨entry, own, found, foundOther, alike⟩
      · exact Or.inl ⟨.missing, by simp only [absent], by simp only [absentOther]⟩
      · exact Or.inr ⟨entry, own, by simp only [found], by simp only [foundOther], alike⟩

/-! ## Questions and reading -/

theorem exists_entryAt_iff {condition : Entry → Bool}
    (seen : ∀ entry own, Alike related entry own → condition own = condition entry) :
    (∃ entry, other.entryAt followsLast place = .ok entry ∧ condition entry = true) ↔
      ∃ entry, system.entryAt followsLast place = .ok entry ∧ condition entry = true := by
  rcases rewritten.entryAt_cases followsLast place with
    ⟨cause, refused, refusedOther⟩ | ⟨entry, own, found, foundOther, alike⟩
  · rw [refused, refusedOther]
  · simp [found, foundOther, seen entry own alike]

theorem test_eq {condition : Entry → Bool}
    (seen : ∀ entry own, Alike related entry own → condition own = condition entry) :
    other.test followsLast condition place = system.test followsLast condition place := by
  unfold test
  rcases rewritten.entryAt_cases followsLast place with
    ⟨cause, refused, refusedOther⟩ | ⟨entry, own, found, foundOther, alike⟩
  · rw [refused, refusedOther]
  · rw [found, foundOther]
    simp only [seen entry own alike]

theorem isFile?_eq : other.isFile? place = system.isFile? place :=
  rewritten.test_eq fun _ _ alike => alike.isFile_eq

theorem isLink?_eq : other.isLink? place = system.isLink? place :=
  rewritten.test_eq fun _ _ alike => alike.isLink_eq

theorem isAccessible_eq : other.isAccessible place = system.isAccessible place := by
  unfold isAccessible
  rcases rewritten.entryAt_cases true place with
    ⟨cause, refused, refusedOther⟩ | ⟨entry, own, found, foundOther, alike⟩
  · rw [refused, refusedOther]
  · rw [found, foundOther]
    simp only [rewritten.canRead_eq alike, rewritten.canSearch_eq alike]

theorem exists_list_iff :
    (∃ members, other.list place = .ok members) ↔ ∃ members, system.list place = .ok members := by
  unfold list
  rcases rewritten.entryAt_cases true place with
    ⟨cause, refused, refusedOther⟩ | ⟨entry, own, found, foundOther, alike⟩
  · rw [refused, refusedOther]
  · rw [found, foundOther]
    have readable := rewritten.canRead_eq alike
    cases alike with
    | directory permission members others =>
        simp only [readable]
        split <;> simp
    | _ => simp

theorem read_cases (reflexive : ∀ content, related content content) (place : Location) :
    (∃ cause, system.read place = .error cause ∧ other.read place = .error cause) ∨
      ∃ content own, system.read place = .ok content ∧ other.read place = .ok own ∧
        related content own := by
  unfold read
  rcases rewritten.entryAt_cases true place with
    ⟨cause, refused, refusedOther⟩ | ⟨entry, own, found, foundOther, alike⟩
  · rw [refused, refusedOther]
    exact Or.inl ⟨cause, rfl, rfl⟩
  · rw [found, foundOther]
    simp only [rewritten.canRead_eq alike]
    split
    · exact Or.inl ⟨.denied, rfl, rfl⟩
    · cases alike with
      | file permission holds => exact Or.inr ⟨_, _, rfl, rfl, holds⟩
      | directory permission members others => exact Or.inl ⟨.isDirectory, rfl, rfl⟩
      | link target => exact Or.inr ⟨[], [], rfl, rfl, reflexive []⟩
      | pipe permission => exact Or.inr ⟨[], [], rfl, rfl, reflexive []⟩

end Rewritten

end FileSystem

/-! ## Writing into a file -/

namespace Entry

variable {related : List UInt8 → List UInt8 → Prop}

theorem withEntry_cons {permission : Permission} {members : List (String × Entry)} {name : String}
    {member : Entry} (present : Keyed.get? name members = some member) (rest : Trail)
    (entry : Entry) :
    (directory permission members).withEntry (name :: rest) (some entry) =
      .directory permission (Keyed.put name (member.withEntry rest (some entry)) members) := by
  cases rest with
  | nil => rfl
  | cons next rest => simp only [withEntry, present]

private theorem rel_at?_withEntry (reflexive : ∀ content, related content content)
    {permission : Permission} {content other : List UInt8} (holds : related content other)
    {tree : Entry} {trail : Trail} (held : tree.at? trail = some (.file permission content))
    (asked : Trail) :
    Option.Rel (Alike related) (tree.at? asked)
      ((tree.withEntry trail (some (.file permission other))).at? asked) := by
  induction trail generalizing tree asked with
  | nil =>
      rw [at?, Option.some.injEq] at held
      subst held
      cases asked with
      | nil => exact .some (.file permission holds)
      | cons key rest => exact .none
  | cons name rest induction =>
      cases tree with
      | directory outer members =>
          simp only [at?, Option.bind_eq_some_iff] at held
          rcases held with ⟨member, present, further⟩
          rw [withEntry_cons present]
          cases asked with
          | nil => exact .some (.directory outer _ _)
          | cons key below =>
              simp only [at?, Keyed.get?_put]
              by_cases isName : name = key
              · rw [if_pos isName, ← isName, present]
                exact induction further below
              · rw [if_neg isName]
                exact rel_refl reflexive _
      | _ => simp [at?] at held

theorem isProper_withEntry {permission : Permission} {content other : List UInt8} {tree : Entry}
    {trail : Trail} (held : tree.at? trail = some (.file permission content))
    (proper : tree.isProper = true) :
    (tree.withEntry trail (some (.file permission other))).isProper = true := by
  induction trail generalizing tree with
  | nil => rfl
  | cons name rest induction =>
      cases tree with
      | directory outer members =>
          simp only [at?, Option.bind_eq_some_iff] at held
          rcases held with ⟨member, present, further⟩
          rcases isProper_directory_iff.mp proper with ⟨distinct, each⟩
          have isMember := Keyed.mem_of_get? present
          rw [withEntry_cons present, isProper_directory_iff, Keyed.map_fst_put,
            if_pos (List.mem_map_of_mem isMember)]
          refine ⟨distinct, fun own inOthers => ?_⟩
          rcases Keyed.mem_put inOthers with rfl | inMembers
          · exact ⟨(each _ isMember).1, induction further (each _ isMember).2⟩
          · exact each own inMembers
      | _ => simp [at?] at held

end Entry

theorem FileSystem.rewritten_withEntry {related : List UInt8 → List UInt8 → Prop}
    (reflexive : ∀ content, related content content) {system : FileSystem} {trail : Trail}
    {permission : Permission} {content other : List UInt8} (holds : related content other)
    (held : system.top.at? trail = some (.file permission content)) :
    system.Rewritten related (system.withEntry trail (some (.file permission other))) where
  workingDirectory := rfl
  isPrivileged := rfl
  top := Entry.rel_at?_withEntry reflexive holds held

end ImportAtlas
