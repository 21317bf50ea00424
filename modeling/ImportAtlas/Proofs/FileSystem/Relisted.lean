import ImportAtlas.Proofs.FileSystem.Contents
import ImportAtlas.Proofs.FileSystem.Outside
import Mathlib.Data.List.Nodup

/-! # File systems that list directories in another order

A file system may list the members of a directory in any order. Two file systems that differ in
nothing else come to the same in every lookup, and what they find there differs in nothing else
either.
-/

namespace ImportAtlas

namespace Entry

/-- Two trees are the same, except that each lists the members of a directory in an order of its
own. -/
inductive Relisted : Entry → Entry → Prop
  | leaf {entry : Entry} (notDirectory : entry.isDirectory = false) : Relisted entry entry
  | directory (permission : Permission) {members others : List (String × Entry)}
      (names : (others.map Prod.fst).Perm (members.map Prod.fst))
      (each : ∀ member ∈ members, ∀ own ∈ others, own.1 = member.1 → Relisted member.2 own.2) :
      Relisted (.directory permission members) (.directory permission others)

namespace Relisted

variable {entry own : Entry}

theorem of_members {permission : Permission} {members others : List (String × Entry)}
    (distinct : (members.map Prod.fst).Nodup)
    (alone : ∀ member ∈ members, member.2.Relisted member.2)
    (permuted : others.Perm members) :
    (Entry.directory permission members).Relisted (.directory permission others) := by
  refine .directory permission (permuted.map Prod.fst) ?_
  intro member inMembers own inOthers sameName
  have isMember := List.inj_on_of_nodup_map distinct
    (permuted.mem_iff.mp inOthers) inMembers sameName
  exact isMember ▸ alone member inMembers

theorem refl (proper : entry.isProper = true) : entry.Relisted entry := by
  induction entry using Entry.induct with
  | leaf entry notDirectory => exact .leaf notDirectory
  | directory permission members induction =>
      rcases isProper_directory_iff.mp proper with ⟨distinct, each⟩
      exact of_members distinct
        (fun member inMembers =>
          induction member inMembers (each member inMembers).2) (.refl members)

theorem of_perm {permission : Permission} {members others : List (String × Entry)}
    (proper : (Entry.directory permission members).isProper = true)
    (permuted : others.Perm members) :
    (Entry.directory permission members).Relisted (.directory permission others) := by
  rcases isProper_directory_iff.mp proper with ⟨distinct, each⟩
  exact of_members distinct (fun member inMembers => refl (each member inMembers).2) permuted

theorem shape_eq (same : entry.Relisted own) : own.shape = entry.shape := by
  cases same <;> rfl

theorem alike (same : entry.Relisted own) : entry.Alike Eq own := by
  cases same with
  | leaf notDirectory => exact .refl (fun _ => rfl) entry
  | directory permission names each => exact .directory permission _ _

theorem get?_cases {members others : List (String × Entry)}
    (names : (others.map Prod.fst).Perm (members.map Prod.fst))
    (each : ∀ member ∈ members, ∀ own ∈ others, own.1 = member.1 → Relisted member.2 own.2)
    (name : String) :
    (Keyed.get? name members = none ∧ Keyed.get? name others = none) ∨
      ∃ entry own, Keyed.get? name members = some entry ∧ Keyed.get? name others = some own ∧
        entry.Relisted own := by
  cases found : Keyed.get? name members with
  | none =>
      rw [Keyed.get?_eq_none_iff, ← names.mem_iff, ← Keyed.get?_eq_none_iff] at found
      exact Or.inl ⟨rfl, found⟩
  | some entry =>
      have inMembers := Keyed.mem_of_get? found
      cases foundOther : Keyed.get? name others with
      | none =>
          rw [Keyed.get?_eq_none_iff, names.mem_iff] at foundOther
          exact absurd (List.mem_map_of_mem inMembers) foundOther
      | some own =>
          exact Or.inr ⟨entry, own, rfl, rfl,
            each _ inMembers _ (Keyed.mem_of_get? foundOther) rfl⟩

theorem at?_cases (same : entry.Relisted own) (trail : Trail) :
    (entry.at? trail = none ∧ own.at? trail = none) ∨
      ∃ inner innerOwn, entry.at? trail = some inner ∧ own.at? trail = some innerOwn ∧
        inner.Relisted innerOwn := by
  induction trail generalizing entry own with
  | nil => exact Or.inr ⟨entry, own, rfl, rfl, same⟩
  | cons name rest induction =>
      cases same with
      | leaf notDirectory =>
          cases entry with
          | directory => cases notDirectory
          | _ => exact Or.inl ⟨rfl, rfl⟩
      | directory permission names each =>
          rw [at?, at?]
          rcases get?_cases names each name with
            ⟨absent, absentOther⟩ | ⟨_, _, found, foundOther, next⟩
          · rw [absent, absentOther]
            exact Or.inl ⟨rfl, rfl⟩
          · rw [found, foundOther]
            exact induction next

end Relisted

end Entry

namespace FileSystem

/-- Two file systems are the same, except that each lists the members of a directory in an order of
its own. -/
structure Relisted (system other : FileSystem) : Prop where
  workingDirectory : other.workingDirectory = system.workingDirectory
  isPrivileged : other.isPrivileged = system.isPrivileged
  top : system.top.Relisted other.top

variable {system other : FileSystem} {followsLast : Bool} {place : Location}

theorem Relisted.sameOutside (same : system.Relisted other) (directory : Trail) :
    system.SameOutside directory other where
  workingDirectory := same.workingDirectory
  isPrivileged := same.isPrivileged
  top trail _ := by
    rcases same.top.at?_cases trail with ⟨absent, absentOther⟩ | ⟨_, _, found, foundOther, alike⟩
    · rw [absent, absentOther]
    · rw [found, foundOther]
      exact congrArg some alike.shape_eq

theorem Relisted.rewritten (same : system.Relisted other) : system.Rewritten Eq other where
  workingDirectory := same.workingDirectory
  isPrivileged := same.isPrivileged
  top trail := by
    rcases same.top.at?_cases trail with ⟨absent, absentOther⟩ | ⟨_, _, found, foundOther, relisted⟩
    · rw [absent, absentOther]
      exact .none
    · rw [found, foundOther]
      exact .some relisted.alike

/-! ## Lookups -/

section Relisted

variable (same : system.Relisted other)
include same

theorem entryAt_cases_relisted :
    (∃ cause, system.entryAt followsLast place = .error cause ∧
      other.entryAt followsLast place = .error cause) ∨
    ∃ entry own, system.entryAt followsLast place = .ok entry ∧
      other.entryAt followsLast place = .ok own ∧ entry.Relisted own := by
  unfold entryAt
  rw [same.rewritten.trailOf_eq]
  cases system.trailOf followsLast place with
  | error cause => exact Or.inl ⟨cause, rfl, rfl⟩
  | ok trail =>
      rcases same.top.at?_cases trail with
        ⟨absent, absentOther⟩ | ⟨entry, own, found, foundOther, alike⟩
      · exact Or.inl ⟨.missing, by simp only [absent], by simp only [absentOther]⟩
      · exact Or.inr ⟨entry, own, by simp only [found], by simp only [foundOther], alike⟩

theorem entryAt_relisted :
    (other.entryAt followsLast place).map Entry.shape =
      (system.entryAt followsLast place).map Entry.shape := by
  rcases entryAt_cases_relisted same with
    ⟨cause, refused, refusedOther⟩ | ⟨entry, own, found, foundOther, alike⟩
  · rw [refused, refusedOther]
  · rw [found, foundOther]
    exact congrArg Except.ok alike.shape_eq

/-! ## Questions and reading -/

theorem test_relisted {condition : Entry → Bool}
    (seen : ∀ entry : Entry, condition entry.shape = condition entry) :
    other.test followsLast condition place = system.test followsLast condition place :=
  test_outside seen (entryAt_relisted same)

theorem list_cases_relisted :
    (∃ cause, system.list place = .error cause ∧ other.list place = .error cause) ∨
      ∃ members others, system.list place = .ok members ∧ other.list place = .ok others :=
  list_cases_outside (same.sameOutside []) (entryAt_relisted same)

theorem readLines_relisted : other.readLines place = system.readLines place := by
  rw [readLines, readLines, read_outside (same.sameOutside []) (entryAt_relisted same)]

end Relisted

end FileSystem

end ImportAtlas
