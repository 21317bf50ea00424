import ImportAtlas.FileSystem.Source
import ImportAtlas.Proofs.FileSystem.Descent

/-! # File systems in which no directory is locked

The same file system in which every directory is open to everyone. A call that is not denied comes
to the same there: what it finds is what it found before, with the directories opened.
-/

namespace ImportAtlas

namespace Entry

mutual

/-- The same tree with every directory open to everyone. -/
def unlocked : Entry → Entry
  | directory _ members => directory .newDirectory (unlockedMembers members)
  | entry => entry

def unlockedMembers : List (String × Entry) → List (String × Entry)
  | [] => []
  | (name, entry) :: rest => (name, entry.unlocked) :: unlockedMembers rest

end

@[simp] theorem unlocked_directory (permission : Permission) (members : List (String × Entry)) :
    (directory permission members).unlocked =
      directory .newDirectory (unlockedMembers members) := by
  rw [unlocked]

theorem unlocked_of_not_directory {entry : Entry} (other : entry.isDirectory = false) :
    entry.unlocked = entry := by
  cases entry with
  | directory => cases other
  | _ => rw [unlocked]; nofun

private theorem unlockedMembers_eq_map (members : List (String × Entry)) :
    unlockedMembers members = members.map fun member => (member.1, member.2.unlocked) := by
  induction members with
  | nil => simp [unlockedMembers]
  | cons member rest induction => simp [unlockedMembers, induction]

@[simp] theorem isDirectory_unlocked (entry : Entry) :
    entry.unlocked.isDirectory = entry.isDirectory := by
  cases entry <;> simp [unlocked, isDirectory]

@[simp] theorem isFile_unlocked (entry : Entry) : entry.unlocked.isFile = entry.isFile := by
  cases entry <;> simp [unlocked, isFile]

@[simp] theorem isLink_unlocked (entry : Entry) : entry.unlocked.isLink = entry.isLink := by
  cases entry <;> simp [unlocked, isLink]

theorem get?_unlockedMembers (name : String) (members : List (String × Entry)) :
    Keyed.get? name (unlockedMembers members) = (Keyed.get? name members).map unlocked := by
  induction members with
  | nil => simp [unlockedMembers, Keyed.get?]
  | cons member rest induction =>
      by_cases found : member.1 = name <;> simp [unlockedMembers, Keyed.get?, found, induction]

theorem at?_unlocked (entry : Entry) (trail : Trail) :
    entry.unlocked.at? trail = (entry.at? trail).map unlocked := by
  induction trail generalizing entry with
  | nil => rfl
  | cons name rest induction =>
      cases entry with
      | directory permission members =>
          rw [unlocked_directory, at?, at?, get?_unlockedMembers]
          cases Keyed.get? name members with
          | none => rfl
          | some member => exact induction member
      | _ => simp [unlocked, at?]

theorem isProper_unlocked {entry : Entry} (proper : entry.isProper = true) :
    entry.unlocked.isProper = true := by
  induction entry using Entry.induct with
  | leaf entry other => rwa [unlocked_of_not_directory other]
  | directory permission members induction =>
      rcases isProper_directory_iff.mp proper with ⟨distinct, each⟩
      rw [unlocked_directory, isProper_directory_iff, unlockedMembers_eq_map]
      refine ⟨by simpa [Function.comp_def] using distinct, ?_⟩
      intro member inUnlocked
      rcases List.mem_map.mp inUnlocked with ⟨inner, inMembers, rfl⟩
      rcases each inner inMembers with ⟨isName, innerProper⟩
      exact ⟨isName, induction inner inMembers innerProper⟩

end Entry

namespace FileSystem

/-- The same file system with every directory open to everyone. -/
def unlocked (system : FileSystem) : FileSystem :=
  { system with top := system.top.unlocked }

variable {system : FileSystem} {followsLast : Bool} {place : Location}

theorem canRead_unlocked {entry : Entry} (readable : system.canRead entry = true) :
    system.unlocked.canRead entry.unlocked = true := by
  cases entry <;> simp_all [canRead, FileSystem.unlocked, Entry.unlocked, Entry.permission,
    Permission.newDirectory]

theorem canSearch_unlocked {entry : Entry} (searchable : system.canSearch entry = true) :
    system.unlocked.canSearch entry.unlocked = true := by
  cases entry <;> simp_all [canSearch, FileSystem.unlocked, Entry.unlocked, Entry.permission,
    Permission.newDirectory]

/-! ## Lookups -/

private theorem followParts_unlocked
    {followLink followOpen : Trail → List String → Except Cause Destination}
    (links : ∀ trail parts, followLink trail parts = .error .denied ∨
      followLink trail parts = followOpen trail parts) (trail : Trail) (parts : List String) :
    system.followParts followsLast followLink trail parts = .error .denied ∨
      system.followParts followsLast followLink trail parts =
        system.unlocked.followParts followsLast followOpen trail parts := by
  have atOpen : ∀ trail, system.unlocked.top.at? trail =
      (system.top.at? trail).map Entry.unlocked := fun trail => Entry.at?_unlocked _ trail
  have searchableOpen : ∀ members,
      system.unlocked.canSearch (.directory .newDirectory members) = true := by
    simp [canSearch, Entry.permission, Permission.newDirectory]
  fun_induction followParts system followsLast followLink trail parts with
  | case1 => exact Or.inr rfl
  | case2 => exact Or.inl rfl
  | case9 trail part rest permission members atTrail searchable notHere notAbove shortEnough
      target isMember goesOn start =>
      have goesOnOpen : (rest.isEmpty && !followsLast) = false := by simpa using goesOn
      rw [followParts, atOpen, atTrail]
      simpa [searchableOpen, notHere, notAbove, shortEnough, Entry.get?_unlockedMembers, isMember,
        Entry.unlocked, goesOnOpen] using links start (linkParts target ++ rest)
  | case10 trail part rest permission members atTrail searchable notHere notAbove shortEnough
      member notLink isMember induction =>
      rw [followParts, atOpen, atTrail]
      cases member with
      | link target => exact absurd rfl (notLink target)
      | _ =>
          simpa [searchableOpen, notHere, notAbove, shortEnough, Entry.get?_unlockedMembers,
            isMember, Entry.unlocked] using induction
  | _ => simp_all [followParts, Entry.get?_unlockedMembers, Entry.unlocked]

private theorem follow_unlocked (links : Nat) (trail : Trail) (parts : List String) :
    system.follow followsLast links trail parts = .error .denied ∨
      system.follow followsLast links trail parts =
        system.unlocked.follow followsLast links trail parts := by
  induction links generalizing trail parts with
  | zero => exact followParts_unlocked (fun _ _ => Or.inr rfl) trail parts
  | succ links induction => exact followParts_unlocked induction trail parts

/-- A lookup that is not denied finds what it finds with all directories open. -/
theorem entryAt_unlocked (followsLast : Bool) (place : Location) :
    system.entryAt followsLast place = .error .denied ∨
      system.unlocked.entryAt followsLast place =
        (system.entryAt followsLast place).map Entry.unlocked := by
  have looked : system.lookup followsLast place = .error .denied ∨
      system.lookup followsLast place = system.unlocked.lookup followsLast place := by
    unfold lookup
    split
    · exact Or.inr rfl
    · split
      · exact Or.inr rfl
      · exact follow_unlocked _ _ _
  unfold entryAt trailOf
  rcases looked with denied | same
  · exact Or.inl (by rw [denied])
  · refine Or.inr ?_
    rw [← same]
    cases system.lookup followsLast place with
    | error cause => rfl
    | ok destination =>
        cases destination with
        | free trail => rfl
        | entry trail =>
            have atOpen : system.unlocked.top.at? trail =
                (system.top.at? trail).map Entry.unlocked := Entry.at?_unlocked _ trail
            simp only [atOpen]
            cases system.top.at? trail <;> rfl

theorem entryAt_unlocked_of_ok {entry : Entry}
    (found : system.entryAt followsLast place = .ok entry) :
    system.unlocked.entryAt followsLast place = .ok entry.unlocked := by
  rcases entryAt_unlocked followsLast place with denied | same
  · rw [denied] at found
    cases found
  · rw [same, found]
    rfl

/-! ## Questions and reading -/

theorem test_unlocked {condition : Entry → Bool}
    (kept : ∀ entry : Entry, condition entry.unlocked = condition entry) {answer : Bool}
    (answered : system.test followsLast condition place = .ok answer) :
    system.unlocked.test followsLast condition place = .ok answer := by
  unfold test at answered ⊢
  rcases @entryAt_unlocked system followsLast place with denied | same
  · simp [denied, Cause.isAbsence] at answered
  · rw [same, ← answered]
    cases system.entryAt followsLast place with
    | error cause => rfl
    | ok entry => exact congrArg Except.ok (kept entry)

theorem read_unlocked {entry : Entry} (found : system.entryAt true place = .ok entry)
    (other : entry.isDirectory = false) : system.unlocked.read place = system.read place := by
  have foundOpen := entryAt_unlocked_of_ok found
  rw [Entry.unlocked_of_not_directory other] at foundOpen
  have sameRight : system.unlocked.canRead entry = system.canRead entry := rfl
  simp only [read, found, foundOpen, sameRight]

theorem read_cases_unlocked (place : Location) :
    (∃ cause, system.read place = .error cause) ∨
      system.unlocked.read place = system.read place := by
  cases found : system.entryAt true place with
  | error cause => exact Or.inl ⟨cause, by simp [read, found]⟩
  | ok entry =>
      by_cases isDirectory : entry.isDirectory = true
      · rcases Entry.isDirectory_iff.mp isDirectory with ⟨permission, members, rfl⟩
        refine Or.inl ?_
        simp only [read, found]
        split
        · exact ⟨.denied, rfl⟩
        · exact ⟨.isDirectory, rfl⟩
      · exact Or.inr (read_unlocked found (by simpa using isDirectory))

theorem list_unlocked {members : List (String × Entry)}
    (listed : system.list place = .ok members) :
    ∃ others, system.unlocked.list place = .ok others := by
  unfold list at listed
  split at listed
  · cases listed
  · rename_i permission inner found
    split at listed
    · rename_i readable
      have readableOpen := canRead_unlocked readable
      rw [Entry.unlocked_directory] at readableOpen
      refine ⟨Entry.unlockedMembers inner, ?_⟩
      simp [list, entryAt_unlocked_of_ok found, readableOpen]
    · cases listed
  · cases listed

end FileSystem

end ImportAtlas
