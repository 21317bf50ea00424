import ImportAtlas.FileSystem.Basic

/-! # Failing lookups

Which causes a lookup can fail for, and what follows from what it does not fail for.
-/

namespace ImportAtlas.FileSystem

variable {system : FileSystem} {followsLast : Bool}

/-! ## Causes -/

def followCauses : List Cause :=
  [.missing, .denied, .notDirectory, .nameTooLong, .linkLoop]

private theorem cause_of_followParts {followLink : Trail → List String → Except Cause Destination}
    (links : ∀ trail parts cause, followLink trail parts = .error cause → cause ∈ followCauses)
    {trail : Trail} {parts : List String} {cause : Cause}
    (failed : system.followParts followsLast followLink trail parts = .error cause) :
    cause ∈ followCauses := by
  fun_induction followParts system followsLast followLink trail parts
  -- A step hands over to a link, fails by itself, or goes on with the remaining names.
  all_goals first
    | exact links _ _ _ failed
    | cases failed <;> decide
    | rename_i induction; exact induction failed

private theorem cause_of_follow {links : Nat} {trail : Trail} {parts : List String} {cause : Cause}
    (failed : system.follow followsLast links trail parts = .error cause) :
    cause ∈ followCauses := by
  induction links generalizing trail parts cause with
  | zero =>
      refine cause_of_followParts ?_ failed
      rintro _ _ _ ⟨⟩
      decide
  | succ links induction => exact cause_of_followParts (fun _ _ _ => induction) failed

private theorem cause_of_lookup {place : Location} {cause : Cause}
    (failed : system.lookup followsLast place = .error cause) :
    '\x00' ∈ place.text.toList ∧ cause = .nullCharacter ∨ cause ∈ followCauses := by
  unfold lookup at failed
  split at failed
  · rename_i holdsNull
    exact Or.inl ⟨List.contains_iff_mem.mp holdsNull, (Except.error.inj failed).symm⟩
  · split at failed
    · exact Or.inr (Except.error.inj failed ▸ by decide)
    · exact Or.inr (cause_of_follow failed)

theorem cause_of_entryAt {place : Location} {cause : Cause}
    (failed : system.entryAt followsLast place = .error cause) :
    '\x00' ∈ place.text.toList ∧ cause = .nullCharacter ∨ cause ∈ followCauses := by
  have missing : Cause.missing ∈ followCauses := by decide
  unfold entryAt at failed
  split at failed
  · rename_i other refused
    obtain rfl : other = cause := Except.error.inj failed
    unfold trailOf at refused
    split at refused
    · rename_i unfound
      rw [Except.error.injEq] at refused
      rw [refused] at unfound
      exact cause_of_lookup unfound
    · exact Or.inr (Except.error.inj refused ▸ missing)
    · cases refused
  · split at failed
    · exact Or.inr (Except.error.inj failed ▸ missing)
    · cases failed

/-- A place without a null character is looked up by the file system itself. -/
theorem entryAt_ne_nullCharacter {place : Location} (clean : '\x00' ∉ place.text.toList) :
    system.entryAt followsLast place ≠ .error .nullCharacter := by
  intro failed
  rcases cause_of_entryAt failed with ⟨holdsNull, _⟩ | followCause
  · exact clean holdsNull
  · exact absurd followCause (by decide)

/-- A failure that does not mean absence is about permissions or the length of a name. -/
theorem refused_of_entryAt {place : Location} {cause : Cause}
    (failed : system.entryAt followsLast place = .error cause) (present : cause.isAbsence = false) :
    cause = .denied ∨ cause = .nameTooLong := by
  rcases cause_of_entryAt failed with ⟨_, rfl⟩ | followCause
  · cases present
  · revert present followCause
    cases cause <;> decide

/-! ## Absence -/

def ByAbsence {α : Type} (outcome : Except Cause α) : Prop :=
  ∀ cause, outcome = .error cause → cause.isAbsence = true

instance {α : Type} (outcome : Except Cause α) : Decidable (ByAbsence outcome) :=
  match outcome with
  | .ok _ => .isTrue nofun
  | .error cause =>
      decidable_of_iff (cause.isAbsence = true)
        ⟨fun absence _ equal => Except.error.inj equal ▸ absence, fun known => known cause rfl⟩

theorem exists_answer {condition : Entry → Bool} {place : Location}
    (byAbsence : ByAbsence (system.test followsLast condition place)) :
    ∃ answer, system.test followsLast condition place = .ok answer := by
  cases outcome : system.test followsLast condition place with
  | ok answer => exact ⟨answer, rfl⟩
  | error cause =>
      exfalso
      have absence := byAbsence cause outcome
      unfold test at outcome
      split at outcome
      · cases outcome
      · split at outcome
        · cases outcome
        · rename_i known
          rw [Except.error.injEq] at outcome
          exact known (outcome ▸ absence)

theorem entryAt_of_test {condition : Entry → Bool} {place : Location}
    (answered : system.test followsLast condition place = .ok true) :
    ∃ entry, system.entryAt followsLast place = .ok entry ∧ condition entry = true := by
  unfold test at answered
  split at answered
  · rename_i entry found
    rw [Except.ok.injEq] at answered
    exact ⟨entry, found, answered⟩
  · split at answered <;> simp at answered

/-! ## Reading -/

theorem size_of_read {place : Location} {bytes : List UInt8}
    (readable : system.read place = .ok bytes) : system.size place = .ok bytes.length := by
  unfold read at readable
  unfold size
  cases found : system.entryAt true place with
  | error cause => simp [found] at readable
  | ok entry =>
      simp only [found] at readable
      split at readable
      · cases readable
      · cases entry <;> simp_all

theorem exists?_of_read {place : Location} {bytes : List UInt8}
    (readable : system.read place = .ok bytes) : system.exists? place = .ok true := by
  unfold read at readable
  unfold exists? test
  cases found : system.entryAt true place with
  | error cause => simp [found] at readable
  | ok entry => rfl

theorem null_not_mem_of_read {place : Location} {bytes : List UInt8}
    (readable : system.read place = .ok bytes) : '\x00' ∉ place.text.toList := by
  intro member
  have refused : system.entryAt true place = .error .nullCharacter := by
    simp [entryAt, trailOf, lookup, member]
  rw [read, refused] at readable
  cases readable

theorem read_ne_nullCharacter {place : Location} (clean : '\x00' ∉ place.text.toList) :
    system.read place ≠ .error .nullCharacter := by
  have found : system.entryAt true place ≠ .error .nullCharacter := entryAt_ne_nullCharacter clean
  unfold read
  cases outcome : system.entryAt true place with
  | error cause => simpa [outcome] using found
  | ok entry => cases entry <;> simp <;> split <;> simp

theorem size_ne_nullCharacter {place : Location} (clean : '\x00' ∉ place.text.toList) :
    system.size place ≠ .error .nullCharacter := by
  have found : system.entryAt true place ≠ .error .nullCharacter := entryAt_ne_nullCharacter clean
  unfold size
  cases outcome : system.entryAt true place with
  | error cause => simpa [outcome] using found
  | ok entry => cases entry <;> simp

end ImportAtlas.FileSystem
