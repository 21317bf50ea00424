import ImportAtlas.Proofs.FileSystem.Growth
import ImportAtlas.Proofs.FileSystem.Lookup

/-! # Appending

Main statements: creating directories changes no file, and appending to a place changes the file
there and no other.
-/

namespace ImportAtlas.FileSystem

open Entry (Alike)

variable {system other last : FileSystem} {place : Location} {trail : Trail}

/-! ## Changes at one place -/

private theorem exists_of_rel {α : Type} {related : α → α → Prop} {value : α} {found? : Option α}
    (rel : Option.Rel related (some value) found?) :
    ∃ found, found? = some found ∧ related value found := by
  cases rel with
  | some holds => exact ⟨_, rfl, holds⟩

section Change

variable {entry : Entry} (spot : system.top.HasSpot trail)
  (leaf : ∀ below ≠ [], entry.at? below = none)

include spot leaf

theorem grows_withEntry
    (kept : ∀ old, system.top.at? trail = some old → Alike (· <+: ·) old entry) :
    system.Grows (system.withEntry trail (some entry)) where
  workingDirectory := rfl
  isPrivileged := rfl
  top := by
    intro asked old found
    by_cases isChanged : asked = trail
    · subst isChanged
      exact ⟨entry, Entry.at?_withEntry spot entry, kept old found⟩
    · have same := Entry.rel_at?_withEntry_of_ne spot leaf isChanged
      rw [found] at same
      rcases exists_of_rel same with ⟨own, foundOther, alike⟩
      exact ⟨own, foundOther, alike.extends⟩

theorem content?_withEntry_of_ne {asked : Trail} (different : asked ≠ trail) :
    (system.withEntry trail (some entry)).content? asked = system.content? asked := by
  have same := Entry.rel_at?_withEntry_of_ne spot leaf different
  unfold content?
  rw [withEntry]
  generalize system.top.at? asked = found at same ⊢
  generalize (system.top.withEntry trail (some entry)).at? asked = foundOther at same ⊢
  cases same with
  | none => rfl
  | some alike =>
      cases alike with
      | file _ equal => simp [Entry.content?, equal]
      | _ => rfl

end Change

/-! ## Creating directories -/

/-- A file system has all that another one has, and the same in all files. -/
structure Furnishes (system other : FileSystem) : Prop where
  grows : system.Grows other
  content : ∀ trail, other.content? trail = system.content? trail

namespace Furnishes

theorem refl (system : FileSystem) : system.Furnishes system :=
  ⟨.refl system, fun _ => rfl⟩

theorem trans (furnishes : system.Furnishes other) (further : other.Furnishes last) :
    system.Furnishes last :=
  ⟨furnishes.grows.trans further.grows,
    fun trail => (further.content trail).trans (furnishes.content trail)⟩

end Furnishes

private theorem furnishes_createDirectory (created : system.createDirectory place = .ok other) :
    system.Furnishes other := by
  unfold createDirectory create at created
  split at created
  · cases created
  · cases created
  · rename_i trail found
    obtain rfl := Except.ok.inj created
    have free := isFree_of_lookup found
    have leaf : ∀ below ≠ [], (Entry.directory .newDirectory []).at? below = none := by
      intro below nonempty
      obtain ⟨name, rest, rfl⟩ := List.exists_cons_of_ne_nil nonempty
      rfl
    refine ⟨grows_withEntry free.hasSpot leaf fun old isOld => ?_, fun asked => ?_⟩
    · rw [free.at?_eq_none] at isOld
      cases isOld
    · by_cases isCreated : asked = trail
      · subst isCreated
        rw [content?, content?, withEntry, Entry.at?_withEntry free.hasSpot, free.at?_eq_none]
        rfl
      · exact content?_withEntry_of_ne free.hasSpot leaf isCreated

private theorem furnishes_ensureDirectory (ensured : system.ensureDirectory place = .ok other) :
    system.Furnishes other := by
  unfold ensureDirectory at ensured
  repeat' split at ensured
  · rename_i created
    obtain rfl := Except.ok.inj ensured
    exact furnishes_createDirectory created
  · cases ensured
  · obtain rfl := Except.ok.inj ensured
    exact .refl _
  · cases ensured
  · cases ensured

private theorem ok_of_mapError {ε δ α : Type} {outcome : Except ε α} {change : ε → δ} {value : α}
    (succeeded : outcome.mapError change = .ok value) : outcome = .ok value := by
  cases outcome with
  | error fault => cases succeeded
  | ok result => rw [Except.ok.inj succeeded]

private theorem furnishes_ensureDirectoriesFrom {anchor : String} {reversed : List String}
    (ensured : system.ensureDirectoriesFrom anchor reversed = .ok other) :
    system.Furnishes other := by
  induction reversed generalizing other with
  | nil => exact furnishes_ensureDirectory (ok_of_mapError ensured)
  | cons name above induction =>
      rw [ensureDirectoriesFrom] at ensured
      split at ensured
      · rename_i done
        obtain rfl := Except.ok.inj ensured
        exact furnishes_ensureDirectory done
      · split at ensured
        · cases ensured
        · rename_i above done
          exact (induction done).trans (furnishes_ensureDirectory (ok_of_mapError ensured))
      · cases ensured

theorem furnishes_ensureDirectories (ensured : system.ensureDirectories place = .ok other) :
    system.Furnishes other :=
  furnishes_ensureDirectoriesFrom ensured

/-! ## Appending -/

/-- A file system in which the file at a trail has grown or has been created, and no other. -/
structure Appends (trail : Trail) (added : List UInt8) (system other : FileSystem) : Prop where
  grows : system.Grows other
  content : other.content? trail = some ((system.content? trail).getD [] ++ added)
  beside : ∀ asked ≠ trail, other.content? asked = system.content? asked

theorem Appends.trans {added more : List UInt8} (appends : system.Appends trail added other)
    (further : other.Appends trail more last) : system.Appends trail (added ++ more) last where
  grows := appends.grows.trans further.grows
  content := by rw [further.content, appends.content, Option.getD_some, List.append_assoc]
  beside asked different := (further.beside asked different).trans (appends.beside asked different)

theorem Furnishes.appends {added : List UInt8} (furnishes : system.Furnishes other)
    (appends : other.Appends trail added last) : system.Appends trail added last where
  grows := furnishes.grows.trans appends.grows
  content := by rw [appends.content, furnishes.content]
  beside asked different := (appends.beside asked different).trans (furnishes.content asked)

theorem appends_withEntry {permission : Permission} {content added : List UInt8}
    (spot : system.top.HasSpot trail) (holds : (system.content? trail).getD [] = content)
    (kept : ∀ old, system.top.at? trail = some old → old = .file permission content) :
    system.Appends trail added
      (system.withEntry trail (some (.file permission (content ++ added)))) := by
  have leaf : ∀ below ≠ [], (Entry.file permission (content ++ added)).at? below = none := by
    intro below nonempty
    obtain ⟨name, rest, rfl⟩ := List.exists_cons_of_ne_nil nonempty
    rfl
  refine ⟨grows_withEntry spot leaf fun old isOld => ?_, ?_, fun asked =>
    content?_withEntry_of_ne spot leaf⟩
  · rw [kept old isOld]
    exact .file permission (List.prefix_append content added)
  · rw [holds, content?, withEntry, Entry.at?_withEntry spot]
    rfl

theorem appends_of_held {permission : Permission} {content : List UInt8}
    (held : system.top.at? trail = some (.file permission content)) (added : List UInt8) :
    system.Appends trail added
      (system.withEntry trail (some (.file permission (content ++ added)))) := by
  refine appends_withEntry (Entry.hasSpot_of_at? held rfl) (by rw [content?, held]; rfl) ?_
  intro old isOld
  exact Option.some.inj (isOld.symm.trans held)

private theorem appends_of_isFree (free : system.IsFree trail) (added : List UInt8) :
    system.Appends trail added (system.withEntry trail (some (.file .newFile ([] ++ added)))) := by
  refine appends_withEntry free.hasSpot (by rw [content?, free.at?_eq_none]; rfl) ?_
  intro old isOld
  rw [free.at?_eq_none] at isOld
  cases isOld

/-- Appending to a place changes the file there, which is found again, or nothing if what is there
has no content. -/
theorem appendTo_cases {added : List UInt8} (appended : system.appendTo place added = .ok other) :
    (∃ trail, other.lookup true place = .ok (.entry trail) ∧
      Appends trail added system other) ∨
    (other = system ∧ ∃ trail, system.lookup true place = .ok (.entry trail) ∧
      system.content? trail = none) := by
  unfold appendTo edit at appended
  split at appended
  · cases appended
  · rename_i trail found
    obtain rfl := Except.ok.inj appended
    have free := isFree_of_lookup found
    have appends := appends_of_isFree free added
    refine Or.inl ⟨trail, appends.grows.lookup_eq ?_ found, appends⟩
    rintro _ ⟨⟩
    exact ⟨_, Entry.at?_withEntry free.hasSpot _, rfl⟩
  · rename_i trail found
    split at appended
    · rename_i permission content held
      obtain rfl := Except.ok.inj appended
      have appends := appends_of_held held added
      exact Or.inl ⟨trail, appends.grows.lookup_entry found, appends⟩
    · cases appended
    · rename_i noFile _
      obtain rfl := Except.ok.inj appended
      refine Or.inr
        ⟨rfl, trail, found, Option.eq_none_iff_forall_ne_some.mpr fun content holds => ?_⟩
      rcases exists_file_of_content? holds with ⟨permission, held⟩
      exact noFile permission content held

theorem eq_of_appendTo {added : List UInt8}
    (found : system.lookup true place = .ok (.entry trail)) (nothing : system.content? trail = none)
    (appended : system.appendTo place added = .ok other) : other = system := by
  rw [appendTo, edit, found] at appended
  simp only at appended
  split at appended
  · rename_i permission content held
    rw [content?, held] at nothing
    cases nothing
  · cases appended
  · exact (Except.ok.inj appended).symm

theorem exists_content_of_isFile? (isFile : system.isFile? place = .ok true) :
    ∃ trail content, system.lookup true place = .ok (.entry trail) ∧
      system.content? trail = some content := by
  rcases entryAt_of_test isFile with ⟨entry, found, isFile⟩
  rcases trailOf_of_entryAt found with ⟨trail, isTrail, held⟩
  cases entry with
  | file permission content =>
      exact ⟨trail, content, lookup_of_trailOf isTrail, by rw [content?, held]; rfl⟩
  | _ => cases isFile

theorem Grows.of_appendTo {added : List UInt8}
    (appended : system.appendTo place added = .ok other) :
    system.Grows other := by
  rcases appendTo_cases appended with ⟨trail, _, appends⟩ | ⟨rfl, _⟩
  · exact appends.grows
  · exact .refl _

theorem exists_appendTo {content : List UInt8}
    (found : system.lookup true place = .ok (.entry trail))
    (holds : system.content? trail = some content) (added : List UInt8) :
    ∃ other, system.appendTo place added = .ok other ∧ Appends trail added system other := by
  rcases exists_file_of_content? holds with ⟨permission, held⟩
  refine ⟨_, ?_, appends_of_held held added⟩
  rw [appendTo, edit, found]
  simp only [held]

end ImportAtlas.FileSystem
