import ImportAtlas.Proofs.FileSystem.Contents
import ImportAtlas.Proofs.FileSystem.Descent

/-! # File systems that grow

A file system grows where nothing is removed and files become longer. Main statements: each file
still begins with what was in it, and what a lookup has found it finds again.
-/

namespace ImportAtlas

open Entry (Alike)

/-! ## Leaves of a tree -/

namespace Entry

theorem Alike.trans {related : List UInt8 → List UInt8 → Prop} {entry own last : Entry}
    (transitive : ∀ {first second third}, related first second → related second third →
      related first third)
    (alike : Alike related entry own) (next : Alike related own last) :
    Alike related entry last := by
  cases alike with
  | file permission holds =>
      cases next with
      | file _ holdsNext => exact .file permission (transitive holds holdsNext)
  | directory permission members others =>
      cases next with
      | directory _ _ last => exact .directory permission members last
  | link target => exact next
  | pipe permission => exact next

theorem Alike.extends {entry own : Entry} (alike : Alike Eq entry own) :
    Alike (· <+: ·) entry own := by
  cases alike with
  | file permission equal => exact .file permission (equal ▸ List.prefix_rfl)
  | directory permission members others => exact .directory permission members others
  | link target => exact .link target
  | pipe permission => exact .pipe permission

def content? : Entry → Option (List UInt8)
  | file _ content => some content
  | _ => none

/-- Whether an entry without members can be put at a trail: there is one, or a free name in a
directory. -/
def HasSpot : Entry → Trail → Prop
  | entry, [] => entry.isDirectory = false
  | directory _ members, name :: rest =>
      match Keyed.get? name members with
      | none => rest = []
      | some member => member.HasSpot rest
  | _, _ :: _ => False

theorem hasSpot_of_at? {tree entry : Entry} {trail : Trail} (found : tree.at? trail = some entry)
    (noDirectory : entry.isDirectory = false) : tree.HasSpot trail := by
  induction trail generalizing tree with
  | nil =>
      rw [at?, Option.some.injEq] at found
      rw [found]
      exact noDirectory
  | cons name rest induction =>
      cases tree with
      | directory permission members =>
          simp only [at?, Option.bind_eq_some_iff] at found
          rcases found with ⟨member, present, further⟩
          simp only [HasSpot, present]
          exact induction further
      | _ => simp [at?] at found

private theorem hasSpot_of_free {tree : Entry} {above : Trail} {name : String}
    {permission : Permission}
    {members : List (String × Entry)}
    (reached : tree.at? above = some (.directory permission members))
    (free : Keyed.get? name members = none) : tree.HasSpot (above ++ [name]) := by
  induction above generalizing tree with
  | nil =>
      rw [at?, Option.some.injEq] at reached
      simp [reached, HasSpot, free]
  | cons first rest induction =>
      cases tree with
      | directory outer others =>
          simp only [at?, Option.bind_eq_some_iff] at reached
          rcases reached with ⟨member, present, further⟩
          simp only [List.cons_append, HasSpot, present]
          exact induction further
      | _ => simp [at?] at reached

theorem exists_withEntry {permission : Permission} {members : List (String × Entry)} {name : String}
    {rest : Trail} (spot : (directory permission members).HasSpot (name :: rest)) (entry : Entry) :
    ∃ inner, (directory permission members).withEntry (name :: rest) (some entry) =
        .directory permission (Keyed.put name inner members) ∧
      ((Keyed.get? name members = none ∧ rest = [] ∧ inner = entry) ∨
        ∃ member, Keyed.get? name members = some member ∧ member.HasSpot rest ∧
          inner = member.withEntry rest (some entry)) := by
  cases found : Keyed.get? name members with
  | none =>
      simp only [HasSpot, found] at spot
      subst spot
      exact ⟨entry, rfl, Or.inl ⟨rfl, rfl, rfl⟩⟩
  | some member =>
      simp only [HasSpot, found] at spot
      exact ⟨_, withEntry_cons found rest entry, Or.inr ⟨member, rfl, spot, rfl⟩⟩

theorem at?_withEntry {tree : Entry} {trail : Trail} (spot : tree.HasSpot trail) (entry : Entry) :
    (tree.withEntry trail (some entry)).at? trail = some entry := by
  induction trail generalizing tree with
  | nil => rfl
  | cons name rest induction =>
      cases tree with
      | directory permission members =>
          rcases exists_withEntry spot entry with
            ⟨inner, isResult, ⟨_, rfl, rfl⟩ | ⟨member, _, memberSpot, rfl⟩⟩
          · simp [isResult, at?]
          · simp [isResult, at?, induction memberSpot]
      | _ => exact spot.elim

theorem rel_at?_withEntry_of_ne {tree entry : Entry} {trail asked : Trail}
    (spot : tree.HasSpot trail) (leaf : ∀ below ≠ [], entry.at? below = none)
    (different : asked ≠ trail) :
    Option.Rel (Alike Eq) (tree.at? asked) ((tree.withEntry trail (some entry)).at? asked) := by
  induction trail generalizing tree asked with
  | nil =>
      have nothing : tree.at? asked = none := by
        cases asked with
        | nil => exact absurd rfl different
        | cons name below => cases tree <;> first | rfl | cases spot
      have stillNothing : (tree.withEntry [] (some entry)).at? asked = none := leaf asked different
      rw [nothing, stillNothing]
      exact .none
  | cons name rest induction =>
      cases tree with
      | directory permission members =>
          rcases exists_withEntry spot entry with ⟨inner, isResult, isInner⟩
          rw [isResult]
          cases asked with
          | nil => exact .some (.directory permission _ _)
          | cons key below =>
              simp only [at?, Keyed.get?_put]
              by_cases isName : name = key
              · subst isName
                rw [if_pos rfl]
                rcases isInner with ⟨absent, rfl, rfl⟩ | ⟨member, present, memberSpot, rfl⟩
                · have nothing : inner.at? below = none :=
                    leaf below fun isEmpty => different (by rw [isEmpty])
                  simp only [absent, Option.bind_none, Option.bind_some, nothing]
                  exact .none
                · rw [present]
                  exact induction memberSpot fun same => different (by rw [same])
              · rw [if_neg isName]
                exact rel_refl (fun _ => rfl) _
      | _ => exact spot.elim

end Entry

namespace FileSystem

/-! ## Growth -/

def content? (system : FileSystem) (trail : Trail) : Option (List UInt8) :=
  (system.top.at? trail).bind Entry.content?

theorem exists_file_of_content? {system : FileSystem} {trail : Trail} {content : List UInt8}
    (holds : system.content? trail = some content) :
    ∃ permission, system.top.at? trail = some (.file permission content) := by
  rcases Option.bind_eq_some_iff.mp holds with ⟨entry, held, isContent⟩
  cases entry with
  | file permission own =>
      obtain rfl := Option.some.inj isContent
      exact ⟨permission, held⟩
  | _ => cases isContent

/-- A file system has all that another one has, and maybe more at the ends of files. -/
structure Grows (system other : FileSystem) : Prop where
  workingDirectory : other.workingDirectory = system.workingDirectory
  isPrivileged : other.isPrivileged = system.isPrivileged
  top : ∀ {trail entry}, system.top.at? trail = some entry →
    ∃ own, other.top.at? trail = some own ∧ Alike (· <+: ·) entry own

variable {system other last : FileSystem} {followsLast : Bool} {place : Location} {trail : Trail}

namespace Grows

theorem refl (system : FileSystem) : system.Grows system where
  workingDirectory := rfl
  isPrivileged := rfl
  top found := ⟨_, found, .refl List.prefix_refl _⟩

theorem trans (grows : system.Grows other) (further : other.Grows last) : system.Grows last where
  workingDirectory := further.workingDirectory.trans grows.workingDirectory
  isPrivileged := further.isPrivileged.trans grows.isPrivileged
  top found := by
    rcases grows.top found with ⟨own, foundOther, alike⟩
    rcases further.top foundOther with ⟨ownLast, foundLast, alikeLast⟩
    exact ⟨ownLast, foundLast, alike.trans List.IsPrefix.trans alikeLast⟩

theorem content? (grows : system.Grows other) {content : List UInt8}
    (holds : system.content? trail = some content) :
    ∃ added, other.content? trail = some (content ++ added) := by
  rcases exists_file_of_content? holds with ⟨permission, held⟩
  rcases grows.top held with ⟨own, foundOther, ⟨_, added, rfl⟩⟩
  exact ⟨added, by rw [FileSystem.content?, foundOther]; rfl⟩

end Grows

/-! ## Lookups -/

def Destination.reached : Destination → Trail
  | .entry trail => trail
  | .free trail => trail

/-- Whether something other than a link is where a lookup has found a free name. -/
def Destination.IsTaken (other : FileSystem) (destination : Destination) : Prop :=
  ∀ trail, destination = .free trail →
    ∃ entry, other.top.at? trail = some entry ∧ entry.isLink = false

theorem Grows.exists_members (grows : system.Grows other) {permission : Permission}
    {members : List (String × Entry)}
    (atTrail : system.top.at? trail = some (.directory permission members)) :
    ∃ others, other.top.at? trail = some (.directory permission others) ∧
      other.canSearch (.directory permission others) =
        system.canSearch (.directory permission members) ∧
      ∀ {name member}, Keyed.get? name members = some member →
        ∃ own, Keyed.get? name others = some own ∧ Alike (· <+: ·) member own := by
  rcases grows.top atTrail with ⟨own, atOther, alike⟩
  cases alike with
  | directory _ _ others =>
      refine ⟨others, atOther, ?_, fun {name member} present => ?_⟩
      · rw [canSearch, canSearch, grows.isPrivileged]
        rfl
      · rcases grows.top ((Entry.at?_concat atTrail name).trans present) with
          ⟨own, foundOther, alikeMember⟩
        exact ⟨own, (Entry.at?_concat atOther name).symm.trans foundOther, alikeMember⟩

theorem Grows.followParts_eq (grows : system.Grows other) {destination : Destination}
    (taken : destination.IsTaken other)
    {followLink followOther : Trail → List String → Except Cause Destination}
    (links : ∀ trail parts, followLink trail parts = .ok destination →
      followOther trail parts = .ok (.entry destination.reached))
    {parts : List String}
    (found : system.followParts followsLast followLink trail parts = .ok destination) :
    other.followParts followsLast followOther trail parts = .ok (.entry destination.reached) := by
  fun_induction followParts system followsLast followLink trail parts with
  | case1 trail =>
      obtain rfl := Except.ok.inj found
      rfl
  | case3 trail rest permission members atTrail notClosed induction =>
      rcases grows.exists_members atTrail with ⟨others, atOther, searchable, _⟩
      simp only [followParts, atOther, searchable, notClosed]
      exact induction found
  | case4 trail rest permission members atTrail notClosed notHere induction =>
      rcases grows.exists_members atTrail with ⟨others, atOther, searchable, _⟩
      simp only [followParts, atOther, searchable, notClosed, notHere]
      exact induction found
  | case6 trail part rest permission members atTrail notClosed notHere notAbove shortEnough absent
      isLast =>
      rcases grows.exists_members atTrail with ⟨others, atOther, searchable, _⟩
      obtain rfl := Except.ok.inj found
      obtain rfl := List.isEmpty_iff.mp isLast
      rcases taken _ rfl with ⟨entry, isTaken, noLink⟩
      rw [Entry.at?_concat atOther] at isTaken
      simp only [followParts, atOther, searchable, notClosed, notHere, notAbove, shortEnough,
        isTaken]
      cases entry with
      | link target => cases noLink
      | _ => rfl
  | case8 trail part rest permission members atTrail notClosed notHere notAbove shortEnough target
      isMember ends =>
      rcases grows.exists_members atTrail with ⟨others, atOther, searchable, kept⟩
      rcases kept isMember with ⟨own, isOther, ⟨⟩⟩
      obtain rfl := Except.ok.inj found
      simp only [followParts, atOther, searchable, notClosed, notHere, notAbove, shortEnough,
        isOther, ends]
      rfl
  | case9 trail part rest permission members atTrail notClosed notHere notAbove shortEnough target
      isMember goesOn start =>
      rcases grows.exists_members atTrail with ⟨others, atOther, searchable, kept⟩
      rcases kept isMember with ⟨own, isOther, ⟨⟩⟩
      simp only [followParts, atOther, searchable, notClosed, notHere, notAbove, shortEnough,
        isOther, goesOn]
      exact links start _ found
  | case10 trail part rest permission members atTrail notClosed notHere notAbove shortEnough member
      notLink isMember induction =>
      rcases grows.exists_members atTrail with ⟨others, atOther, searchable, kept⟩
      rcases kept isMember with ⟨own, isOther, alike⟩
      simp only [followParts, atOther, searchable, notClosed, notHere, notAbove, shortEnough,
        isOther]
      cases alike with
      | link target => exact absurd rfl (notLink target)
      | _ => exact induction found
  | _ => cases found

theorem Grows.follow_eq (grows : system.Grows other) {destination : Destination}
    (taken : destination.IsTaken other) {links : Nat} {parts : List String}
    (found : system.follow followsLast links trail parts = .ok destination) :
    other.follow followsLast links trail parts = .ok (.entry destination.reached) := by
  induction links generalizing trail parts with
  | zero =>
      refine grows.followParts_eq taken ?_ found
      exact fun _ _ refused => nomatch refused
  | succ links induction => exact grows.followParts_eq taken (fun _ _ => induction) found

theorem Grows.lookup_eq (grows : system.Grows other) {destination : Destination}
    (taken : destination.IsTaken other)
    (found : system.lookup followsLast place = .ok destination) :
    other.lookup followsLast place = .ok (.entry destination.reached) := by
  unfold lookup at found ⊢
  rw [grows.workingDirectory]
  split at found
  · cases found
  rename_i clean
  rw [if_neg clean]
  split at found
  · cases found
  rename_i isShort
  rw [if_neg isShort]
  exact grows.follow_eq taken found

theorem Grows.lookup_entry (grows : system.Grows other)
    (found : system.lookup followsLast place = .ok (.entry trail)) :
    other.lookup followsLast place = .ok (.entry trail) := by
  refine grows.lookup_eq ?_ found
  exact fun _ isFree => nomatch isFree

def IsFree (system : FileSystem) (trail : Trail) : Prop :=
  ∃ above name permission members, trail = above ++ [name] ∧
    system.top.at? above = some (.directory permission members) ∧ Keyed.get? name members = none

private theorem isFree_of_followParts {reached : Trail}
    {followLink : Trail → List String → Except Cause Destination}
    (links : ∀ trail parts, followLink trail parts = .ok (.free reached) → system.IsFree reached)
    {parts : List String}
    (found : system.followParts followsLast followLink trail parts = .ok (.free reached)) :
    system.IsFree reached := by
  fun_induction followParts system followsLast followLink trail parts with
  | case6 trail part rest permission members atTrail _ _ _ _ absent isLast =>
      cases found
      exact ⟨trail, part, permission, members, rfl, atTrail, absent⟩
  | case9 => exact links _ _ found
  | case3 trail rest permission members _ _ induction => exact induction found
  | case4 trail rest permission members _ _ _ induction => exact induction found
  | case10 trail part rest permission members _ _ _ _ _ member _ _ induction =>
      exact induction found
  | _ => cases found

private theorem isFree_of_follow {links : Nat} {reached : Trail} {parts : List String}
    (found : system.follow followsLast links trail parts = .ok (.free reached)) :
    system.IsFree reached := by
  induction links generalizing trail parts with
  | zero =>
      refine isFree_of_followParts ?_ found
      exact fun _ _ refused => nomatch refused
  | succ links induction => exact isFree_of_followParts (fun _ _ => induction) found

theorem isFree_of_lookup (found : system.lookup followsLast place = .ok (.free trail)) :
    system.IsFree trail := by
  unfold lookup at found
  repeat' split at found
  · cases found
  · cases found
  · exact isFree_of_follow found
  · exact isFree_of_follow found

namespace IsFree

variable (free : system.IsFree trail)
include free

theorem hasSpot : system.top.HasSpot trail := by
  obtain ⟨above, name, permission, members, rfl, reached, absent⟩ := free
  exact Entry.hasSpot_of_free reached absent

theorem at?_eq_none : system.top.at? trail = none := by
  obtain ⟨above, name, permission, members, rfl, reached, absent⟩ := free
  rw [Entry.at?_concat reached, absent]

end IsFree

end FileSystem

end ImportAtlas
