import ImportAtlas.FileSystem.Source
import ImportAtlas.Proofs.FileSystem.Descent

/-! # File systems that differ inside one directory

Two file systems that are the same except strictly inside one directory. A lookup that does not
come to anything inside the directory comes to the same in both, and what it finds can be told
apart only by looking into it.
-/

namespace ImportAtlas

namespace Entry

def shape : Entry → Entry
  | directory permission _ => directory permission []
  | entry => entry

@[simp] theorem shape_directory (permission : Permission) (members : List (String × Entry)) :
    (directory permission members).shape = directory permission [] := rfl

private theorem shape_of_not_directory {entry : Entry} (other : entry.isDirectory = false) :
    entry.shape = entry := by
  cases entry with
  | directory => cases other
  | _ => rfl

@[simp] theorem isDirectory_shape (entry : Entry) :
    entry.shape.isDirectory = entry.isDirectory := by
  cases entry <;> rfl

@[simp] theorem isFile_shape (entry : Entry) : entry.shape.isFile = entry.isFile := by
  cases entry <;> rfl

@[simp] theorem isLink_shape (entry : Entry) : entry.shape.isLink = entry.isLink := by
  cases entry <;> rfl

@[simp] theorem permission_shape (entry : Entry) : entry.shape.permission = entry.permission := by
  cases entry <;> rfl

theorem eq_directory_of_shape {entry : Entry} {permission : Permission}
    {members : List (String × Entry)} (alike : entry.shape = (directory permission members).shape) :
    ∃ others, entry = directory permission others := by
  cases entry with
  | directory own others =>
      rw [shape_directory, shape_directory, directory.injEq] at alike
      exact ⟨others, alike.1 ▸ rfl⟩
  | _ => cases alike

theorem eq_of_shape {entry other : Entry} (alike : other.shape = entry.shape)
    (notDirectory : entry.isDirectory = false) : other = entry := by
  have otherNot : other.isDirectory = false := by
    rw [← isDirectory_shape, alike, isDirectory_shape, notDirectory]
  rwa [shape_of_not_directory notDirectory, shape_of_not_directory otherNot] at alike

theorem exists_isDirectory_iff {found? own? : Option Entry}
    (alike : own?.map shape = found?.map shape) :
    (∃ entry, own? = some entry ∧ entry.isDirectory = true) ↔
      ∃ entry, found? = some entry ∧ entry.isDirectory = true := by
  cases found? with
  | none =>
      rw [Option.map_none, Option.map_eq_none_iff] at alike
      rw [alike]
  | some entry =>
      rw [Option.map_some, Option.map_eq_some_iff] at alike
      rcases alike with ⟨own, rfl, sameShape⟩
      have sameAnswer : own.isDirectory = entry.isDirectory := by
        rw [← isDirectory_shape, sameShape, isDirectory_shape]
      simp [sameAnswer]

end Entry

namespace Trail

def isInside (directory trail : Trail) : Bool :=
  directory.isPrefixOf trail && decide (trail ≠ directory)

theorem isInside_eq_false_iff {directory trail : Trail} :
    isInside directory trail = false ↔ (directory <+: trail → trail = directory) := by
  simp [isInside]

theorem isInside_of_not_prefix {directory trail : Trail} (notBelow : ¬directory <+: trail)
    {before : Trail} (above : before <+: trail) : isInside directory before = false :=
  isInside_eq_false_iff.mpr fun below => absurd (below.trans above) notBelow

theorem isInside_concat {directory trail : Trail} (notBelow : ¬directory <+: trail)
    (name : String) : isInside directory (trail ++ [name]) = false := by
  rw [isInside_eq_false_iff, List.prefix_concat_iff]
  rintro (equal | below)
  · exact equal.symm
  · exact absurd below notBelow

end Trail

open Trail (isInside)

/-! ## Trees and file systems that are the same outside a directory -/

def Entry.SameOutside (directory : Trail) (entry other : Entry) : Prop :=
  ∀ trail, isInside directory trail = false →
    (other.at? trail).map Entry.shape = (entry.at? trail).map Entry.shape

namespace Entry.SameOutside

theorem directory (permission : Permission) (members others : List (String × Entry)) :
    Entry.SameOutside [] (.directory permission members) (.directory permission others) := by
  intro trail outside
  rw [Trail.isInside_eq_false_iff.mp outside List.nil_prefix]
  rfl

/-- Trees are the same outside a directory if two of their members are, which have the same name,
and the other members are the same. -/
theorem member {inner : Trail} {name : String} {entry own : Entry}
    (same : Entry.SameOutside inner entry own) {permission : Permission}
    {members others : List (String × Entry)} (present : Keyed.get? name members = some entry)
    (presentOther : Keyed.get? name others = some own)
    (elsewhere : ∀ key, key ≠ name → Keyed.get? key others = Keyed.get? key members) :
    Entry.SameOutside (name :: inner) (.directory permission members)
      (.directory permission others) := by
  intro trail outside
  cases trail with
  | nil => rfl
  | cons key rest =>
      rw [at?, at?]
      by_cases isName : key = name
      · subst isName
        rw [present, presentOther, Option.bind_some, Option.bind_some]
        apply same
        rw [Trail.isInside_eq_false_iff] at outside ⊢
        intro below
        exact List.tail_eq_of_cons_eq (outside ((List.prefix_cons_inj key).mpr below))
      · rw [elsewhere key isName]

end Entry.SameOutside

namespace FileSystem

structure SameOutside (directory : Trail) (system other : FileSystem) : Prop where
  workingDirectory : other.workingDirectory = system.workingDirectory
  isPrivileged : other.isPrivileged = system.isPrivileged
  top : system.top.SameOutside directory other.top

variable {directory : Trail} {system other : FileSystem}

namespace SameOutside

theorem canSearch_eq (same : system.SameOutside directory other) {entry found : Entry}
    (alike : found.shape = entry.shape) : other.canSearch found = system.canSearch entry := by
  rw [canSearch, canSearch, same.isPrivileged, ← Entry.permission_shape, alike,
    Entry.permission_shape]

theorem canRead_eq (same : system.SameOutside directory other) {entry found : Entry}
    (alike : found.shape = entry.shape) : other.canRead found = system.canRead entry := by
  rw [canRead, canRead, same.isPrivileged, ← Entry.permission_shape, alike,
    Entry.permission_shape]

section Trails

variable (same : system.SameOutside directory other) {trail : Trail}
  (outside : isInside directory trail = false)
include same outside

theorem at?_eq_none (absent : system.top.at? trail = none) : other.top.at? trail = none := by
  have alike := same.top trail outside
  rwa [absent, Option.map_none, Option.map_eq_none_iff] at alike

theorem exists_at? {entry : Entry} (found : system.top.at? trail = some entry) :
    ∃ own, other.top.at? trail = some own ∧ own.shape = entry.shape := by
  have alike := same.top trail outside
  rwa [found, Option.map_some, Option.map_eq_some_iff] at alike

private theorem at?_eq_some {entry : Entry} (found : system.top.at? trail = some entry)
    (notDirectory : entry.isDirectory = false) : other.top.at? trail = some entry := by
  rcases same.exists_at? outside found with ⟨own, foundOther, alike⟩
  rw [foundOther, Entry.eq_of_shape alike notDirectory]

theorem exists_members {permission : Permission} {members : List (String × Entry)}
    (found : system.top.at? trail = some (.directory permission members)) :
    ∃ others, other.top.at? trail = some (.directory permission others) ∧
      other.canSearch (.directory permission others) =
        system.canSearch (.directory permission members) ∧
      ∀ name, isInside directory (trail ++ [name]) = false →
        (Keyed.get? name others).map Entry.shape = (Keyed.get? name members).map Entry.shape := by
  rcases same.exists_at? outside found with ⟨own, foundOther, alike⟩
  rcases Entry.eq_directory_of_shape alike with ⟨others, rfl⟩
  refine ⟨others, foundOther, same.canSearch_eq alike, ?_⟩
  intro name nameOutside
  rw [← Entry.at?_concat foundOther, ← Entry.at?_concat found]
  exact same.top _ nameOutside

end Trails

end SameOutside

/-! ## Lookups that avoid the inside of a directory -/

/-- Whether following names comes to nothing inside a directory, neither to what it passes nor to
a name that it misses. -/
def partsAvoid (system : FileSystem) (directory : Trail) (followsLast : Bool)
    (linkAvoids : Trail → List String → Bool) (trail : Trail) : List String → Bool
  | [] => !isInside directory trail
  | part :: rest =>
      !isInside directory trail &&
        match system.top.at? trail with
        | some (.directory permission members) =>
            if !system.canSearch (.directory permission members) then true
            else if part = "." then partsAvoid system directory followsLast linkAvoids trail rest
            else if part = ".." then
              partsAvoid system directory followsLast linkAvoids trail.dropLast rest
            else if isTooLong 255 part then true
            else
              !isInside directory (trail ++ [part]) &&
                match Keyed.get? part members with
                | none => true
                | some (.link target) =>
                    if rest.isEmpty && !followsLast then true
                    else
                      let start := if target.toList.head? = some '/' then [] else trail
                      linkAvoids start (linkParts target ++ rest)
                | some _ =>
                    partsAvoid system directory followsLast linkAvoids (trail ++ [part]) rest
        | _ => true

def followAvoids (system : FileSystem) (directory : Trail) (followsLast : Bool) :
    (links : Nat) → Trail → List String → Bool
  | 0 => system.partsAvoid directory followsLast fun _ _ => true
  | links + 1 => system.partsAvoid directory followsLast
      (followAvoids system directory followsLast links)

/-- Whether the lookup of a place comes to nothing inside a directory. -/
def avoids (system : FileSystem) (directory : Trail) (followsLast : Bool) (place : Location) :
    Bool :=
  system.followAvoids directory followsLast linkLimit
    (if place.isAbsolute then [] else system.workingDirectory) place.parts

structure SameDestination (directory : Trail) (outcome other : Except Cause Destination) : Prop
    where
  equal : other = outcome
  outside : ∀ trail, outcome = .ok (.entry trail) → isInside directory trail = false

namespace SameDestination

theorem error (cause : Cause) :
    SameDestination directory (.error cause) (.error cause) :=
  ⟨rfl, nofun⟩

theorem free (trail : Trail) :
    SameDestination directory (.ok (.free trail)) (.ok (.free trail)) :=
  ⟨rfl, nofun⟩

theorem entry {trail : Trail} (outside : isInside directory trail = false) :
    SameDestination directory (.ok (.entry trail)) (.ok (.entry trail)) := by
  refine ⟨rfl, fun other equal => ?_⟩
  rw [Except.ok.injEq, Destination.entry.injEq] at equal
  rw [← equal, outside]

end SameDestination

theorem outside_of_partsAvoid {followsLast : Bool} {linkAvoids : Trail → List String → Bool}
    {trail : Trail} {parts : List String}
    (avoid : system.partsAvoid directory followsLast linkAvoids trail parts = true) :
    isInside directory trail = false := by
  cases parts with
  | nil => rwa [partsAvoid, Bool.not_eq_true'] at avoid
  | cons part rest =>
      rw [partsAvoid, Bool.and_eq_true, Bool.not_eq_true'] at avoid
      exact avoid.1

/-- The next name does not lead inside the directory, and what it leads to looks the same in both
file systems. -/
private theorem exists_next (same : system.SameOutside directory other) {followsLast : Bool}
    {linkAvoids : Trail → List String → Bool} {trail : Trail} {part : String}
    {rest : List String} {permission : Permission} {members : List (String × Entry)}
    (atTrail : system.top.at? trail = some (.directory permission members))
    (notClosed : ¬(!system.canSearch (.directory permission members)) = true)
    (notHere : ¬part = ".") (notAbove : ¬part = "..") (shortEnough : ¬isTooLong 255 part = true)
    (avoid : system.partsAvoid directory followsLast linkAvoids trail (part :: rest) = true) :
    ∃ others, other.top.at? trail = some (.directory permission others) ∧
      other.canSearch (.directory permission others) =
        system.canSearch (.directory permission members) ∧
      isInside directory (trail ++ [part]) = false ∧
      (Keyed.get? part others).map Entry.shape = (Keyed.get? part members).map Entry.shape := by
  rcases same.exists_members (outside_of_partsAvoid avoid) atTrail with
    ⟨others, atOther, searchable, alike⟩
  rw [partsAvoid, Bool.and_eq_true] at avoid
  simp only [atTrail, notClosed, notHere, notAbove, shortEnough, if_false, Bool.and_eq_true,
    Bool.not_eq_true', Bool.false_eq_true] at avoid
  exact ⟨others, atOther, searchable, avoid.2.1, alike part avoid.2.1⟩

theorem followParts_outside (same : system.SameOutside directory other) {followsLast : Bool}
    {followLink followOther : Trail → List String → Except Cause Destination}
    {linkAvoids : Trail → List String → Bool}
    (links : ∀ trail parts, linkAvoids trail parts = true →
      SameDestination directory (followLink trail parts) (followOther trail parts))
    {trail : Trail} {parts : List String}
    (avoid : system.partsAvoid directory followsLast linkAvoids trail parts = true) :
    SameDestination directory (system.followParts followsLast followLink trail parts)
      (other.followParts followsLast followOther trail parts) := by
  have outside := outside_of_partsAvoid avoid
  fun_induction followParts system followsLast followLink trail parts with
  | case1 trail => exact .entry outside
  | case2 trail part rest permission members atTrail closed =>
      rcases same.exists_members outside atTrail with ⟨others, atOther, searchable, _⟩
      simp only [followParts, atOther, searchable, closed, if_true]
      exact .error .denied
  | case3 trail rest permission members atTrail notClosed induction =>
      rcases same.exists_members outside atTrail with ⟨others, atOther, searchable, _⟩
      simp only [partsAvoid, outside, atTrail, notClosed] at avoid
      simp only [followParts, atOther, searchable, notClosed]
      exact induction avoid (outside_of_partsAvoid avoid)
  | case4 trail rest permission members atTrail notClosed notHere induction =>
      rcases same.exists_members outside atTrail with ⟨others, atOther, searchable, _⟩
      simp only [partsAvoid, outside, atTrail, notClosed, notHere] at avoid
      simp only [followParts, atOther, searchable, notClosed, notHere]
      exact induction avoid (outside_of_partsAvoid avoid)
  | case5 trail part rest permission members atTrail notClosed notHere notAbove tooLong =>
      rcases same.exists_members outside atTrail with ⟨others, atOther, searchable, _⟩
      simp only [followParts, atOther, searchable, notClosed, notHere, notAbove, tooLong, if_true,
        if_false]
      exact .error .nameTooLong
  | case6 trail part rest permission members atTrail notClosed notHere notAbove shortEnough absent
      isLast =>
      rcases exists_next same atTrail notClosed notHere notAbove shortEnough avoid with
        ⟨others, atOther, searchable, _, alike⟩
      rw [absent, Option.map_none, Option.map_eq_none_iff] at alike
      simp only [followParts, atOther, searchable, notClosed, notHere, notAbove, shortEnough, alike,
        isLast, if_true, if_false]
      exact .free _
  | case7 trail part rest permission members atTrail notClosed notHere notAbove shortEnough absent
      notLast =>
      rcases exists_next same atTrail notClosed notHere notAbove shortEnough avoid with
        ⟨others, atOther, searchable, _, alike⟩
      rw [absent, Option.map_none, Option.map_eq_none_iff] at alike
      simp only [followParts, atOther, searchable, notClosed, notHere, notAbove, shortEnough, alike,
        notLast, if_false]
      exact .error .missing
  | case8 trail part rest permission members atTrail notClosed notHere notAbove shortEnough target
      isMember ends =>
      rcases exists_next same atTrail notClosed notHere notAbove shortEnough avoid with
        ⟨others, atOther, searchable, nextOutside, alike⟩
      rw [isMember, Option.map_some, Option.map_eq_some_iff] at alike
      rcases alike with ⟨own, isOther, ownAlike⟩
      obtain rfl := Entry.eq_of_shape ownAlike rfl
      simp only [followParts, atOther, searchable, notClosed, notHere, notAbove, shortEnough,
        isOther, ends, if_true, if_false]
      exact .entry nextOutside
  | case9 trail part rest permission members atTrail notClosed notHere notAbove shortEnough target
      isMember goesOn start =>
      rcases exists_next same atTrail notClosed notHere notAbove shortEnough avoid with
        ⟨others, atOther, searchable, nextOutside, alike⟩
      rw [isMember, Option.map_some, Option.map_eq_some_iff] at alike
      rcases alike with ⟨own, isOther, ownAlike⟩
      obtain rfl := Entry.eq_of_shape ownAlike rfl
      simp only [partsAvoid, outside, nextOutside, atTrail, notClosed, notHere, notAbove,
        shortEnough, isMember, goesOn] at avoid
      simp only [followParts, atOther, searchable, notClosed, notHere, notAbove, shortEnough,
        isOther, goesOn]
      exact links start _ avoid
  | case10 trail part rest permission members atTrail notClosed notHere notAbove shortEnough member
      notLink isMember induction =>
      rcases exists_next same atTrail notClosed notHere notAbove shortEnough avoid with
        ⟨others, atOther, searchable, nextOutside, alike⟩
      rw [isMember, Option.map_some, Option.map_eq_some_iff] at alike
      rcases alike with ⟨own, isOther, ownAlike⟩
      simp only [partsAvoid, outside, nextOutside, atTrail, notClosed, notHere, notAbove,
        shortEnough, isMember] at avoid
      simp only [followParts, atOther, searchable, notClosed, notHere, notAbove, shortEnough,
        isOther]
      cases member with
      | link target => exact absurd rfl (notLink target)
      | _ =>
          cases own with
          | link target => cases ownAlike
          | _ => exact induction avoid nextOutside
  | case11 trail part rest entry notDirectory atTrail =>
      have isLeaf : entry.isDirectory = false := by
        cases entry with
        | directory permission members => exact absurd rfl (notDirectory permission members)
        | _ => rfl
      have atOther := same.at?_eq_some outside atTrail isLeaf
      have refused : other.followParts followsLast followOther trail (part :: rest) =
          .error .notDirectory := by
        cases entry <;> simp_all [followParts]
      rw [refused]
      exact .error .notDirectory
  | case12 trail part rest atTrail =>
      rw [followParts, same.at?_eq_none outside atTrail]
      exact .error .missing

private theorem follow_outside (same : system.SameOutside directory other) {followsLast : Bool}
    {links : Nat} {trail : Trail} {parts : List String}
    (avoid : system.followAvoids directory followsLast links trail parts = true) :
    SameDestination directory (system.follow followsLast links trail parts)
      (other.follow followsLast links trail parts) := by
  induction links generalizing trail parts with
  | zero => exact followParts_outside same (fun _ _ _ => .error .linkLoop) avoid
  | succ links induction =>
      exact followParts_outside same (fun _ _ linkAvoid => induction linkAvoid) avoid

theorem lookup_outside (same : system.SameOutside directory other) {followsLast : Bool}
    {place : Location} (avoid : system.avoids directory followsLast place = true) :
    SameDestination directory (system.lookup followsLast place)
      (other.lookup followsLast place) := by
  unfold lookup
  split
  · exact .error .nullCharacter
  · split
    · exact .error .nameTooLong
    · rw [same.workingDirectory]
      exact follow_outside same avoid

/-! ## Lookups of names in a directory -/

/-- Names of directories that are not below a directory lead past what is inside it, and so does
one more name, if no link at the end is followed. -/
private theorem partsAvoid_names {followsLast : Bool} {linkAvoids : Trail → List String → Bool}
    {above : List String} (named : ∀ name ∈ above, IsName name) {trail : Trail} {tree : Entry}
    (atTrail : system.top.at? trail = some tree) {permission : Permission}
    {members : List (String × Entry)}
    (reached : tree.at? above = some (.directory permission members))
    (notBelow : ¬directory <+: trail ++ above) {child : String}
    (stays : followsLast = false ∨ ∀ target, Keyed.get? child members ≠ some (.link target)) :
    system.partsAvoid directory followsLast linkAvoids trail (above ++ [child]) = true := by
  have outside : isInside directory trail = false :=
    Trail.isInside_of_not_prefix notBelow (List.prefix_append trail above)
  induction above generalizing trail tree with
  | nil =>
      rw [List.append_nil] at notBelow
      rw [Entry.at?, Option.some.injEq] at reached
      have dropOutside : isInside directory trail.dropLast = false :=
        Trail.isInside_of_not_prefix notBelow (List.dropLast_prefix trail)
      have childOutside := Trail.isInside_concat notBelow child
      subst reached
      simp only [List.nil_append, partsAvoid, atTrail, outside, dropOutside, childOutside]
      cases isMember : Keyed.get? child members with
      | none => simp
      | some entry =>
          cases entry with
          | link target =>
              have unfollowed := stays.resolve_right fun noLink => noLink target isMember
              simp [unfollowed]
          | _ => simp
  | cons name rest induction =>
      rcases List.forall_mem_cons.mp named with ⟨isName, restNamed⟩
      rcases Entry.isDirectory_iff.mp (Entry.isDirectory_of_at? reached rfl) with
        ⟨outer, others, rfl⟩
      simp only [Entry.at?, Option.bind_eq_some_iff] at reached
      rcases reached with ⟨entry, isMember, further⟩
      rcases Entry.isDirectory_iff.mp (Entry.isDirectory_of_at? further rfl) with ⟨_, _, rfl⟩
      have atNext : system.top.at? (trail ++ [name]) = some (.directory _ _) :=
        (Entry.at?_concat atTrail name).trans isMember
      have notBelowNext : ¬directory <+: (trail ++ [name]) ++ rest := by
        rwa [List.append_assoc, List.singleton_append]
      have nextOutside : isInside directory (trail ++ [name]) = false :=
        Trail.isInside_of_not_prefix notBelowNext (List.prefix_append _ rest)
      have below := induction restNamed atNext further notBelowNext nextOutside
      simp [partsAvoid, atTrail, outside, isName.not_here, isName.not_above, nextOutside, isMember,
        below]

theorem lookup_under_outside (same : system.SameOutside directory other) {root : Location}
    {top : Trail} (rooted : system.trailOf true root = .ok top)
    (rootedOther : other.trailOf true root = .ok top) {above : List String}
    (named : ∀ name ∈ above, IsName name) {permission : Permission}
    {members : List (String × Entry)}
    (reached : system.top.at? (top ++ above) = some (.directory permission members))
    (notBelow : ¬directory <+: top ++ above) {child : String} {followsLast : Bool}
    (stays : followsLast = false ∨ ∀ target, Keyed.get? child members ≠ some (.link target)) :
    SameDestination directory (system.lookup followsLast (root.under (above ++ [child])))
      (other.lookup followsLast (root.under (above ++ [child]))) := by
  rcases lookup_under_of_trailOf rooted with ⟨remaining, resumed⟩
  rcases lookup_under_of_trailOf rootedOther with ⟨remainingOther, resumedOther⟩
  rw [resumed followsLast _ (by simp), resumedOther followsLast _ (by simp)]
  split
  · exact .error .nullCharacter
  · split
    · exact .error .nameTooLong
    · rcases @follow_eq_followParts system remaining with ⟨followLink, isFollow⟩
      rcases @follow_eq_followParts other remainingOther with ⟨followOther, isFollowOther⟩
      rw [isFollow, isFollowOther]
      rw [Entry.at?_append, Option.bind_eq_some_iff] at reached
      rcases reached with ⟨tree, atTop, atAbove⟩
      -- No link is followed, so nothing is asked of links.
      have avoid : system.partsAvoid directory followsLast (fun _ _ => false) top
          (above ++ [child]) = true := partsAvoid_names named atTop atAbove notBelow stays
      exact followParts_outside same (fun _ _ followed => absurd followed (by simp)) avoid

/-! ## Questions -/

theorem entryAt_outside (same : system.SameOutside directory other) {followsLast : Bool}
    {place : Location}
    (looked : SameDestination directory (system.lookup followsLast place)
      (other.lookup followsLast place)) :
    (other.entryAt followsLast place).map Entry.shape =
      (system.entryAt followsLast place).map Entry.shape := by
  unfold entryAt trailOf
  rw [looked.equal]
  cases found : system.lookup followsLast place with
  | error cause => rfl
  | ok destination =>
      cases destination with
      | free trail => rfl
      | entry trail =>
          have alike := same.top trail (looked.outside trail found)
          cases own : system.top.at? trail with
          | none =>
              rw [own, Option.map_none, Option.map_eq_none_iff] at alike
              simp only [own, alike]
          | some entry =>
              rw [own, Option.map_some, Option.map_eq_some_iff] at alike
              rcases alike with ⟨found, foundOther, sameShape⟩
              simp only [own, foundOther]
              exact congrArg Except.ok sameShape

theorem cases_of_map_shape {outcome found : Except Cause Entry}
    (alike : found.map Entry.shape = outcome.map Entry.shape) :
    (∃ cause, outcome = .error cause ∧ found = .error cause) ∨
      ∃ entry own, outcome = .ok entry ∧ found = .ok own ∧ own.shape = entry.shape := by
  cases outcome with
  | error cause =>
      cases found with
      | error other => exact Or.inl ⟨cause, rfl, congrArg Except.error (Except.error.inj alike)⟩
      | ok own => cases alike
  | ok entry =>
      cases found with
      | error other => cases alike
      | ok own => exact Or.inr ⟨entry, own, rfl, rfl, Except.ok.inj alike⟩

section Alike

variable {followsLast : Bool} {place : Location}

theorem test_outside {condition : Entry → Bool}
    (seen : ∀ entry : Entry, condition entry.shape = condition entry)
    (alike : (other.entryAt followsLast place).map Entry.shape =
      (system.entryAt followsLast place).map Entry.shape) :
    other.test followsLast condition place = system.test followsLast condition place := by
  unfold test
  rcases cases_of_map_shape alike with
    ⟨cause, refused, refusedOther⟩ | ⟨entry, own, found, foundOther, sameShape⟩
  · rw [refused, refusedOther]
  · rw [found, foundOther]
    simp only
    rw [← seen own, sameShape, seen]

variable (same : system.SameOutside directory other)
  (alike : (other.entryAt true place).map Entry.shape = (system.entryAt true place).map Entry.shape)
include same alike

theorem isAccessible_outside : other.isAccessible place = system.isAccessible place := by
  unfold isAccessible
  rcases cases_of_map_shape alike with
    ⟨cause, refused, refusedOther⟩ | ⟨entry, own, found, foundOther, sameShape⟩
  · rw [refused, refusedOther]
  · rw [found, foundOther]
    simp only [same.canRead_eq sameShape, same.canSearch_eq sameShape]

theorem list_cases_outside :
    (∃ cause, system.list place = .error cause ∧ other.list place = .error cause) ∨
      ∃ members others, system.list place = .ok members ∧ other.list place = .ok others := by
  unfold list
  rcases cases_of_map_shape alike with
    ⟨cause, refused, refusedOther⟩ | ⟨entry, own, found, foundOther, sameShape⟩
  · rw [refused, refusedOther]
    exact Or.inl ⟨cause, rfl, rfl⟩
  · rw [found, foundOther]
    have readable := same.canRead_eq sameShape
    by_cases isDirectory : entry.isDirectory = true
    · rcases Entry.isDirectory_iff.mp isDirectory with ⟨permission, members, rfl⟩
      rcases Entry.eq_directory_of_shape sameShape with ⟨others, rfl⟩
      simp only [readable]
      split
      · exact Or.inr ⟨members, others, rfl, rfl⟩
      · exact Or.inl ⟨.denied, rfl, rfl⟩
    · rw [Entry.eq_of_shape sameShape (by simpa using isDirectory)]
      cases entry with
      | directory => cases isDirectory rfl
      | _ => exact Or.inl ⟨.notDirectory, rfl, rfl⟩

theorem read_outside : other.read place = system.read place := by
  unfold read
  rcases cases_of_map_shape alike with
    ⟨cause, refused, refusedOther⟩ | ⟨entry, own, found, foundOther, sameShape⟩
  · rw [refused, refusedOther]
  · rw [found, foundOther]
    have readable := same.canRead_eq sameShape
    simp only [readable]
    by_cases isDirectory : entry.isDirectory = true
    · rcases Entry.isDirectory_iff.mp isDirectory with ⟨permission, members, rfl⟩
      rcases Entry.eq_directory_of_shape sameShape with ⟨others, rfl⟩
      rfl
    · rw [Entry.eq_of_shape sameShape (by simpa using isDirectory)]

end Alike

end FileSystem

end ImportAtlas
