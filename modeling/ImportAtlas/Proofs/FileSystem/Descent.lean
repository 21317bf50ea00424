import ImportAtlas.Proofs.FileSystem.Lookup
import ImportAtlas.Proofs.FileSystem.Tree

/-! # Lookups below a directory

A lookup of a longer place goes on where the lookup of its front part ends. From there it goes
down the tree name by name, and ends at the member that the names lead to, unless something on
the way is in its way; whether a link at the end is followed makes no difference before that.
-/

namespace ImportAtlas

namespace Location

def under (root : Location) (names : List String) : Location :=
  { root with parts := root.parts ++ names }

private theorem null_not_mem_under {root : Location} (clean : '\x00' ∉ root.text.toList)
    {names : List String} (named : ∀ name ∈ names, IsName name) :
    '\x00' ∉ (under root names).text.toList := by
  intro member
  apply clean
  rw [mem_text (by decide) (by decide)] at member ⊢
  rcases member with inAnchor | ⟨part, inParts, inPart⟩
  · exact Or.inl inAnchor
  · rcases List.mem_append.mp inParts with inRoot | inNames
    · exact Or.inr ⟨part, inRoot, inPart⟩
    · exact absurd inPart (named part inNames).no_null

end Location

namespace FileSystem

variable {system : FileSystem}

/-! ## Going on behind a front part -/

private theorem followParts_append
    (followLink : Bool → Trail → List String → Except Cause Destination)
    (links : Nat)
    (resumes : ∀ trail front reached, followLink true trail front = .ok (.entry reached) →
      ∃ remaining, ∀ followsLast back, back ≠ [] →
        followLink followsLast trail (front ++ back) =
          system.follow followsLast remaining reached back)
    (step : ∀ followsLast, system.follow followsLast links =
      system.followParts followsLast (followLink followsLast))
    {trail reached : Trail} {front : List String}
    (found : system.followParts true (followLink true) trail front = .ok (.entry reached)) :
    ∃ remaining, ∀ followsLast back, back ≠ [] →
      system.followParts followsLast (followLink followsLast) trail (front ++ back) =
        system.follow followsLast remaining reached back := by
  fun_induction followParts system true (followLink true) trail front with
  | case1 trail =>
      rw [Except.ok.injEq, Destination.entry.injEq] at found
      refine ⟨links, fun followsLast back _ => ?_⟩
      rw [step, found, List.nil_append]
  | case3 trail rest permission members atTrail searchable induction
  | case4 trail rest permission members atTrail searchable _ induction
  | case10 trail part rest permission members atTrail searchable notHere notAbove shortEnough
      member notLink isMember induction =>
      rcases induction found with ⟨remaining, resumed⟩
      refine ⟨remaining, fun followsLast back nonempty => ?_⟩
      rw [← resumed followsLast back nonempty]
      simp_all [followParts]
  | case9 trail part rest permission members atTrail searchable notHere notAbove shortEnough
      target isMember _ start =>
      rcases resumes _ _ _ found with ⟨remaining, resumed⟩
      refine ⟨remaining, fun followsLast back nonempty => ?_⟩
      rw [← resumed followsLast back nonempty, List.append_assoc]
      simp [followParts, atTrail, searchable, notHere, notAbove, shortEnough, isMember, nonempty,
        start]
  | _ => simp_all

private theorem follow_append {links : Nat} {trail reached : Trail} {front : List String}
    (found : system.follow true links trail front = .ok (.entry reached)) :
    ∃ remaining, ∀ followsLast back, back ≠ [] →
      system.follow followsLast links trail (front ++ back) =
        system.follow followsLast remaining reached back := by
  induction links generalizing trail front reached with
  | zero =>
      exact followParts_append (fun _ _ _ => .error .linkLoop) 0 (by simp) (fun _ => rfl) found
  | succ links induction =>
      exact followParts_append (system.follow · links) (links + 1)
        (fun _ _ _ resolved => induction resolved) (fun _ => rfl) found

/-! ## Going down a tree -/

/-- What a lookup of a member of a directory comes to: it is refused for a cause other than
absence, whatever is done with links, or it ends at the member or at its free name. -/
inductive Descent (trail : Trail) (child : String) (found? : Option Entry)
    (outcome : Bool → Except Cause Destination) : Prop
  | refused (cause : Cause) (known : cause.isAbsence = false)
      (equal : ∀ followsLast, outcome followsLast = .error cause)
  | free (absent : found? = none)
      (equal : ∀ followsLast, outcome followsLast = .ok (.free (trail ++ [child])))
  | member (entry : Entry) (present : found? = some entry)
      (unfollowed : outcome false = .ok (.entry (trail ++ [child])))
      (followed : entry.isLink = false → outcome true = .ok (.entry (trail ++ [child])))

private theorem followParts_name
    (followLink : Bool → Trail → List String → Except Cause Destination)
    {trail : Trail} {permission : Permission} {members : List (String × Entry)}
    (atTrail : system.top.at? trail = some (.directory permission members)) {child : String}
    (isName : IsName child) :
    Descent trail child (Keyed.get? child members) fun followsLast =>
      system.followParts followsLast (followLink followsLast) trail [child] := by
  by_cases searchable : system.canSearch (.directory permission members) = true
  · by_cases tooLong : isTooLong 255 child = true
    · refine .refused .nameTooLong rfl fun followsLast => ?_
      simp [followParts, atTrail, searchable, isName.not_here, isName.not_above, tooLong]
    · cases isMember : Keyed.get? child members with
      | none =>
          refine .free rfl fun followsLast => ?_
          simp [followParts, atTrail, searchable, isName.not_here, isName.not_above, tooLong,
            isMember]
      | some entry =>
          refine .member entry rfl ?_ fun notLink => ?_
          · cases entry <;>
              simp [followParts, atTrail, searchable, isName.not_here, isName.not_above, tooLong,
                isMember]
          · cases entry <;>
              simp_all [followParts, isName.not_here, isName.not_above, Entry.isLink]
  · refine .refused .denied rfl fun followsLast => ?_
    simp [followParts, atTrail, searchable]

private theorem followParts_below
    (followLink : Bool → Trail → List String → Except Cause Destination)
    {trail : Trail} {tree : Entry} (atTrail : system.top.at? trail = some tree)
    {above : List String} {permission : Permission} {members : List (String × Entry)}
    (reached : tree.at? above = some (.directory permission members))
    (aboveNamed : ∀ name ∈ above, IsName name) {child : String} (isName : IsName child) :
    Descent (trail ++ above) child (Keyed.get? child members) fun followsLast =>
      system.followParts followsLast (followLink followsLast) trail (above ++ [child]) := by
  induction above generalizing trail tree with
  | nil =>
      rw [Entry.at?, Option.some.injEq] at reached
      rw [List.append_nil]
      exact followParts_name followLink (reached ▸ atTrail) isName
  | cons name rest induction =>
      rcases List.forall_mem_cons.mp aboveNamed with ⟨named, restNamed⟩
      rcases Entry.isDirectory_iff.mp (Entry.isDirectory_of_at? reached rfl) with
        ⟨outer, others, rfl⟩
      simp only [Entry.at?, Option.bind_eq_some_iff] at reached
      rcases reached with ⟨entry, isMember, further⟩
      rcases Entry.isDirectory_iff.mp (Entry.isDirectory_of_at? further rfl) with ⟨_, _, rfl⟩
      have atNext : system.top.at? (trail ++ [name]) = some (.directory _ _) :=
        (Entry.at?_concat atTrail name).trans isMember
      have below := induction atNext further restNamed
      rw [List.append_assoc, List.singleton_append] at below
      by_cases searchable : system.canSearch (.directory outer others) = true
      · by_cases tooLong : isTooLong 255 name = true
        · refine .refused .nameTooLong rfl fun followsLast => ?_
          simp [followParts, atTrail, searchable, named.not_here, named.not_above, tooLong]
        · simpa [followParts, atTrail, searchable, named.not_here, named.not_above, tooLong,
            isMember] using below
      · refine .refused .denied rfl fun followsLast => ?_
        simp [followParts, atTrail, searchable]

theorem follow_eq_followParts (links : Nat) :
    ∃ followLink : Bool → Trail → List String → Except Cause Destination,
      ∀ followsLast, system.follow followsLast links =
        system.followParts followsLast (followLink followsLast) := by
  cases links with
  | zero => exact ⟨fun _ _ _ => .error .linkLoop, fun _ => rfl⟩
  | succ links => exact ⟨(system.follow · links), fun _ => rfl⟩

private theorem follow_below (links : Nat) {trail : Trail} {tree : Entry}
    (atTrail : system.top.at? trail = some tree) {above : List String} {permission : Permission}
    {members : List (String × Entry)}
    (reached : tree.at? above = some (.directory permission members))
    (aboveNamed : ∀ name ∈ above, IsName name) {child : String} (isName : IsName child) :
    Descent (trail ++ above) child (Keyed.get? child members) fun followsLast =>
      system.follow followsLast links trail (above ++ [child]) := by
  rcases @follow_eq_followParts system links with ⟨followLink, isFollow⟩
  simp only [isFollow]
  exact followParts_below followLink atTrail reached aboveNamed isName

/-! ## Places below a root -/

theorem trailOf_of_entryAt {followsLast : Bool} {place : Location} {entry : Entry}
    (found : system.entryAt followsLast place = .ok entry) :
    ∃ trail, system.trailOf followsLast place = .ok trail ∧ system.top.at? trail = some entry := by
  unfold entryAt at found
  split at found
  · cases found
  · rename_i trail isTrail
    split at found
    · cases found
    · rename_i present
      rw [Except.ok.injEq] at found
      exact ⟨trail, isTrail, found ▸ present⟩

theorem lookup_of_trailOf {followsLast : Bool} {place : Location} {trail : Trail}
    (found : system.trailOf followsLast place = .ok trail) :
    system.lookup followsLast place = .ok (.entry trail) := by
  unfold trailOf at found
  split at found
  · cases found
  · cases found
  · rename_i reached looked
    rw [looked, Except.ok.inj found]

theorem follow_of_trailOf {followsLast : Bool} {place : Location} {trail : Trail}
    (found : system.trailOf followsLast place = .ok trail) :
    '\x00' ∉ place.text.toList ∧ system.follow followsLast linkLimit
      (if place.isAbsolute then [] else system.workingDirectory) place.parts =
        .ok (.entry trail) := by
  have looked := lookup_of_trailOf found
  unfold lookup at looked
  by_cases clean : '\x00' ∈ place.text.toList
  · simp [clean] at looked
  · by_cases tooLong : isTooLong 4095 place.text = true
    · simp [clean, tooLong] at looked
    · refine ⟨clean, ?_⟩
      simpa only [List.contains_iff_mem, clean, if_false, tooLong, Bool.false_eq_true] using looked

theorem follow_of_entryAt {followsLast : Bool} {place : Location} {entry : Entry}
    (found : system.entryAt followsLast place = .ok entry) :
    '\x00' ∉ place.text.toList ∧ ∃ trail, system.top.at? trail = some entry ∧
      system.follow followsLast linkLimit
        (if place.isAbsolute then [] else system.workingDirectory) place.parts =
          .ok (.entry trail) := by
  rcases trailOf_of_entryAt found with ⟨trail, isTrail, present⟩
  rcases follow_of_trailOf isTrail with ⟨clean, followed⟩
  exact ⟨clean, trail, present, followed⟩

private theorem exists_start_of_followParts {followsLast : Bool}
    {followLink : Trail → List String → Except Cause Destination} {start reached : Trail}
    {parts : List String} {entry : Entry} (present : system.top.at? reached = some entry)
    (followed : system.followParts followsLast followLink start parts = .ok (.entry reached)) :
    ∃ first, system.top.at? start = some first := by
  cases parts with
  | nil =>
      simp only [followParts, Except.ok.injEq, Destination.entry.injEq] at followed
      exact ⟨entry, followed ▸ present⟩
  | cons part rest =>
      unfold followParts at followed
      cases atStart : system.top.at? start with
      | none => simp [atStart] at followed
      | some first => exact ⟨first, rfl⟩

theorem isName_workingDirectory {followsLast : Bool} {place : Location} {entry : Entry}
    (proper : system.top.isProper = true) (relative : place.isAbsolute = false)
    (found : system.entryAt followsLast place = .ok entry) :
    ∀ name ∈ system.workingDirectory, IsName name := by
  rcases follow_of_entryAt found with ⟨_, trail, present, followed⟩
  rcases @follow_eq_followParts system linkLimit with ⟨followLink, isFollow⟩
  rw [isFollow, relative] at followed
  rcases exists_start_of_followParts present followed with ⟨first, atStart⟩
  exact Entry.isName_of_at? proper atStart

/-- A lookup below a place goes on from where the place leads, unless the text of the place does
not reach the file system. -/
theorem lookup_under_of_trailOf {root : Location} {top : Trail}
    (rooted : system.trailOf true root = .ok top) :
    ∃ remaining, ∀ followsLast parts, parts ≠ [] →
      system.lookup followsLast (root.under parts) =
        if (root.under parts).text.toList.contains '\x00' then .error .nullCharacter
        else if isTooLong 4095 (root.under parts).text then .error .nameTooLong
        else system.follow followsLast remaining top parts := by
  rcases follow_append (follow_of_trailOf rooted).2 with ⟨remaining, resumed⟩
  refine ⟨remaining, fun followsLast parts nonempty => ?_⟩
  rw [← resumed followsLast parts nonempty]
  rfl

theorem lookup_under {root : Location} {tree : Entry}
    (found : system.entryAt true root = .ok tree) {names : List String} (nonempty : names ≠ [])
    (named : ∀ name ∈ names, IsName name) :
    (∀ followsLast, system.lookup followsLast (root.under names) = .error .nameTooLong) ∨
    ∃ remaining trail, system.top.at? trail = some tree ∧
      ∀ followsLast, system.lookup followsLast (root.under names) =
        system.follow followsLast remaining trail names := by
  rcases trailOf_of_entryAt found with ⟨trail, isTrail, atTrail⟩
  rcases lookup_under_of_trailOf isTrail with ⟨remaining, resumed⟩
  have clean := Location.null_not_mem_under (follow_of_trailOf isTrail).1 named
  by_cases tooLong : isTooLong 4095 (root.under names).text = true
  · refine Or.inl fun followsLast => ?_
    simp [resumed followsLast names nonempty, clean, tooLong]
  · refine Or.inr ⟨remaining, trail, atTrail, fun followsLast => ?_⟩
    simp [resumed followsLast names nonempty, clean, tooLong]

theorem exists_tree_of_trailOf {root : Location} {top below : Trail} {entry : Entry}
    (rooted : system.trailOf true root = .ok top)
    (reached : system.top.at? (top ++ below) = some entry) :
    ∃ tree, system.entryAt true root = .ok tree ∧ tree.at? below = some entry := by
  rw [Entry.at?_append, Option.bind_eq_some_iff] at reached
  rcases reached with ⟨tree, atTop, atBelow⟩
  exact ⟨tree, by simp [entryAt, rooted, atTop], atBelow⟩

/-- A name behind those of a directory leads to the member of this name, unless the lookup is
refused for a cause other than absence. -/
theorem entryAt_below {root : Location} {tree : Entry}
    (found : system.entryAt true root = .ok tree) {above : List String}
    {permission : Permission} {members : List (String × Entry)}
    (reached : tree.at? above = some (.directory permission members))
    (aboveNamed : ∀ name ∈ above, IsName name) {child : String} (isName : IsName child) :
    (∃ cause : Cause, cause.isAbsence = false ∧
      ∀ followsLast, system.entryAt followsLast (root.under (above ++ [child])) = .error cause) ∨
    (Keyed.get? child members = none ∧
      ∀ followsLast, system.entryAt followsLast (root.under (above ++ [child])) = .error .missing) ∨
    ∃ entry, Keyed.get? child members = some entry ∧
      system.entryAt false (root.under (above ++ [child])) = .ok entry ∧
      (entry.isLink = false → system.entryAt true (root.under (above ++ [child])) = .ok entry) := by
  rcases lookup_under found (by simp) (isName.concat aboveNamed) with
    tooLong | ⟨remaining, trail, atTrail, looked⟩
  · refine Or.inl ⟨.nameTooLong, rfl, fun followsLast => ?_⟩
    simp [entryAt, trailOf, tooLong]
  · have atMember : ∀ entry, Keyed.get? child members = some entry →
        system.top.at? (trail ++ (above ++ [child])) = some entry := by
      intro entry present
      rw [Entry.at?_append, atTrail, Option.bind_some,
        Entry.at?_concat reached, present]
    cases follow_below remaining atTrail reached aboveNamed isName with
    | refused cause known equal =>
        refine Or.inl ⟨cause, known, fun followsLast => ?_⟩
        simp [entryAt, trailOf, looked, equal followsLast]
    | free absent equal =>
        refine Or.inr (Or.inl ⟨absent, fun followsLast => ?_⟩)
        simp [entryAt, trailOf, looked, equal followsLast]
    | member entry present unfollowed followed =>
        refine Or.inr (Or.inr ⟨entry, present, ?_, fun notLink => ?_⟩)
        · simp [entryAt, trailOf, looked, unfollowed, atMember entry present]
        · simp [entryAt, trailOf, looked, followed notLink, atMember entry present]

theorem entryAt_followed_of_refused {root : Location} {tree : Entry}
    (found : system.entryAt true root = .ok tree) {above : List String} {permission : Permission}
    {members : List (String × Entry)}
    (reached : tree.at? above = some (.directory permission members))
    (aboveNamed : ∀ name ∈ above, IsName name) {child : String} (isName : IsName child)
    {cause : Cause}
    (refused : system.entryAt false (root.under (above ++ [child])) = .error cause) :
    system.entryAt true (root.under (above ++ [child])) = .error cause := by
  rcases entryAt_below found reached aboveNamed isName with
    ⟨other, _, equal⟩ | ⟨_, missing⟩ | ⟨entry, _, unfollowed, _⟩
  · rw [equal, ← refused, equal]
  · rw [missing, ← refused, missing]
  · rw [unfollowed] at refused
    cases refused

/-! ## Members of a directory -/

section Members

variable {place : Location} {permission : Permission} {members : List (String × Entry)}
  (found : system.entryAt true place = .ok (.directory permission members)) {child : String}
  (isName : IsName child)
include found isName

theorem entryAt_of_not_canSearch
    (unsearchable : system.canSearch (.directory permission members) = false)
    (followsLast : Bool) : ∃ cause : Cause, cause.isAbsence = false ∧
      system.entryAt followsLast (place.under [child]) = .error cause := by
  rcases lookup_under found (by simp) (List.forall_mem_singleton.mpr isName) with
    tooLong | ⟨remaining, trail, atTrail, looked⟩
  · exact ⟨.nameTooLong, rfl, by simp [entryAt, trailOf, tooLong]⟩
  · rcases @follow_eq_followParts system remaining with ⟨followLink, isFollow⟩
    refine ⟨.denied, rfl, ?_⟩
    simp [entryAt, trailOf, looked, isFollow, followParts, atTrail, unsearchable]

theorem entryAt_ne_denied (searchable : system.canSearch (.directory permission members) = true) :
    system.entryAt false (place.under [child]) ≠ .error .denied := by
  rcases lookup_under found (by simp) (List.forall_mem_singleton.mpr isName) with
    tooLong | ⟨remaining, trail, atTrail, looked⟩
  · simp [entryAt, trailOf, tooLong]
  · rcases @follow_eq_followParts system remaining with ⟨followLink, isFollow⟩
    have atMember := Entry.at?_concat atTrail child
    by_cases tooLong : isTooLong 255 child = true
    · simp [entryAt, trailOf, looked, isFollow, followParts, atTrail, searchable, isName.not_here,
        isName.not_above, tooLong]
    · cases isMember : Keyed.get? child members with
      | none =>
          simp [entryAt, trailOf, looked, isFollow, followParts, atTrail, searchable,
            isName.not_here, isName.not_above, tooLong, isMember]
      | some entry =>
          cases entry <;>
            simp [entryAt, trailOf, looked, isFollow, followParts, atTrail, searchable,
              isName.not_here, isName.not_above, tooLong, isMember, atMember]

end Members

end FileSystem

end ImportAtlas
