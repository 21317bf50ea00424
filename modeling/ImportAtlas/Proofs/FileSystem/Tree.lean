import ImportAtlas.FileSystem.Basic
import ImportAtlas.Proofs.Path.Names

/-! # Trees of entries

The members of a directory have names of their own, and a trail is followed name by name.
-/

namespace ImportAtlas.Entry

/-! ## Induction -/

/-- What holds of an entry as soon as it holds of all its members holds of every entry. -/
theorem induct {P : Entry → Prop} (leaf : ∀ entry, entry.isDirectory = false → P entry)
    (directory : ∀ permission members, (∀ member ∈ members, P member.2) →
      P (.directory permission members)) (entry : Entry) : P entry :=
  @Entry.rec P (fun members => ∀ member ∈ members, P member.2) (fun member => P member.2)
    (fun _ _ => leaf _ rfl) directory (fun _ => leaf _ rfl) (fun _ => leaf _ rfl)
    (fun _ member => nomatch member)
    (fun _ _ first rest => List.forall_mem_cons.mpr ⟨first, rest⟩) (fun _ _ holds => holds) entry

theorem isDirectory_iff {entry : Entry} :
    entry.isDirectory = true ↔ ∃ permission members, entry = .directory permission members := by
  cases entry <;> simp [isDirectory]

/-! ## Trails -/

theorem at?_append (entry : Entry) (front back : Trail) :
    entry.at? (front ++ back) = (entry.at? front).bind fun reached => reached.at? back := by
  induction front generalizing entry with
  | nil => rfl
  | cons name rest induction =>
      cases entry with
      | directory permission members =>
          cases found : Keyed.get? name members with
          | none => simp [at?, found]
          | some member => simp [at?, found, induction]
      | _ => simp [at?]

theorem at?_concat {entry : Entry} {above : Trail} {permission : Permission}
    {members : List (String × Entry)}
    (reached : entry.at? above = some (.directory permission members)) (child : String) :
    entry.at? (above ++ [child]) = Keyed.get? child members := by
  rw [at?_append, reached]
  cases found : Keyed.get? child members <;> simp [at?, found]

theorem exists_of_at?_concat {entry member : Entry} {above : Trail} {child : String}
    (found : entry.at? (above ++ [child]) = some member) :
    ∃ permission members, entry.at? above = some (.directory permission members) ∧
      Keyed.get? child members = some member := by
  rw [at?_append, Option.bind_eq_some_iff] at found
  rcases found with ⟨reached, atAbove, further⟩
  cases reached with
  | directory permission members =>
      simp only [at?, Option.bind_fun_some] at further
      exact ⟨permission, members, atAbove, further⟩
  | _ => cases further

theorem isDirectory_of_at? {entry reached : Entry} {trail : Trail}
    (found : entry.at? trail = some reached) (isDirectory : reached.isDirectory = true) :
    entry.isDirectory = true := by
  cases trail with
  | nil =>
      rw [at?, Option.some.injEq] at found
      rw [found]
      exact isDirectory
  | cons name rest =>
      cases entry with
      | directory permission members => rfl
      | _ => simp [at?] at found

/-! ## Directories -/

mutual

def directoryTrails : Entry → List Trail
  | directory _ members => [] :: memberTrails members
  | _ => []

def memberTrails : List (String × Entry) → List Trail
  | [] => []
  | (name, entry) :: rest => entry.directoryTrails.map (name :: ·) ++ memberTrails rest

end

private theorem mem_memberTrails {members : List (String × Entry)} {member : String × Entry}
    (inMembers : member ∈ members) {trail : Trail} (inside : trail ∈ member.2.directoryTrails) :
    member.1 :: trail ∈ memberTrails members := by
  induction members with
  | nil => cases inMembers
  | cons first rest induction =>
      rw [memberTrails, List.mem_append]
      rcases List.mem_cons.mp inMembers with rfl | inRest
      · exact Or.inl (List.mem_map_of_mem inside)
      · exact Or.inr (induction inRest)

theorem mem_directoryTrails {entry reached : Entry} {trail : Trail}
    (found : entry.at? trail = some reached) (isDirectory : reached.isDirectory = true) :
    trail ∈ entry.directoryTrails := by
  rcases isDirectory_iff.mp (isDirectory_of_at? found isDirectory) with ⟨permission, members, rfl⟩
  induction trail generalizing permission members with
  | nil => exact List.mem_cons_self
  | cons name rest induction =>
      simp only [at?, Option.bind_eq_some_iff] at found
      rcases found with ⟨member, present, further⟩
      rcases isDirectory_iff.mp (isDirectory_of_at? further isDirectory) with ⟨inner, others, rfl⟩
      exact List.mem_cons_of_mem []
        (mem_memberTrails (Keyed.mem_of_get? present) (induction inner others further))

/-! ## Proper names -/

mutual

/-- Whether all entries in a tree have names, and the members of each directory different ones. -/
def isProper : Entry → Bool
  | directory _ members => areProper members
  | _ => true

def areProper : List (String × Entry) → Bool
  | [] => true
  | (name, entry) :: rest =>
      decide (IsName name) && !(rest.map Prod.fst).contains name && entry.isProper &&
        areProper rest

end

private theorem areProper_iff {members : List (String × Entry)} :
    areProper members = true ↔ (members.map Prod.fst).Nodup ∧
      ∀ member ∈ members, IsName member.1 ∧ member.2.isProper = true := by
  induction members with
  | nil => simp [areProper]
  | cons member rest induction =>
      rcases member with ⟨name, entry⟩
      simp only [areProper, Bool.and_eq_true, decide_eq_true_eq, Bool.not_eq_true',
        List.contains_eq_mem, decide_eq_false_iff_not, induction, List.map_cons, List.nodup_cons,
        List.forall_mem_cons]
      constructor
      · rintro ⟨⟨⟨isName, absent⟩, proper⟩, distinct, restProper⟩
        exact ⟨⟨absent, distinct⟩, ⟨isName, proper⟩, restProper⟩
      · rintro ⟨⟨absent, distinct⟩, ⟨isName, proper⟩, restProper⟩
        exact ⟨⟨⟨isName, absent⟩, proper⟩, distinct, restProper⟩

theorem isProper_directory_iff {permission : Permission} {members : List (String × Entry)} :
    (directory permission members).isProper = true ↔ (members.map Prod.fst).Nodup ∧
      ∀ member ∈ members, IsName member.1 ∧ member.2.isProper = true := by
  rw [isProper, areProper_iff]

theorem isProper_of_at? {entry reached : Entry} {trail : Trail} (proper : entry.isProper = true)
    (found : entry.at? trail = some reached) : reached.isProper = true := by
  induction trail generalizing entry with
  | nil =>
      rw [at?, Option.some.injEq] at found
      rw [← found]
      exact proper
  | cons name rest induction =>
      cases entry with
      | directory permission members =>
          simp only [at?, Option.bind_eq_some_iff] at found
          rcases found with ⟨member, isMember, further⟩
          have memberProper := (isProper_directory_iff.mp proper).2 _ (Keyed.mem_of_get? isMember)
          exact induction memberProper.2 further
      | _ => simp [at?] at found

theorem isName_of_at? {entry reached : Entry} {trail : Trail} (proper : entry.isProper = true)
    (found : entry.at? trail = some reached) : ∀ name ∈ trail, IsName name := by
  induction trail generalizing entry with
  | nil => exact nofun
  | cons name rest induction =>
      cases entry with
      | directory permission members =>
          simp only [at?, Option.bind_eq_some_iff] at found
          rcases found with ⟨member, isMember, further⟩
          have memberProper := (isProper_directory_iff.mp proper).2 _ (Keyed.mem_of_get? isMember)
          exact List.forall_mem_cons.mpr ⟨memberProper.1, induction memberProper.2 further⟩
      | _ => simp [at?] at found

end ImportAtlas.Entry
