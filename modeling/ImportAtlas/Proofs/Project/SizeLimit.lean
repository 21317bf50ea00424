import ImportAtlas.Proofs.Project.ImportGraph

/-! # Limits on the size of scanned files

A file above the limit is not scanned, so it has no imports; it stays a node, and imports of other
files still resolve to it. Two builds of one graph therefore differ only in the edges that leave the
files between their limits. Main statement: a build under a lower limit is that under a higher one
without the imports of the files above the lower limit.
-/

namespace ImportAtlas

namespace Import

def IsWithin (size : Nat) (limit : Option Int) : Prop :=
  ∀ bound, limit = some bound → (size : Int) ≤ bound

instance (size : Nat) (limit : Option Int) : Decidable (IsWithin size limit) :=
  decidable_of_iff (exceeds size limit = false) exceeds_eq_false_iff

def IsAtMost (lower upper : Option Int) : Prop :=
  ∀ bound, upper = some bound → ∃ least, lower = some least ∧ least ≤ bound

theorem IsWithin.mono {size : Nat} {lower upper : Option Int} (ordered : IsAtMost lower upper)
    (within : IsWithin size lower) : IsWithin size upper := by
  intro bound given
  obtain ⟨least, lowerGiven, atMost⟩ := ordered bound given
  exact Int.le_trans (within least lowerGiven) atMost

private theorem text?_eq_ite {system : FileSystem} {place : Location} {bytes : List UInt8}
    (readable : system.read place = .ok bytes) (limit : Option Int) :
    text? system place limit = if IsWithin bytes.length limit then
      (FileSystem.decodeText? bytes).map String.ofList else none := by
  by_cases within : IsWithin bytes.length limit
  · simp [text?, readable, exceeds_eq_false_iff.mpr within, within]
  · have tooLarge : exceeds bytes.length limit = true := by
      rw [← Bool.not_eq_false, exceeds_eq_false_iff]
      exact within
    simp [text?, readable, tooLarge, within]

private theorem text?_of_isAtMost {system : FileSystem} {place : Location} {bytes : List UInt8}
    (readable : system.read place = .ok bytes) {lower upper : Option Int}
    (ordered : IsAtMost lower upper) :
    text? system place lower =
      if IsWithin bytes.length lower then text? system place upper else none := by
  rw [text?_eq_ite readable lower, text?_eq_ite readable upper]
  by_cases within : IsWithin bytes.length lower
  · rw [if_pos within, if_pos within, if_pos (within.mono ordered)]
  · rw [if_neg within, if_neg within]

end Import

namespace DependencyGraph

open Import

section Limits

variable {system : FileSystem} {root : Location} {records : List FileRecord}
  {contents : String → List UInt8} {lower upper : Option Int}
  (distinct : (records.map FileRecord.path).Nodup)
  (readable : ∀ record ∈ records, system.read (root.child record.path) = .ok (contents record.path))
  (ordered : IsAtMost lower upper)
include readable ordered

theorem resolvedTargets_of_isAtMost {record : FileRecord} (listed : record ∈ records) :
    resolvedTargets system root lower records record =
      if IsWithin (contents record.path).length lower then
        resolvedTargets system root upper records record else [] := by
  unfold resolvedTargets
  rw [text?_of_isAtMost (readable record listed) ordered]
  by_cases within : IsWithin (contents record.path).length lower <;> simp [within]

include distinct

private theorem importsOf_of_isAtMost (path : String) :
    (ofChanges (buildChanges system root lower records)).importsOf path =
      if IsWithin (contents path).length lower then
        (ofChanges (buildChanges system root upper records)).importsOf path else [] := by
  by_cases listed : path ∈ records.map FileRecord.path
  · rcases List.mem_map.mp listed with ⟨record, member, rfl⟩
    rw [importsOf_ofChanges_buildChanges distinct member,
      importsOf_ofChanges_buildChanges distinct member,
      resolvedTargets_of_isAtMost readable ordered member]
    by_cases within : IsWithin (contents record.path).length lower <;> simp [within]
  · have none : ∀ limit,
        (ofChanges (buildChanges system root limit records)).importsOf path = [] := by
      intro limit
      apply (wellFormed_ofChanges _).neighboursOf_of_not_mem
      rw [paths_ofChanges_buildChanges distinct]
      exact listed
    rw [none lower, none upper, ite_self]

private theorem importersOf_of_isAtMost (target : String) :
    (ofChanges (buildChanges system root lower records)).importersOf target =
      ((ofChanges (buildChanges system root upper records)).importersOf target).filter
        fun source => IsWithin (contents source).length lower := by
  rw [importersOf_ofChanges, importersOf_ofChanges, importersFor_buildChanges distinct,
    importersFor_buildChanges distinct, List.filter_map, List.filter_filter]
  congr 1
  apply List.filter_congr
  intro record listed
  rw [resolvedTargets_of_isAtMost readable ordered listed]
  by_cases within : IsWithin (contents record.path).length lower <;> simp [within]

end Limits

/-- Building a graph of readable files under two limits, of which one is at most the other, gives
the same nodes. A file within the lower limit has the same imports in both graphs, which are the
listed files that the targets in its text resolve to, large ones too, and a file above it has none
under the lower limit; the importers of a file under the lower limit are those of its importers
under the higher one that are within the lower limit. -/
theorem build_underLimits {system : FileSystem} {root : Location} {records : List FileRecord}
    {contents : String → List UInt8} {lower upper : Option Int}
    (distinct : (records.map FileRecord.path).Nodup)
    (readable : ∀ record ∈ records,
      system.read (root.child record.path) = .ok (contents record.path))
    (ordered : IsAtMost lower upper) :
    ∃ narrow wide, (build system root records lower).outcome = .ok narrow ∧
      (build system root records upper).outcome = .ok wide ∧
      narrow.paths = records.map FileRecord.path ∧ wide.paths = records.map FileRecord.path ∧
      (∀ path, narrow.importsOf path =
        if IsWithin (contents path).length lower then wide.importsOf path else []) ∧
      (∀ target, narrow.importersOf target = (wide.importersOf target).filter
        fun source => IsWithin (contents source).length lower) ∧
      ∀ record ∈ records, isScannable record.extension = true →
        IsWithin (contents record.path).length lower →
        ∀ chars, Text.Utf8.decode? (contents record.path) = some chars →
        narrow.importsOf record.path =
          ((targets (String.ofList (Text.unifyNewlines chars))).filterMap fun raw =>
            resolve? (isListed records) raw record.path).eraseDups := by
  have clean : ∀ record ∈ records, '\x00' ∉ (root.child record.path).text.toList :=
    fun record listed => FileSystem.null_not_mem_of_read (readable record listed)
  refine ⟨_, _, outcome_build lower clean, outcome_build upper clean,
    paths_ofChanges_buildChanges distinct, paths_ofChanges_buildChanges distinct,
    importsOf_of_isAtMost distinct readable ordered,
    importersOf_of_isAtMost distinct readable ordered, ?_⟩
  intro record listed scanned within chars decoded
  have given : HasText system (root.child record.path) lower
      (String.ofList (Text.unifyNewlines chars)) :=
    ⟨contents record.path, chars, readable record listed, within, decoded, rfl⟩
  rw [importsOf_ofChanges_buildChanges distinct listed, resolvedTargets_of_text scanned given]

def mutualContents (path : String) : List UInt8 :=
  if path = "a.ts" then "import './b'    ".toList.map Char.toUInt8
  else "import './a'//".toList.map Char.toUInt8 ++ [0xC3, 0xA9, 0xC3, 0xA9]

def mutualFiles : FileSystem where
  top := .directory .newDirectory [("r", .directory .newDirectory [
    ("a.ts", .file .newFile (mutualContents "a.ts")),
    ("b.ts", .file .newFile (mutualContents "b.ts"))])]
  workingDirectory := []
  isPrivileged := false

theorem build_underLimits_mutualFiles :
    ∃ narrow wide,
      (build mutualFiles (.ofText "/r") [.ofPath "a.ts", .ofPath "b.ts"] (some 16)).outcome =
        .ok narrow ∧
      (build mutualFiles (.ofText "/r") [.ofPath "a.ts", .ofPath "b.ts"] none).outcome =
        .ok wide ∧
      narrow.paths = wide.paths ∧ narrow.importsOf "a.ts" = ["b.ts"] ∧
      narrow.importsOf "b.ts" = [] ∧ wide.importsOf "a.ts" = ["b.ts"] ∧
      narrow.importersOf "a.ts" = (wide.importersOf "a.ts").filter fun source =>
        IsWithin (mutualContents source).length (some 16) := by
  have ordered : IsAtMost (some 16) none := by
    rintro bound ⟨⟩
  obtain ⟨narrow, wide, built, builtWide, paths, pathsWide, imports, importers, scanned⟩ :=
    @build_underLimits mutualFiles (.ofText "/r") [.ofPath "a.ts", .ofPath "b.ts"] mutualContents
      (some 16) none (by decide +kernel) (by decide +kernel) ordered
  have within : IsWithin (mutualContents "a.ts").length (some 16) := by decide +kernel
  have above : ¬IsWithin (mutualContents "b.ts").length (some 16) := by decide +kernel
  have first : narrow.importsOf "a.ts" = ["b.ts"] := by
    refine (scanned (.ofPath "a.ts") List.mem_cons_self (by decide +kernel) within
      "import './b'    ".toList (by decide +kernel)).trans ?_
    decide +kernel
  have same := imports "a.ts"
  have none := imports "b.ts"
  rw [if_pos within] at same
  rw [if_neg above] at none
  exact ⟨narrow, wide, built, builtWide, paths.trans pathsWide.symm, first, none,
    same.symm.trans first, importers "a.ts"⟩

end DependencyGraph

end ImportAtlas
