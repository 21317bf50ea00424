import ImportAtlas.Proofs.Path.Lexical
import ImportAtlas.Proofs.Project.Views

/-! # Questions about a listed path

A question about a file is answered for the canonical form of the path that it gives. Main
statement: the path under which a file is listed leads back to this file exactly if there is no
backslash in it.
-/

namespace ImportAtlas.Project

variable {project : Project} {records : List FileRecord}

@[simp] theorem path_dependenciesIn (graph : DependencyGraph) (path : String) :
    (dependenciesIn graph path).path = path := rfl

theorem normalize_eq_self_iff {config : Config} (proper : project.system.top.isProper = true)
    (listed : (project.listFiles config).outcome = .ok records) {record : FileRecord}
    (member : record ∈ records) :
    Path.normalize record.path = record.path ↔ '\\' ∉ record.path.toList := by
  rcases named_of_listFiles proper listed member with ⟨names, nonempty, named, path⟩
  constructor
  · intro normalized
    rw [← normalized]
    exact Path.backslash_not_mem_normalize record.path
  · intro plain
    rw [path] at plain ⊢
    exact Path.normalize_pathText_self nonempty named plain

/-- A file can be asked for under the path under which it is listed exactly if there is no
backslash in it. A backslash is read as a slash: the answer is about the file that is listed under
the path with slashes, or if there is none, that the file is unknown. -/
theorem dependenciesOf_ownPath (proper : project.system.top.isProper = true)
    (listed : project.files.outcome = .ok records) {record : FileRecord}
    (member : record ∈ records) :
    ((∃ dependencies, (project.dependenciesOf record.path).outcome = .ok dependencies ∧
        dependencies.path = record.path) ↔ '\\' ∉ record.path.toList) ∧
    ('\\' ∈ record.path.toList →
      (∃ other ∈ records, other ≠ record ∧ other.path = Path.normalize record.path ∧
        ∃ dependencies, (project.dependenciesOf record.path).outcome = .ok dependencies ∧
          dependencies.path = other.path) ∨
      ((∀ other ∈ records, other.path ≠ Path.normalize record.path) ∧
        (project.dependenciesOf record.path).outcome = .error (.unknownFile record.path))) := by
  rcases isBuilt_of_files proper listed with ⟨config, graph, isBuilt⟩
  have canonical := normalize_eq_self_iff proper isBuilt.listed member
  have answered := outcome_dependenciesOf proper isBuilt member
  refine ⟨⟨?_, ?_⟩, ?_⟩
  · intro own
    rcases own with ⟨dependencies, succeeded, path⟩
    rw [answered] at succeeded
    split at succeeded
    · rw [Except.ok.injEq] at succeeded
      rw [← succeeded, path_dependenciesIn] at path
      exact canonical.mp path
    · cases succeeded
  · intro plain
    have own := canonical.mpr plain
    rw [answered, own, if_pos (List.mem_map_of_mem member)]
    exact ⟨_, rfl, path_dependenciesIn graph record.path⟩
  · intro backslash
    have different : Path.normalize record.path ≠ record.path :=
      fun equal => canonical.mp equal backslash
    rw [answered]
    by_cases known : Path.normalize record.path ∈ records.map FileRecord.path
    · rcases List.mem_map.mp known with ⟨other, isOther, path⟩
      have anotherFile : other ≠ record := by
        intro same
        rw [same] at path
        exact different path.symm
      refine Or.inl ⟨other, isOther, anotherFile, path, ?_⟩
      rw [if_pos known]
      exact ⟨_, rfl, (path_dependenciesIn graph _).trans path.symm⟩
    · refine Or.inr ⟨?_, if_neg known⟩
      intro other isOther path
      rw [← path] at known
      exact known (List.mem_map_of_mem isOther)

def backslashTree : Entry :=
  .directory .newDirectory [("a.ts", .file .newFile []), ("a\\b.ts", .file .newFile [])]

def backslashProject : Project where
  limits := ⟨0, 0, 0, 0, 0⟩
  system := ⟨.directory .newDirectory [("r", backslashTree)], [], false⟩
  root := .ofText "/r"
  config := some ⟨[], [".gitignore"], "package.json", false, none⟩

theorem isProper_backslashProject : backslashProject.system.top.isProper = true := by
  decide

theorem isBuilt_backslashProject :
    ∃ config records graph, backslashProject.IsBuilt config records graph ∧
      .ofPath "a.ts" ∈ records ∧ .ofPath "a\\b.ts" ∈ records ∧
      "a/b.ts" ∉ records.map FileRecord.path := by
  have scanned : backslashProject.scan ⟨[], [".gitignore"], "package.json", false, none⟩ =
      ⟨backslashProject.system, .ofText "/r", [], [.ofText ".gitignore"]⟩ :=
    scan_of_ignoreFiles [".gitignore"] rfl
  have isRoot : Scan.IsRoot ⟨backslashProject.system, .ofText "/r", [], [.ofText ".gitignore"]⟩
      backslashTree := ⟨rfl, rfl, by decide⟩
  have undisturbed := Scan.Undisturbed.of_directoryTrails isRoot (by decide) (by decide)
    (by decide) (by decide) (by decide)
  rw [← scanned] at undisturbed
  rcases exists_isBuilt rfl isProper_backslashProject rfl undisturbed with
    ⟨records, graph, isBuilt⟩
  rcases found_of_listFiles isProper_backslashProject isBuilt.listed with ⟨_, found, _⟩
  refine ⟨_, records, graph, isBuilt, ?_, ?_, ?_⟩
  · exact isBuilt.mem_of_lists isProper_backslashProject ⟨_, rfl⟩
      ⟨.nil, by decide, by decide, ⟨_, rfl, rfl⟩, by rw [scanned]; decide⟩
  · exact isBuilt.mem_of_lists isProper_backslashProject ⟨_, rfl⟩
      ⟨.nil, by decide, by decide, ⟨_, rfl, rfl⟩, by rw [scanned]; decide⟩
  · intro member
    rcases List.mem_map.mp member with ⟨record, isRecord, path⟩
    rcases (found.mem_iff record).mp isRecord with ⟨directory, name, _, _, isListed, rfl⟩
    have inDirectory : directory ++ [name] = ["a"] ++ ["b.ts"] :=
      Scan.pathText_injective (by simp) (by simp) isListed.named (by decide) path
    rcases List.append_inj' inDirectory rfl with ⟨rfl, _⟩
    rcases isRoot.at?_of_reaches isListed.reached with ⟨_, _, atDirectory⟩
    cases atDirectory

theorem dependenciesOf_ownPath_backslashProject :
    (∃ dependencies, (backslashProject.dependenciesOf "a.ts").outcome = .ok dependencies ∧
      dependencies.path = "a.ts") ∧
    (backslashProject.dependenciesOf "a\\b.ts").outcome = .error (.unknownFile "a\\b.ts") := by
  rcases isBuilt_backslashProject with ⟨_, records, _, isBuilt, plain, backslash, absent⟩
  have slashed : Path.normalize "a\\b.ts" = "a/b.ts" := by decide
  have ofPlain := dependenciesOf_ownPath isProper_backslashProject isBuilt.files_eq plain
  have ofBackslash := dependenciesOf_ownPath isProper_backslashProject isBuilt.files_eq backslash
  refine ⟨ofPlain.1.mpr (by decide), ?_⟩
  rcases ofBackslash.2 (by decide) with
    ⟨other, isOther, _, path, _⟩ | ⟨_, unknown⟩
  · exfalso
    apply absent
    rw [← slashed]
    exact List.mem_map.mpr ⟨other, isOther, path⟩
  · exact unknown

theorem dependenciesOf_fails_for_backslash :
    ∃ records, backslashProject.files.outcome = .ok records ∧ ∃ record ∈ records,
      ∀ dependencies, (backslashProject.dependenciesOf record.path).outcome ≠ .ok dependencies := by
  rcases isBuilt_backslashProject with ⟨_, records, _, isBuilt, _, backslash, absent⟩
  refine ⟨records, isBuilt.files_eq, _, backslash, ?_⟩
  have slashed : Path.normalize (FileRecord.ofPath "a\\b.ts").path = "a/b.ts" := by decide
  intro dependencies succeeded
  rw [outcome_dependenciesOf isProper_backslashProject isBuilt backslash, slashed,
    if_neg absent] at succeeded
  cases succeeded

end ImportAtlas.Project
