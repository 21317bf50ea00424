import ImportAtlas.Proofs.Project.ExcludedDirectory
import ImportAtlas.Proofs.Project.Views

/-! # Directories that have no influence

The answers about a project are compared with those about the same project in a file system that
differs only inside a directory that the walk leaves out. Main statement: the files, the graph and
the snapshot are the same, unless an ignore file elsewhere is a link that is refused in one of the
two file systems only.
-/

namespace ImportAtlas

/-! ## Graphs and manifests -/

private theorem Import.text?_of_read {system other : FileSystem} {place : Location}
    (same : other.read place = system.read place) (limit : Option Int) :
    text? other place limit = text? system place limit := by
  rw [text?, text?, same]

private theorem DependencyGraph.buildChanges_congr {system other : FileSystem} {root : Location}
    {records : List FileRecord}
    (same : ∀ record ∈ records,
      other.read (root.child record.path) = system.read (root.child record.path))
    (limit : Option Int) :
    buildChanges other root limit records = buildChanges system root limit records := by
  have each : ∀ record ∈ records, importChanges other root limit records record =
      importChanges system root limit records record := by
    intro record member
    rw [importChanges, importChanges, resolvedTargets, resolvedTargets,
      Import.text?_of_read (same record member)]
  rw [buildChanges, buildChanges, List.flatMap_congr each]

private theorem Manifest.loadAt_outside {hidden : Trail} {system other : FileSystem}
    (same : system.SameOutside hidden other) {place : Location}
    (avoid : system.avoids hidden true place = true) (limit : Nat) :
    loadAt limit other place = loadAt limit system place := by
  have alike := FileSystem.entryAt_outside same (FileSystem.lookup_outside same avoid)
  have isFile : other.isFile? place = system.isFile? place :=
    FileSystem.test_outside Entry.isFile_shape alike
  have text : other.readText place = system.readText place := by
    simp only [FileSystem.readText, FileSystem.read_outside same alike]
  rw [loadAt, loadAt, isFile, text]

private theorem Manifest.load_outside {hidden : Trail} {system other : FileSystem}
    (same : system.SameOutside hidden other) {root : Location} {filename : Text.Coded}
    (avoid : ∀ place, root.named? filename = some place →
      system.avoids hidden true place = true) (limit : Nat) :
    load limit other root filename = load limit system root filename := by
  unfold load
  cases named : root.named? filename with
  | none => rfl
  | some place => exact loadAt_outside same (avoid place named) limit

namespace Project

variable {project : Project} {config : Config} {other : FileSystem} {top : Trail}
  {directory : List String} {name : String}

/-- The same project in another file system. -/
def movedTo (project : Project) (other : FileSystem) : Project := { project with system := other }

section Moved

variable (project : Project) (other : FileSystem)

@[simp] theorem system_movedTo : (project.movedTo other).system = other := rfl

@[simp] theorem limits_movedTo : (project.movedTo other).limits = project.limits := rfl

@[simp] theorem root_movedTo : (project.movedTo other).root = project.root := rfl

@[simp] theorem config_movedTo : (project.movedTo other).config = project.config := rfl

@[simp] theorem scan_movedTo (config : Config) :
    (project.movedTo other).scan config = (project.scan config).movedTo other := rfl

end Moved

theorem activeConfig_of_config (explicit : project.config = some config) :
    project.activeConfig = pure config := by
  rw [activeConfig, explicit]

theorem activeConfig_movedTo (explicit : project.config = some config) :
    (project.movedTo other).activeConfig = pure config := by
  rw [activeConfig, config_movedTo, explicit]

section Same

variable (differ : (project.scan config).SameButExcluded other top directory name)
  (links : (project.scan config).LinksAlike other)
include differ links

theorem listFiles_movedTo :
    ((project.movedTo other).listFiles config).outcome = (project.listFiles config).outcome := by
  rw [listFiles, listFiles, Reported.outcome_bind, Reported.outcome_bind, scan_movedTo,
    Scan.outcome_run_movedTo differ links]

theorem graphOf_movedTo {records : List FileRecord}
    (listed : (project.listFiles config).outcome = .ok records) :
    ((project.movedTo other).graphOf config records).outcome =
      (project.graphOf config records).outcome := by
  have listedOther := (listFiles_movedTo differ links).trans listed
  rcases found_of_listFiles differ.proper listed with ⟨_, found, tree, isRoot⟩
  have sameReads : ∀ record ∈ records, other.read (project.root.child record.path) =
      project.system.read (project.root.child record.path) := by
    intro record member
    rcases (found.mem_iff record).mp member with ⟨names, file, _, _, isListed, rfl⟩
    have path : (FileRecord.ofPath (Scan.pathText (names ++ [file]))).path =
        Scan.pathText (names ++ [file]) := rfl
    have place : project.root.child (Scan.pathText (names ++ [file])) =
        (project.scan config).place (names ++ [file]) :=
      @Scan.child_pathText (project.scan config) _ (by simp) isListed.named
    rw [path, place]
    exact Scan.read_movedTo differ isRoot isListed
  rw [outcome_graphOf differ.proper listed, outcome_graphOf differ.properOther listedOther,
    root_movedTo, system_movedTo, DependencyGraph.buildChanges_congr sameReads]

variable (explicit : project.config = some config)
include explicit

private theorem files_movedTo : (project.movedTo other).files.outcome = project.files.outcome := by
  simp only [files, activeConfig_of_config explicit, activeConfig_movedTo explicit,
    Reported.outcome_bind, Reported.outcome_pure, Except.bind, listFiles_movedTo differ links]

private theorem graph_movedTo : (project.movedTo other).graph.outcome = project.graph.outcome := by
  simp only [graph, activeConfig_of_config explicit, activeConfig_movedTo explicit,
    Reported.outcome_bind, Reported.outcome_pure, Except.bind, listFiles_movedTo differ links]
  cases listed : (project.listFiles config).outcome with
  | error failure => rfl
  | ok records => exact graphOf_movedTo differ links listed

private theorem context_movedTo (manifest : config.readManifest = true →
      ∀ place, project.root.named? config.manifestFilename = some place →
        project.system.avoids (top ++ (directory ++ [name])) true place = true) :
    (project.movedTo other).context.outcome = project.context.outcome := by
  simp only [context, activeConfig_of_config explicit, activeConfig_movedTo explicit,
    Reported.outcome_bind, Reported.outcome_pure, Except.bind, listFiles_movedTo differ links]
  cases listed : (project.listFiles config).outcome with
  | error failure => rfl
  | ok records =>
      simp only [graphOf_movedTo differ links listed]
      cases (project.graphOf config records).outcome with
      | error failure => rfl
      | ok graph =>
          by_cases reads : config.readManifest = true
          · have sameManifest : Manifest.load project.limits.json other project.root
                  config.manifestFilename =
                Manifest.load project.limits.json project.system project.root
                  config.manifestFilename :=
              Manifest.load_outside differ.same (manifest reads) _
            simp only [reads, if_true, root_movedTo, system_movedTo, limits_movedTo, sameManifest,
              Reported.outcome_bind, Reported.outcome_report]
          · have noManifest : config.readManifest = false := by simpa using reads
            simp only [noManifest, Bool.false_eq_true, if_false, Reported.outcome_bind,
              Reported.outcome_pure, Reported.outcome_report]

end Same

theorem exists_run_of_files (explicit : project.config = some config) {records : List FileRecord}
    (succeeded : project.files.outcome = .ok records) :
    ∃ found, (project.scan config).run.outcome = .ok found := by
  rcases Reported.outcome_bind_eq_ok_iff.mp succeeded with ⟨own, configured, listed⟩
  rw [activeConfig_of_config explicit, Reported.outcome_pure, Except.ok.injEq] at configured
  rw [← configured] at listed
  rcases Reported.outcome_bind_eq_ok_iff.mp listed with ⟨found, walked, _⟩
  exact ⟨found, walked⟩

/-- What lies in a directory that the walk leaves out has no influence beyond the links among the
ignore files. If these are refused alike, the files, the graph and the snapshot come to the same in
both file systems. Files that can be listed in one are those of the other exactly if none of the
links is refused there. -/
theorem answers_unaffected (explicit : project.config = some config)
    (differ : (project.scan config).SameButExcluded other top directory name)
    (manifest : config.readManifest = true →
      ∀ place, project.root.named? config.manifestFilename = some place →
        project.system.avoids (top ++ (directory ++ [name])) true place = true) :
    ((project.scan config).LinksAlike other →
      (project.movedTo other).files.outcome = project.files.outcome ∧
      (project.movedTo other).graph.outcome = project.graph.outcome ∧
      (project.movedTo other).context.outcome = project.context.outcome) ∧
    ∀ records, project.files.outcome = .ok records →
      ((project.movedTo other).files.outcome = .ok records ↔
        (project.scan config).LinksAnswer other) := by
  refine ⟨fun links => ⟨files_movedTo differ links explicit, graph_movedTo differ links explicit,
    context_movedTo differ links explicit manifest⟩, ?_⟩
  intro records succeeded
  rcases exists_run_of_files explicit succeeded with ⟨found, walked⟩
  constructor
  · intro succeededOther
    have explicitOther : (project.movedTo other).config = some config := explicit
    rcases exists_run_of_files explicitOther succeededOther with ⟨foundOther, walkedOther⟩
    exact Scan.linksAnswer_of_run differ walked walkedOther
  · intro answer
    have links := Scan.linksAlike_of_linksAnswer differ walked answer
    rw [files_movedTo differ links explicit, succeeded]

def linkedTree (inner : List (String × Entry)) : Entry :=
  .directory .newDirectory [
    (".gitignore", .link "d/x/y"),
    ("a.ts", .file .newFile []),
    ("d", .directory .newDirectory inner)]

def linkedConfig : Config := ⟨["d/"], [".gitignore"], "package.json", true, none⟩

def linkedProject (inner : List (String × Entry)) : Project where
  limits := ⟨0, 0, 0, 0, 0⟩
  system := ⟨.directory .newDirectory [("r", linkedTree inner)], [], false⟩
  root := .ofText "/r"
  config := some linkedConfig

/-- Members of the directory: one with a file that keeps it, to which the link leads. -/
def keepingMembers : List (String × Entry) :=
  [("x", .directory .newDirectory [("y", .file .newFile ("!d/".toList.map Char.toUInt8))]),
    ("b.ts", .file .newFile [])]

def lockedMembers : List (String × Entry) := [("x", .directory ⟨true, false⟩ [])]

private theorem sameOutside_linkedProject (inner others : List (String × Entry)) :
    (linkedProject inner).system.SameOutside ["r", "d"] (linkedProject others).system where
  workingDirectory := rfl
  isPrivileged := rfl
  top := by
    have below := Entry.SameOutside.directory .newDirectory inner others
    refine Entry.SameOutside.member (Entry.SameOutside.member below rfl rfl ?_) rfl rfl ?_
    · intro key other
      simp [Keyed.get?, other.symm]
    · intro key other
      simp [Keyed.get?, other.symm]

private theorem scan_linkedProject (inner : List (String × Entry)) :
    (linkedProject inner).scan linkedConfig =
      ⟨(linkedProject inner).system, .ofText "/r", ["d/"], [.ofText ".gitignore"]⟩ :=
  scan_of_ignoreFiles [".gitignore"] rfl

theorem sameButExcluded_linkedProject {others : List (String × Entry)}
    (proper : (linkedProject others).system.top.isProper = true) :
    ((linkedProject []).scan linkedConfig).SameButExcluded (linkedProject others).system ["r"] []
      "d" where
  proper := by decide
  properOther := proper
  rooted := rfl
  rootedOther := rfl
  same := sameOutside_linkedProject [] others
  excluded := Or.inr (by decide +kernel)
  undivided := by
    intro file member
    rcases List.mem_filterMap.mp member with ⟨name, isName, named⟩
    rw [List.mem_singleton.mp isName] at named
    exact Location.isUndivided_of_ofName? (by decide) named
  excludeFile := rfl
  excludeLines := fun _ => rfl

theorem named_linkedProject :
    (linkedProject []).root.named? linkedConfig.manifestFilename =
      some (.ofText "/r/package.json") :=
  Location.named?_ofText _ "package.json"

theorem isRoot_linkedProject : ((linkedProject []).scan linkedConfig).IsRoot (linkedTree []) :=
  ⟨rfl, rfl, by decide⟩

theorem files_linkedProject : ∃ records, (linkedProject []).files.outcome = .ok records := by
  have walked : ∃ found, ((linkedProject []).scan linkedConfig).run.outcome = .ok found :=
    Scan.outcome_run (by decide) rfl
      (.of_directoryTrails isRoot_linkedProject (by decide +kernel) (by decide) (by decide)
        (by decide) (by rw [scan_linkedProject]; decide))
  rcases walked with ⟨found, succeeded⟩
  exact ⟨found.records, Reported.outcome_bind_eq_ok_iff.mpr
    ⟨linkedConfig, rfl, Reported.outcome_bind_eq_ok_iff.mpr ⟨found, succeeded, rfl⟩⟩⟩

theorem answers_unaffected_linkedProject :
    ∃ records, (linkedProject keepingMembers).files.outcome = .ok records ∧
      (linkedProject []).files.outcome = .ok records := by
  have differ := @sameButExcluded_linkedProject keepingMembers (by decide)
  rcases files_linkedProject with ⟨records, succeeded⟩
  have manifest : linkedConfig.readManifest = true → ∀ place,
      (linkedProject []).root.named? linkedConfig.manifestFilename = some place →
        (linkedProject []).system.avoids (["r"] ++ ([] ++ ["d"])) true place = true := by
    intro _ place isPlace
    rw [named_linkedProject, Option.some.injEq] at isPlace
    rw [← isPlace]
    decide
  rcases answers_unaffected rfl differ manifest with ⟨_, exact⟩
  refine ⟨records, (exact records succeeded).mpr ?_, succeeded⟩
  intro names reached _ file member _
  rw [scan_linkedProject] at member
  rcases isRoot_linkedProject.at?_of_reaches reached with ⟨_, _, atNames⟩
  have inTree : names ∈ [[], ["d"]] := Entry.mem_directoryTrails atNames rfl
  rcases List.mem_cons.mp inTree with rfl | inside
  · rw [List.mem_singleton.mp member]
    exact ⟨true, by decide⟩
  · rw [List.mem_singleton.mp inside] at reached
    exact absurd (List.prefix_refl _) (differ.notBelow_of_reaches reached)

/-- A link among the ignore files lets a directory that is left out make the enumeration fail. -/
theorem files_fail_for_link_into_excluded :
    ((linkedProject []).scan linkedConfig).SameButExcluded (linkedProject lockedMembers).system
      ["r"] [] "d" ∧
    (∃ place, (linkedProject []).root.named? linkedConfig.manifestFilename = some place ∧
      (linkedProject []).system.avoids ["r", "d"] true place = true) ∧
    (∃ records, (linkedProject []).files.outcome = .ok records) ∧
    ∀ records, (linkedProject lockedMembers).files.outcome ≠ .ok records := by
  have proper : (linkedProject lockedMembers).system.top.isProper = true := by decide
  refine ⟨sameButExcluded_linkedProject proper, ⟨_, named_linkedProject, by decide⟩,
    files_linkedProject, ?_⟩
  intro records succeeded
  rcases exists_run_of_files rfl succeeded with ⟨found, walked⟩
  have opened : ((linkedProject lockedMembers).scan linkedConfig).Opens [] := by
    intro above before
    rw [List.prefix_nil.mp before]
    exact ⟨_, rfl⟩
  have answers := Scan.answersTo_of_run proper walked .nil opened [] (List.prefix_refl _)
  rcases answers (.ofText ".gitignore") (by rw [scan_linkedProject]; decide) with ⟨answer, answered⟩
  have refused : ((linkedProject lockedMembers).scan linkedConfig).system.isFile?
      ((((linkedProject lockedMembers).scan linkedConfig).place []).append (.ofText ".gitignore")) =
        .error .denied := by
    decide
  rw [refused] at answered
  cases answered

end Project

end ImportAtlas
