import ImportAtlas.Proofs.Path.Location
import ImportAtlas.Proofs.Project.OwnPath

/-! # Spellings of a requested path

A file can be asked for under many texts. Main statement: all relative texts with the same canonical
form, and the absolute ones that they give behind the root, get the same answer, however the root is
written. An absolute text that does not lie behind the root is refused.
-/

namespace ImportAtlas

/-! ## Absolute roots -/

private theorem FileSystem.isAbsolute_absolute (system : FileSystem) (place : Location) :
    (system.absolute place).isAbsolute = true := by
  unfold absolute
  split
  · assumption
  · rfl

namespace Project

variable {project : Project} {config : Config} {records : List FileRecord}

private theorem isRead_absolute {rootText : String} (rooted : project.root = .ofText rootText)
    (proper : project.system.top.isProper = true)
    (listed : (project.listFiles config).outcome = .ok records) :
    (project.system.absolute project.root).IsRead := by
  have isRead : project.root.IsRead := rooted ▸ Location.isRead_ofText rootText
  unfold FileSystem.absolute
  split
  · exact isRead
  · rename_i relative
    rcases found_of_listFiles proper listed with ⟨_, _, tree, isRoot⟩
    have notAbsolute := Bool.eq_false_iff.mpr relative
    have named := FileSystem.isName_workingDirectory proper notAbsolute isRoot.found
    exact ⟨by simp,
      List.forall_mem_append.mpr ⟨fun name member => (named name member).nonempty, isRead.nonempty⟩,
      List.forall_mem_append.mpr ⟨fun name member => (named name member).not_here, isRead.not_here⟩,
      List.forall_mem_append.mpr ⟨fun name member => (named name member).no_slash, isRead.no_slash⟩⟩

/-! ## Requests -/

private theorem projectPath_relative (project : Project) {spelling : String}
    (relative : spelling.toList.head? ≠ some '/') (plain : '\\' ∉ spelling.toList) :
    project.projectPath spelling = .ok (Path.normalize spelling) := by
  have notAbsolute : (Location.ofText spelling).isAbsolute = false := by
    rw [Location.isAbsolute, Location.anchor_ofText relative]
    rfl
  simp [projectPath, notAbsolute, Location.normalize_text_ofText relative plain]

private theorem projectPath_absolute
    (isRead : (project.system.absolute project.root).IsRead) {spelling : String}
    (relative : spelling.toList.head? ≠ some '/') (plain : '\\' ∉ spelling.toList) :
    project.projectPath ((project.system.absolute project.root).child spelling).text =
      .ok (Path.normalize spelling) := by
  have noAnchor := Location.anchor_ofText relative
  have behind : ((project.system.absolute project.root).append (.ofText spelling)).relativeTo?
      (project.system.absolute project.root) = some (.ofText spelling) :=
    Location.relativeTo?_append noAnchor
  have isAbsolute : ((project.system.absolute project.root).child spelling).isAbsolute = true := by
    rw [Location.child, Location.append_eq noAnchor]
    exact project.system.isAbsolute_absolute project.root
  simp only [projectPath, (isRead.child spelling).ofText_text, isAbsolute, if_true]
  rw [Location.child, behind]
  exact congrArg Except.ok (Location.normalize_text_ofText relative plain)

private theorem dependenciesOf_outside {path : String}
    (isAbsolute : (Location.ofText path).isAbsolute = true)
    (outside : ¬(project.system.absolute project.root).components <+:
      (Location.ofText path).components) :
    (project.dependenciesOf path).outcome = .error (.outsideRoot path) := by
  have notBehind := Location.relativeTo?_eq_none_iff.mpr outside
  have refused : project.projectPath path = .error (.outsideRoot path) := by
    simp [projectPath, isAbsolute, notBehind]
  rw [dependenciesOf, Reported.outcome_bind, refused]
  rfl

/-- All spellings of the path of a file get the same answer: relative texts with this canonical
form, and what they give behind the absolute root. -/
theorem dependenciesOf_respelled {rootText : String} (rooted : project.root = .ofText rootText)
    (proper : project.system.top.isProper = true) (listed : project.files.outcome = .ok records) :
    (∀ record ∈ records, ∀ spelling : String, '\\' ∉ spelling.toList →
      spelling.toList.head? ≠ some '/' → Path.normalize spelling = record.path →
      ∃ dependencies, (project.dependenciesOf record.path).outcome = .ok dependencies ∧
        (project.dependenciesOf spelling).outcome = .ok dependencies ∧
        (project.dependenciesOf
          ((project.system.absolute project.root).child spelling).text).outcome =
            .ok dependencies) ∧
    ∀ path, (Location.ofText path).isAbsolute = true →
      ¬(project.system.absolute project.root).components <+: (Location.ofText path).components →
      (project.dependenciesOf path).outcome = .error (.outsideRoot path) := by
  refine ⟨?_, fun path => dependenciesOf_outside⟩
  intro record member spelling plain relative canonical
  rcases isBuilt_of_files proper listed with ⟨config, graph, isBuilt⟩
  have isRead := isRead_absolute rooted proper isBuilt.listed
  -- All that counts of a request is the path that it comes to in the project.
  have answered : ∀ {path}, project.projectPath path = .ok record.path →
      (project.dependenciesOf path).outcome = .ok (dependenciesIn graph record.path) := by
    intro path asked
    rw [outcome_dependenciesOf_of_projectPath proper isBuilt asked,
      if_pos (List.mem_map_of_mem member)]
  have own : project.projectPath record.path = .ok record.path := by
    rcases named_of_listFiles proper isBuilt.listed member with ⟨names, nonempty, named, path⟩
    have ownRelative : record.path.toList.head? ≠ some '/' :=
      path ▸ Scan.head?_pathText nonempty named
    have ownPlain : '\\' ∉ record.path.toList :=
      canonical ▸ Path.backslash_not_mem_normalize spelling
    rw [project.projectPath_relative ownRelative ownPlain,
      (normalize_eq_self_iff proper isBuilt.listed member).mpr ownPlain]
  exact ⟨_, answered own, answered (canonical ▸ project.projectPath_relative relative plain),
    answered (canonical ▸ projectPath_absolute isRead relative plain)⟩

def climbedTree : Entry :=
  .directory .newDirectory [("a.ts", .file .newFile []), ("d", .directory .newDirectory [])]

def climbedProject : Project where
  limits := ⟨0, 0, 0, 0, 0⟩
  system := ⟨.directory .newDirectory [("r", climbedTree), ("w", .directory .newDirectory [])],
    ["w"], false⟩
  root := .ofText "../r/d/.."
  config := some ⟨[], [".gitignore"], "package.json", false, none⟩

theorem isProper_climbedProject : climbedProject.system.top.isProper = true := by
  decide

private theorem files_climbedProject :
    ∃ records, climbedProject.files.outcome = .ok records ∧ .ofPath "a.ts" ∈ records := by
  have scanned : climbedProject.scan ⟨[], [".gitignore"], "package.json", false, none⟩ =
      ⟨climbedProject.system, .ofText "../r/d/..", [], [.ofText ".gitignore"]⟩ :=
    scan_of_ignoreFiles [".gitignore"] rfl
  have isRoot : Scan.IsRoot ⟨climbedProject.system, .ofText "../r/d/..", [], [.ofText ".gitignore"]⟩
      climbedTree := ⟨rfl, rfl, by decide⟩
  have undisturbed := Scan.Undisturbed.of_directoryTrails isRoot (by decide) (by decide)
    (by decide) (by decide) (by decide)
  rw [← scanned] at undisturbed
  rcases exists_isBuilt rfl isProper_climbedProject rfl undisturbed with ⟨records, graph, isBuilt⟩
  exact ⟨records, isBuilt.files_eq, isBuilt.mem_of_lists isProper_climbedProject ⟨_, rfl⟩
    ⟨.nil, by decide, by decide, ⟨_, rfl, rfl⟩, by rw [scanned]; decide⟩⟩

theorem dependenciesOf_respelled_climbedProject :
    (∃ dependencies, (climbedProject.dependenciesOf "a.ts").outcome = .ok dependencies ∧
      (climbedProject.dependenciesOf "./d//../a.ts").outcome = .ok dependencies ∧
      (climbedProject.dependenciesOf "/w/../r/d/../d/../a.ts").outcome = .ok dependencies) ∧
    (climbedProject.dependenciesOf "/r/a.ts").outcome = .error (.outsideRoot "/r/a.ts") := by
  rcases files_climbedProject with ⟨records, listed, member⟩
  have behind : ((climbedProject.system.absolute climbedProject.root).child "./d//../a.ts").text =
      "/w/../r/d/../d/../a.ts" := by
    decide
  have respelled := dependenciesOf_respelled rfl isProper_climbedProject listed
  rw [← behind]
  exact ⟨respelled.1 _ member "./d//../a.ts" (by decide) (by decide) (by decide),
    respelled.2 _ (by decide) (by decide)⟩

end Project

end ImportAtlas
