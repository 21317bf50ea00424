import ImportAtlas.Project.Service
import ImportAtlas.Proofs.FileSystem.Naming
import ImportAtlas.Proofs.Graph.Export
import ImportAtlas.Proofs.Graph.Reach
import ImportAtlas.Proofs.Project.Enumeration
import ImportAtlas.Proofs.Project.ImportGraph

/-! # Views of a project

The questions about a project each list the files and build the graph anew, and each gives the
graph in a form of its own. Main statement: the answers about a tree agree with each other.
-/

namespace ImportAtlas

/-! ## Neighbours in a snapshot -/

namespace ProjectContext

def Imports (context : ProjectContext) (source target : String) : Prop :=
  ∃ file ∈ context.files, file.path = source ∧ target ∈ file.imports

def ImportedBy (context : ProjectContext) (target source : String) : Prop :=
  ∃ file ∈ context.files, file.path = target ∧ source ∈ file.importedBy

end ProjectContext

namespace Project

open Relation

variable {project : Project} {config : Config} {records : List FileRecord}
  {graph : DependencyGraph}

theorem scan_of_ignoreFiles (files : List String) (named : config.ignoreFiles = files.map .ofText) :
    project.scan config =
      ⟨project.system, project.root, config.ignorePatterns, files.map .ofText⟩ := by
  have taken : Location.ofName? ∘ Text.Coded.ofText = some ∘ Location.ofText :=
    funext Location.ofName?_ofText
  rw [scan, named, List.filterMap_map, taken, ← List.filterMap_map, List.filterMap_some]

/-! ## Listed files -/

section Listed

variable (proper : project.system.top.isProper = true)
  (listed : (project.listFiles config).outcome = .ok records)

include proper listed

theorem found_of_listFiles :
    ∃ errors, (project.scan config).IsFoundBelow [] ⟨records, errors⟩ ∧
      ∃ tree, (project.scan config).IsRoot tree := by
  rcases Reported.outcome_bind_eq_ok_iff.mp listed with ⟨found, succeeded, same⟩
  rw [Reported.outcome_pure, Except.ok.injEq] at same
  subst same
  rcases Reported.outcome_bind_eq_ok_iff.mp succeeded with ⟨_, valid, _⟩
  have properScan : (project.scan config).system.top.isProper = true := proper
  exact ⟨found.errors, Scan.found_of_run properScan succeeded,
    Scan.isRoot_of_validateRoot properScan valid⟩

theorem named_of_listFiles {record : FileRecord} (member : record ∈ records) :
    ∃ names, names ≠ [] ∧ (∀ name ∈ names, IsName name) ∧ record.path = Scan.pathText names := by
  rcases found_of_listFiles proper listed with ⟨_, found, _⟩
  rcases (found.mem_iff record).mp member with ⟨directory, name, _, _, isListed, rfl⟩
  exact ⟨directory ++ [name], by simp, isListed.named, rfl⟩

theorem distinct_of_listFiles : (records.map FileRecord.path).Nodup := by
  rcases found_of_listFiles proper listed with ⟨_, found, _⟩
  exact Scan.nodup_of_ordered found.ordered

theorem outcome_graphOf : (project.graphOf config records).outcome =
    .ok (.ofChanges (DependencyGraph.buildChanges project.system project.root
      (config.maxFileSize.map fun size => (size : Int)) records)) := by
  apply DependencyGraph.outcome_build
  intro record member inChild
  rcases Location.mem_of_mem_text_child (by decide) (by decide) inChild with inRoot | inPath
  · rcases found_of_listFiles proper listed with ⟨_, _, _, isRoot⟩
    exact (FileSystem.follow_of_entryAt isRoot.found).1 inRoot
  · rcases named_of_listFiles proper listed member with ⟨names, _, eachNamed, path⟩
    rw [path] at inPath
    exact Scan.null_not_mem_pathText eachNamed inPath

end Listed

/-! ## What the answers are made of -/

/-- The files and the graph of a project, listed and built under its configuration. -/
structure IsBuilt (project : Project) (config : Config) (records : List FileRecord)
    (graph : DependencyGraph) : Prop where
  configured : project.activeConfig.outcome = .ok config
  listed : (project.listFiles config).outcome = .ok records
  built : (project.graphOf config records).outcome = .ok graph

theorem isBuilt_of_context {context : ProjectContext}
    (succeeded : project.context.outcome = .ok context) :
    ∃ config records graph, project.IsBuilt config records graph ∧
      context.files = records.map (contextOf graph) := by
  rcases Reported.outcome_bind_eq_ok_iff.mp succeeded with ⟨config, configured, afterConfig⟩
  rcases Reported.outcome_bind_eq_ok_iff.mp afterConfig with ⟨records, listed, afterFiles⟩
  rcases Reported.outcome_bind_eq_ok_iff.mp afterFiles with ⟨graph, built, afterGraph⟩
  refine ⟨config, records, graph, ⟨configured, listed, built⟩, ?_⟩
  -- A manifest that is read and one that is not come to the same from here on.
  simp only at afterGraph
  split at afterGraph <;>
  · rcases Reported.outcome_bind_eq_ok_iff.mp afterGraph with ⟨manifest, _, afterManifest⟩
    rcases Reported.outcome_bind_eq_ok_iff.mp afterManifest with ⟨_, _, result⟩
    rw [Reported.outcome_pure, Except.ok.injEq] at result
    rw [← result]

theorem isBuilt_of_files (proper : project.system.top.isProper = true)
    (succeeded : project.files.outcome = .ok records) :
    ∃ config graph, project.IsBuilt config records graph := by
  rcases Reported.outcome_bind_eq_ok_iff.mp succeeded with ⟨config, configured, listed⟩
  exact ⟨config, _, configured, listed, outcome_graphOf proper listed⟩

theorem exists_isBuilt (explicit : project.config = some config)
    (proper : project.system.top.isProper = true)
    (valid : Scan.validateRoot project.system project.root = .ok ())
    (undisturbed : (project.scan config).Undisturbed) :
    ∃ records graph, project.IsBuilt config records graph := by
  have configured : project.activeConfig.outcome = .ok config := by
    rw [activeConfig, explicit]
    rfl
  have walked : ∃ found, (project.scan config).run.outcome = .ok found :=
    Scan.outcome_run proper valid undisturbed
  rcases walked with ⟨found, succeeded⟩
  have listed : (project.listFiles config).outcome = .ok found.records :=
    Reported.outcome_bind_eq_ok_iff.mpr ⟨found, succeeded, rfl⟩
  exact ⟨found.records, _, configured, listed, outcome_graphOf proper listed⟩

/-- A snapshot can be taken where nothing disturbs the walk and no manifest is asked for. -/
private theorem exists_context (explicit : project.config = some config)
    (noManifest : config.readManifest = false) (proper : project.system.top.isProper = true)
    (valid : Scan.validateRoot project.system project.root = .ok ())
    (undisturbed : (project.scan config).Undisturbed) :
    ∃ context, project.context.outcome = .ok context := by
  rcases exists_isBuilt explicit proper valid undisturbed with ⟨records, graph, isBuilt⟩
  refine Reported.exists_outcome_bind isBuilt.configured ?_
  refine Reported.exists_outcome_bind isBuilt.listed ?_
  refine Reported.exists_outcome_bind isBuilt.built ?_
  simp only [noManifest, Bool.false_eq_true, if_false]
  exact ⟨_, rfl⟩

namespace IsBuilt

theorem files_eq (isBuilt : project.IsBuilt config records graph) :
    project.files.outcome = .ok records :=
  Reported.outcome_bind_eq_ok_iff.mpr ⟨config, isBuilt.configured, isBuilt.listed⟩

theorem graph_eq (isBuilt : project.IsBuilt config records graph) :
    project.graph.outcome = .ok graph :=
  Reported.outcome_bind_eq_ok_iff.mpr ⟨config, isBuilt.configured,
    Reported.outcome_bind_eq_ok_iff.mpr ⟨records, isBuilt.listed, isBuilt.built⟩⟩

theorem mem_of_lists (proper : project.system.top.isProper = true)
    (isBuilt : project.IsBuilt config records graph) (isOpen : (project.scan config).IsOpen [])
    {name : String} (lists : (project.scan config).Lists [] name) : .ofPath name ∈ records := by
  rcases found_of_listFiles proper isBuilt.listed with ⟨_, found, _⟩
  rw [← Scan.pathText_singleton name]
  exact (found.mem_iff _).mpr ⟨[], name, List.nil_prefix, .nil isOpen, lists, rfl⟩

private theorem exportGraph_eq (isBuilt : project.IsBuilt config records graph) :
    project.exportGraph.outcome = .ok (graph.toExport (some project.root.text)) :=
  Reported.outcome_bind_eq_ok_iff.mpr ⟨graph, isBuilt.graph_eq, rfl⟩

theorem graph_eq_ofChanges (proper : project.system.top.isProper = true)
    (isBuilt : project.IsBuilt config records graph) :
    graph = .ofChanges (DependencyGraph.buildChanges project.system project.root
      (config.maxFileSize.map fun size => (size : Int)) records) := by
  have built := isBuilt.built
  rw [outcome_graphOf proper isBuilt.listed, Except.ok.injEq] at built
  exact built.symm

theorem wellFormed (proper : project.system.top.isProper = true)
    (isBuilt : project.IsBuilt config records graph) : graph.WellFormed := by
  rw [isBuilt.graph_eq_ofChanges proper]
  exact DependencyGraph.wellFormed_ofChanges _

theorem paths_eq (proper : project.system.top.isProper = true)
    (isBuilt : project.IsBuilt config records graph) :
    graph.paths = records.map FileRecord.path := by
  rw [isBuilt.graph_eq_ofChanges proper]
  exact DependencyGraph.paths_ofChanges_buildChanges (distinct_of_listFiles proper isBuilt.listed)

end IsBuilt

/-! ## Snapshots and graphs -/

section Snapshot

variable {context : ProjectContext}

theorem map_path_files (files : context.files = records.map (contextOf graph)) :
    context.files.map FileContext.path = records.map FileRecord.path := by
  rw [files, List.map_map]
  rfl

theorem neighbours_iff (wellFormed : graph.WellFormed)
    (paths : graph.paths = records.map FileRecord.path)
    (files : context.files = records.map (contextOf graph)) {adjacency : List (List NodeId)}
    (direction : graph.IsDirection adjacency) {neighbours : FileContext → List String}
    (taken : ∀ record, neighbours (contextOf graph record) =
      graph.neighboursOf adjacency record.path) (path other : String) :
    (∃ file ∈ context.files, file.path = path ∧ other ∈ neighbours file) ↔
      other ∈ graph.neighboursOf adjacency path := by
  constructor
  · rintro ⟨file, inFiles, rfl, member⟩
    rw [files] at inFiles
    rcases List.mem_map.mp inFiles with ⟨record, _, rfl⟩
    rw [taken] at member
    exact member
  · intro member
    have known := (wellFormed.mem_paths_of_mem_neighboursOf direction member).1
    rw [paths] at known
    rcases List.mem_map.mp known with ⟨record, inRecords, rfl⟩
    rw [files]
    rw [← taken] at member
    exact ⟨contextOf graph record, List.mem_map_of_mem inRecords, rfl, member⟩

theorem imports_iff (wellFormed : graph.WellFormed)
    (paths : graph.paths = records.map FileRecord.path)
    (files : context.files = records.map (contextOf graph)) (source target : String) :
    context.Imports source target ↔ target ∈ graph.importsOf source :=
  neighbours_iff wellFormed paths files wellFormed.outgoing_isDirection (fun _ => rfl) source target

private theorem importedBy_iff (wellFormed : graph.WellFormed)
    (paths : graph.paths = records.map FileRecord.path)
    (files : context.files = records.map (contextOf graph)) (target source : String) :
    context.ImportedBy target source ↔ source ∈ graph.importersOf target :=
  neighbours_iff wellFormed paths files wellFormed.incoming_isDirection (fun _ => rfl) target source

end Snapshot

/-! ## Questions about one file -/

/-- An answer about a file agrees with a snapshot: it has the neighbours that the file has there,
and lists what chains of them lead to, the file itself apart, in code-point order. -/
structure AgreesWith (dependencies : FileDependencies) (context : ProjectContext)
    (file : FileContext) : Prop where
  path_eq : dependencies.path = file.path
  imports_eq : dependencies.imports = file.imports
  importedBy_eq : dependencies.importedBy = file.importedBy
  transitiveImports_sorted : dependencies.transitiveImports.Pairwise (· < ·)
  mem_transitiveImports_iff : ∀ other, other ∈ dependencies.transitiveImports ↔
    other ≠ file.path ∧ TransGen context.Imports file.path other
  transitiveImportedBy_sorted : dependencies.transitiveImportedBy.Pairwise (· < ·)
  mem_transitiveImportedBy_iff : ∀ other, other ∈ dependencies.transitiveImportedBy ↔
    other ≠ file.path ∧ TransGen context.ImportedBy file.path other

private theorem dependenciesIn_agreesWith {context : ProjectContext} (wellFormed : graph.WellFormed)
    (paths : graph.paths = records.map FileRecord.path)
    (files : context.files = records.map (contextOf graph)) (record : FileRecord) :
    AgreesWith (dependenciesIn graph record.path) context (contextOf graph record) where
  path_eq := rfl
  imports_eq := rfl
  importedBy_eq := rfl
  transitiveImports_sorted := graph.pairwise_reachable graph.outgoing record.path
  mem_transitiveImports_iff := by
    have sameChains : context.Imports = fun path next =>
        next ∈ graph.neighboursOf graph.outgoing path := by
      funext source target
      exact propext (imports_iff wellFormed paths files source target)
    intro other
    rw [sameChains]
    exact wellFormed.mem_reachable_iff wellFormed.outgoing_isDirection
  transitiveImportedBy_sorted := graph.pairwise_reachable graph.incoming record.path
  mem_transitiveImportedBy_iff := by
    have sameChains : context.ImportedBy = fun path next =>
        next ∈ graph.neighboursOf graph.incoming path := by
      funext target source
      exact propext (importedBy_iff wellFormed paths files target source)
    intro other
    rw [sameChains]
    exact wellFormed.mem_reachable_iff wellFormed.incoming_isDirection

private theorem projectPath_pathText (project : Project) {names : List String}
    (nonempty : names ≠ [])
    (named : ∀ name ∈ names, IsName name) :
    project.projectPath (Scan.pathText names) = .ok (Path.normalize (Scan.pathText names)) := by
  have notEmpty : Scan.pathText names ≠ "" := by
    simpa using Scan.toList_pathText_ne_nil nonempty named
  have relative : (Location.ofText (Scan.pathText names)).isAbsolute = false := by
    rw [Scan.ofText_pathText nonempty named]
    rfl
  have text : (Location.ofText (Scan.pathText names)).text = Scan.pathText names := by
    rw [Scan.ofText_pathText nonempty named]
    have someText : (Text.joinText "/" names).isEmpty = false := by
      simpa [Scan.pathText] using notEmpty
    simp [Location.text, someText, Scan.pathText]
  simp [projectPath, relative, text]

theorem outcome_dependenciesOf_of_projectPath (proper : project.system.top.isProper = true)
    (isBuilt : project.IsBuilt config records graph) {path name : String}
    (asked : project.projectPath path = .ok name) :
    (project.dependenciesOf path).outcome =
      if name ∈ records.map FileRecord.path then .ok (dependenciesIn graph name)
      else .error (.unknownFile path) := by
  have known : graph.contains name = true ↔ name ∈ records.map FileRecord.path := by
    rw [(isBuilt.wellFormed proper).contains_iff, isBuilt.paths_eq proper]
  rw [dependenciesOf, asked, Reported.outcome_bind, Reported.outcome_ofExcept, Except.bind,
    Reported.outcome_bind, isBuilt.graph_eq, Except.bind]
  by_cases isListed : name ∈ records.map FileRecord.path
  · rw [if_pos isListed, if_pos (known.mpr isListed)]
    rfl
  · rw [if_neg isListed, if_neg (mt known.mp isListed)]
    rfl

theorem outcome_dependenciesOf (proper : project.system.top.isProper = true)
    (isBuilt : project.IsBuilt config records graph) {record : FileRecord}
    (member : record ∈ records) :
    (project.dependenciesOf record.path).outcome =
      if Path.normalize record.path ∈ records.map FileRecord.path then
        .ok (dependenciesIn graph (Path.normalize record.path))
      else .error (.unknownFile record.path) := by
  rcases named_of_listFiles proper isBuilt.listed member with ⟨names, nonempty, named, path⟩
  have asked : project.projectPath record.path = .ok (Path.normalize record.path) := by
    rw [path]
    exact project.projectPath_pathText nonempty named
  exact outcome_dependenciesOf_of_projectPath proper isBuilt asked

private theorem dependenciesOf_agreesWith (proper : project.system.top.isProper = true)
    (isBuilt : project.IsBuilt config records graph) {context : ProjectContext}
    (files : context.files = records.map (contextOf graph)) {record : FileRecord}
    (member : record ∈ records) (normalized : Path.normalize record.path = record.path) :
    ∃ dependencies, (project.dependenciesOf record.path).outcome = .ok dependencies ∧
      AgreesWith dependencies context (contextOf graph record) := by
  have isListed : record.path ∈ records.map FileRecord.path := List.mem_map_of_mem member
  refine ⟨dependenciesIn graph record.path, ?_, dependenciesIn_agreesWith
    (isBuilt.wellFormed proper) (isBuilt.paths_eq proper) files record⟩
  rw [outcome_dependenciesOf proper isBuilt member, normalized, if_pos isListed]

/-! ## Agreement -/

/-- The views of a project agree. Where its snapshot can be taken, the list of its files, the
exported graph and the summary tell of the same files, edges and numbers of neighbours as the
snapshot; imports and importers in the snapshot mirror each other; and the answer about any file
whose path is normalized agrees with the snapshot, up to chains of imports. -/
theorem views_agree (proper : project.system.top.isProper = true) {context : ProjectContext}
    (succeeded : project.context.outcome = .ok context) :
    (∃ records, project.files.outcome = .ok records ∧
      records.map FileRecord.path = context.files.map FileContext.path) ∧
    (∃ exported, project.exportGraph.outcome = .ok exported ∧
      exported.files.map ExportedFile.path = context.files.map FileContext.path ∧
      exported.edges = context.files.flatMap (fun file =>
        file.imports.map fun target => (file.path, target)) ∧
      exported.files.map (fun file => (file.importCount, file.importerCount)) =
        context.files.map fun file => (file.imports.length, file.importedBy.length)) ∧
    project.summary.outcome = .ok (Text.join ['\n'] (context.header?.toList ++
      context.files.map fun file =>
        ("- " ++ file.path ++ " (imports: " ++ toString file.imports.length ++ ", imported by: " ++
          toString file.importedBy.length ++ ")" : Text.Coded))) ∧
    (∀ file ∈ context.files, ∀ target ∈ file.imports, ∃ entry ∈ context.files,
      entry.path = target) ∧
    (∀ file ∈ context.files, ∀ entry ∈ context.files,
      entry.path ∈ file.imports ↔ file.path ∈ entry.importedBy) ∧
    ∀ file ∈ context.files, Path.normalize file.path = file.path →
      ∃ dependencies, (project.dependenciesOf file.path).outcome = .ok dependencies ∧
        AgreesWith dependencies context file := by
  rcases isBuilt_of_context succeeded with ⟨config, records, graph, isBuilt, files⟩
  have wellFormed := isBuilt.wellFormed proper
  have paths := isBuilt.paths_eq proper
  have exportedFiles := wellFormed.toExport_files (some project.root.text)
  have fromRecord : ∀ file ∈ context.files, ∃ record ∈ records, contextOf graph record = file := by
    intro file member
    rw [files] at member
    exact List.mem_map.mp member
  refine ⟨⟨records, isBuilt.files_eq, (map_path_files files).symm⟩,
    ⟨_, isBuilt.exportGraph_eq, ?_, ?_, ?_⟩, ?_, ?_, ?_, ?_⟩
  · rw [exportedFiles, map_path_files files, ← paths, List.map_map]
    exact List.map_id graph.paths
  · rw [DependencyGraph.toExport, wellFormed.edges_eq, paths, files, List.flatMap_map,
      List.flatMap_map]
    rfl
  · rw [exportedFiles, paths, files, List.map_map, List.map_map, List.map_map]
    rfl
  · exact Reported.outcome_bind_eq_ok_iff.mpr ⟨context, succeeded, rfl⟩
  · intro file member target imported
    rcases fromRecord file member with ⟨record, _, rfl⟩
    have known := (wellFormed.mem_paths_of_mem_neighboursOf wellFormed.outgoing_isDirection
      imported).2
    rw [paths, ← map_path_files files] at known
    exact List.mem_map.mp known
  · intro file member entry entryMember
    rcases fromRecord file member with ⟨record, _, rfl⟩
    rcases fromRecord entry entryMember with ⟨other, _, rfl⟩
    exact wellFormed.mem_importsOf_iff
  · intro file member normalized
    rcases fromRecord file member with ⟨record, inRecords, rfl⟩
    exact dependenciesOf_agreesWith proper isBuilt files inRecords normalized

def cyclicTree : Entry :=
  .directory .newDirectory [
    ("a.ts", .file .newFile ("import './b.ts'".toList.map Char.toUInt8)),
    ("b.ts", .file .newFile ("import './a.ts'".toList.map Char.toUInt8))]

def cyclicProject : Project where
  limits := ⟨0, 0, 0, 0, 0⟩
  system := ⟨.directory .newDirectory [("r", cyclicTree)], [], false⟩
  root := .ofText "/r"
  config := some ⟨[], [".gitignore"], "package.json", false, none⟩

private theorem isProper_cyclicProject : cyclicProject.system.top.isProper = true := by
  decide

private theorem isBuilt_cyclicProject :
    ∃ context records graph, cyclicProject.context.outcome = .ok context ∧
      cyclicProject.IsBuilt ⟨[], [".gitignore"], "package.json", false, none⟩ records graph ∧
      context.files = records.map (contextOf graph) ∧
      .ofPath "a.ts" ∈ records ∧ .ofPath "b.ts" ∈ records := by
  have proper := isProper_cyclicProject
  have scanned : cyclicProject.scan ⟨[], [".gitignore"], "package.json", false, none⟩ =
      ⟨cyclicProject.system, .ofText "/r", [], [.ofText ".gitignore"]⟩ :=
    scan_of_ignoreFiles [".gitignore"] rfl
  have isRoot : Scan.IsRoot ⟨cyclicProject.system, .ofText "/r", [], [.ofText ".gitignore"]⟩
      cyclicTree := ⟨rfl, rfl, by decide⟩
  have undisturbed := Scan.Undisturbed.of_directoryTrails isRoot (by decide) (by decide)
    (by decide) (by decide) (by decide)
  rw [← scanned] at undisturbed
  rcases exists_context rfl rfl proper rfl undisturbed with ⟨context, succeeded⟩
  rcases isBuilt_of_context succeeded with ⟨config, records, graph, isBuilt, files⟩
  obtain rfl : ⟨[], [".gitignore"], "package.json", false, none⟩ = config :=
    Except.ok.inj isBuilt.configured
  refine ⟨context, records, graph, succeeded, isBuilt, files, ?_, ?_⟩
  · exact isBuilt.mem_of_lists proper ⟨_, rfl⟩
      ⟨.nil, by decide, by decide, ⟨_, rfl, rfl⟩, by rw [scanned]; decide⟩
  · exact isBuilt.mem_of_lists proper ⟨_, rfl⟩
      ⟨.nil, by decide, by decide, ⟨_, rfl, rfl⟩, by rw [scanned]; decide⟩

private theorem resolve?_cyclicProject (second : .ofPath "b.ts" ∈ records) :
    Import.resolve? (DependencyGraph.isListed records) "./b.ts" "a.ts" = some "b.ts" := by
  have candidates : (Import.candidates "./b.ts" "a.ts").head? = some "b.ts" := by decide
  have isListed : DependencyGraph.isListed records "b.ts" = true := by
    rw [DependencyGraph.isListed, List.contains_iff_mem]
    exact List.mem_map_of_mem second
  rcases List.head?_eq_some_iff.mp candidates with ⟨others, equal⟩
  rw [Import.resolve?, equal, List.find?_cons_of_pos isListed]

theorem views_agree_cyclicProject :
    ∃ dependencies, (cyclicProject.dependenciesOf "a.ts").outcome = .ok dependencies ∧
      "b.ts" ∈ dependencies.transitiveImports ∧ "a.ts" ∉ dependencies.transitiveImports := by
  have proper := isProper_cyclicProject
  rcases isBuilt_cyclicProject with
    ⟨context, records, graph, succeeded, isBuilt, files, first, second⟩
  rcases views_agree proper succeeded with ⟨_, _, _, _, _, answers⟩
  have distinct := distinct_of_listFiles proper isBuilt.listed
  have given : Import.HasText cyclicProject.system (cyclicProject.root.child "a.ts") none
      "import './b.ts'" :=
    ⟨"import './b.ts'".toList.map Char.toUInt8, "import './b.ts'".toList, by decide,
      by simp, by decide, by decide⟩
  have imported : context.Imports "a.ts" "b.ts" := by
    rw [imports_iff (isBuilt.wellFormed proper) (isBuilt.paths_eq proper) files,
      isBuilt.graph_eq_ofChanges proper, DependencyGraph.mem_importsOf_iff_imports distinct]
    exact ⟨.ofPath "a.ts", first, rfl, by decide, _, given, "./b.ts", by decide,
      resolve?_cyclicProject second⟩
  have member : contextOf graph (.ofPath "a.ts") ∈ context.files := by
    rw [files]
    exact List.mem_map_of_mem first
  have normalized : Path.normalize "a.ts" = "a.ts" := by decide
  have different : "b.ts" ≠ "a.ts" := by decide
  rcases answers _ member normalized with ⟨dependencies, answered, agrees⟩
  refine ⟨dependencies, answered, (agrees.mem_transitiveImports_iff _).mpr ?_, ?_⟩
  · exact ⟨different, TransGen.single imported⟩
  · intro itself
    exact ((agrees.mem_transitiveImports_iff _).mp itself).1 rfl

end Project

end ImportAtlas
