import ImportAtlas.Proofs.Import.Written
import ImportAtlas.Proofs.Project.ImportGraph
import ImportAtlas.Proofs.Text.Utf8
import Mathlib.Data.List.Nodup

/-! # Graphs that are written out as source files

A graph of files can be written into the files themselves: each has an import statement for every
file that it is to import, by a target that goes up to the root first. Main statement: the graph
that is built from these files is the one that was written.
-/

namespace ImportAtlas.DependencyGraph

open Scan (pathText)

structure IsSourcePath (path : List String) : Prop where
  nonempty : path ≠ []
  plain : ∀ name ∈ path, IsPlainName name
  scannable : Import.isScannable (FileRecord.ofPath (pathText path)).extension = true

def writtenText (path : List String) (links : List (List String)) (lastEnd : String) : String :=
  Import.sourceText (links.map (Import.targetThroughRoot path)) lastEnd

def IsWritten (system : FileSystem) (root : Location) (path : List String)
    (links : List (List String)) : Prop :=
  ∃ lastEnd, (lastEnd = "" ∨ lastEnd = "\n") ∧
    system.read (root.child (pathText path)) =
      .ok (Text.Utf8.encode (writtenText path links lastEnd).toList)

section Written

variable {system : FileSystem} {root : Location} {path : List String} {links : List (List String)}
  (source : IsSourcePath path) (targets : ∀ target ∈ links, IsSourcePath target)
include source targets

private theorem targets_writtenText {lastEnd : String} (ended : lastEnd = "" ∨ lastEnd = "\n") :
    Import.targets (writtenText path links lastEnd) =
      links.map (Import.targetThroughRoot path) := by
  refine Import.targets_sourceText ?_ ended
  intro target member
  rcases List.mem_map.mp member with ⟨names, inLinks, rfl⟩
  have isTarget := targets names inLinks
  exact Import.isQuotable_targetThroughRoot source.nonempty isTarget.nonempty isTarget.plain

private theorem hasText_of_isWritten (written : IsWritten system root path links) :
    ∃ lastEnd, (lastEnd = "" ∨ lastEnd = "\n") ∧
      Import.HasText system (root.child (pathText path)) none (writtenText path links lastEnd) := by
  rcases written with ⟨lastEnd, ended, readable⟩
  have noReturn : '\r' ∉ (writtenText path links lastEnd).toList := by
    refine Import.return_not_mem_sourceText ?_ ended
    intro target member
    rcases List.mem_map.mp member with ⟨names, inLinks, rfl⟩
    have isTarget := targets names inLinks
    exact Import.return_not_mem_targetThroughRoot source.nonempty isTarget.nonempty isTarget.plain
  refine ⟨lastEnd, ended, _, _, readable, by simp, Text.Utf8.decode?_encode _, ?_⟩
  rw [Text.unifyNewlines_eq_self noReturn, String.ofList_toList]

private theorem resolvedTargets_of_isWritten {records : List FileRecord}
    (written : IsWritten system root path links)
    (listed : ∀ target ∈ links, pathText target ∈ records.map FileRecord.path) :
    resolvedTargets system root none records (.ofPath (pathText path)) = links.map pathText := by
  rcases hasText_of_isWritten source targets written with ⟨lastEnd, ended, hasText⟩
  have given : Import.HasText system (root.child (FileRecord.ofPath (pathText path)).path) none
      (writtenText path links lastEnd) := hasText
  have resolved : ∀ target ∈ links, Import.resolve? (isListed records)
      (Import.targetThroughRoot path target) (pathText path) = some (pathText target) := by
    intro target member
    have isTarget := targets target member
    exact Import.resolve?_targetThroughRoot source.nonempty isTarget.nonempty source.plain
      isTarget.plain (List.contains_iff_mem.mpr (listed target member))
  rw [resolvedTargets_of_text source.scannable given, targets_writtenText source targets ended,
    List.filterMap_map, List.filterMap_eq_map_iff_forall_eq_some]
  exact resolved

end Written

/-- A graph that is written out as source files is read back from them: the files are its nodes, in
order, and each imports the files that it has statements for, in the order of the first of them. -/
theorem build_writtenImports {system : FileSystem} {root : Location} {paths : List (List String)}
    {links : List String → List (List String)} (distinct : paths.Nodup)
    (sources : ∀ path ∈ paths, IsSourcePath path)
    (closed : ∀ path ∈ paths, ∀ target ∈ links path, target ∈ paths)
    (written : ∀ path ∈ paths, IsWritten system root path (links path)) :
    ∃ graph, (build system root (paths.map fun path => .ofPath (pathText path)) none).outcome =
        .ok graph ∧
      graph.paths = paths.map pathText ∧
      ∀ path ∈ paths, graph.importsOf (pathText path) =
        ((links path).map pathText).eraseDups := by
  have recordPaths : (paths.map fun path => FileRecord.ofPath (pathText path)).map
      FileRecord.path = paths.map pathText := by
    simp [FileRecord.ofPath, Function.comp_def]
  have distinctPaths : ((paths.map fun path => FileRecord.ofPath (pathText path)).map
      FileRecord.path).Nodup := by
    rw [recordPaths]
    refine List.Nodup.map_on ?_ distinct
    intro left inLeft right inRight equal
    exact Scan.pathText_injective (sources left inLeft).nonempty (sources right inRight).nonempty
      (fun name member => ((sources left inLeft).plain name member).toIsName)
      (fun name member => ((sources right inRight).plain name member).toIsName) equal
  have clean : ∀ record ∈ paths.map fun path => FileRecord.ofPath (pathText path),
      '\x00' ∉ (root.child record.path).text.toList := by
    intro record member
    rcases List.mem_map.mp member with ⟨path, inPaths, rfl⟩
    rcases written path inPaths with ⟨lastEnd, _, readable⟩
    exact FileSystem.null_not_mem_of_read readable
  refine ⟨_, outcome_build none clean, ?_, ?_⟩
  · rw [paths_ofChanges_buildChanges distinctPaths, recordPaths]
  · intro path inPaths
    have listed : ∀ target ∈ links path, pathText target ∈
        (paths.map fun path => FileRecord.ofPath (pathText path)).map FileRecord.path := by
      intro target member
      rw [recordPaths]
      exact List.mem_map_of_mem (closed path inPaths target member)
    refine (importsOf_ofChanges_buildChanges distinctPaths (List.mem_map_of_mem inPaths)).trans ?_
    rw [resolvedTargets_of_isWritten (sources path inPaths)
      (fun target member => sources target (closed path inPaths target member))
      (written path inPaths) listed]

def writtenCycle : FileSystem where
  top := .directory .newDirectory [("r", .directory .newDirectory [
    ("a.ts", .file .newFile
      (Text.Utf8.encode "import './src/b.ts';\nimport './src/b.ts';\n".toList)),
    ("src", .directory .newDirectory [
      ("b.ts", .file .newFile
        (Text.Utf8.encode "import './../a.ts';\nimport './../src/b.ts';".toList))])])]
  workingDirectory := []
  isPrivileged := false

def cycleLinks (path : List String) : List (List String) :=
  if path = ["a.ts"] then [["src", "b.ts"], ["src", "b.ts"]] else [["a.ts"], ["src", "b.ts"]]

theorem build_writtenImports_cycle :
    ∃ graph, (build writtenCycle (.ofText "/r") [.ofPath "a.ts", .ofPath "src/b.ts"] none).outcome =
        .ok graph ∧
      graph.paths = ["a.ts", "src/b.ts"] ∧ graph.importsOf "a.ts" = ["src/b.ts"] ∧
      graph.importsOf "src/b.ts" = ["a.ts", "src/b.ts"] := by
  have sources : ∀ path ∈ [["a.ts"], ["src", "b.ts"]], IsSourcePath path := by
    simp only [List.forall_mem_cons]
    refine ⟨⟨by simp, by decide +kernel, by decide +kernel⟩,
      ⟨by simp, by decide +kernel, by decide +kernel⟩, by simp⟩
  have first : (writtenText ["a.ts"] (cycleLinks ["a.ts"]) "\n").toList =
      "import './src/b.ts';\nimport './src/b.ts';\n".toList := by
    simp [writtenText, cycleLinks, Import.sourceText, Text.joinText, Text.join, Import.statement,
      Import.targetThroughRoot, pathText]
  have second : (writtenText ["src", "b.ts"] (cycleLinks ["src", "b.ts"]) "").toList =
      "import './../a.ts';\nimport './../src/b.ts';".toList := by
    simp [writtenText, cycleLinks, Import.sourceText, Text.joinText, Text.join, Import.statement,
      Import.targetThroughRoot, pathText]
  have written : ∀ path ∈ [["a.ts"], ["src", "b.ts"]],
      IsWritten writtenCycle (.ofText "/r") path (cycleLinks path) := by
    simp only [List.forall_mem_cons]
    exact ⟨⟨"\n", Or.inr rfl, by rw [first]; rfl⟩, ⟨"", Or.inl rfl, by rw [second]; rfl⟩, by simp⟩
  rcases build_writtenImports (by decide) sources (by decide) written with
    ⟨graph, built, paths, imports⟩
  exact ⟨graph, built, paths, imports ["a.ts"] (by decide), imports ["src", "b.ts"] (by decide)⟩

end ImportAtlas.DependencyGraph
