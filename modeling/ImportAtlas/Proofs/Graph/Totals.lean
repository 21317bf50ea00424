import ImportAtlas.Proofs.Graph.Ranking
import Mathlib.Algebra.GroupWithZero.Nat
import Mathlib.Data.Prod.Basic

/-! # Counts of exported graphs

An exported graph says several times how many edges there are: in a total that was kept while the
graph was made, in the edges, and in the numbers that every file has of its imports and of its
importers, which come from the two directions of the graph. Main statement: whatever calls made the
graph, all of these agree.
-/

namespace ImportAtlas

structure GraphExport.IsSelfConsistent (exported : GraphExport) : Prop where
  files_nodup : (exported.files.map ExportedFile.path).Nodup
  edges_nodup : exported.edges.Nodup
  ends_listed : ∀ edge ∈ exported.edges, edge.1 ∈ exported.files.map ExportedFile.path ∧
    edge.2 ∈ exported.files.map ExportedFile.path
  importCount_eq : ∀ file ∈ exported.files,
    file.importCount = exported.edges.countP fun edge => edge.1 = file.path
  importerCount_eq : ∀ file ∈ exported.files,
    file.importerCount = exported.edges.countP fun edge => edge.2 = file.path
  totalFiles_eq : exported.totalFiles = exported.files.length
  totalEdges_eq : exported.totalEdges = exported.edges.length
  importCounts_sum : (exported.files.map ExportedFile.importCount).sum = exported.edges.length
  importerCounts_sum : (exported.files.map ExportedFile.importerCount).sum = exported.edges.length
  mostConnected_counted : ∀ entry ∈ exported.mostConnected,
    ∃ file ∈ exported.files, file.path = entry.path ∧ file.importerCount = entry.count

namespace DependencyGraph

theorem countP_edges_eq_length {edges : List (String × String)} {neighbours : List String}
    {isAsked : String × String → Bool} {edgeOf : String → String × String}
    (distinct : edges.Nodup) (neighboursDistinct : neighbours.Nodup)
    (injective : Function.Injective edgeOf)
    (same : ∀ edge, edge ∈ edges ∧ isAsked edge = true ↔ edge ∈ neighbours.map edgeOf) :
    edges.countP isAsked = neighbours.length := by
  have permuted : (edges.filter isAsked).Perm (neighbours.map edgeOf) := by
    rw [List.perm_ext_iff_of_nodup (distinct.filter isAsked) (neighboursDistinct.map injective)]
    intro edge
    rw [List.mem_filter]
    exact same edge
  rw [List.countP_eq_length_filter, permuted.length_eq, List.length_map]

namespace WellFormed

variable {graph : DependencyGraph}

theorem mem_edges_iff_importsOf (wellFormed : graph.WellFormed) {source target : String} :
    (source, target) ∈ graph.edges ↔ target ∈ graph.importsOf source :=
  wellFormed.mem_edges_iff.trans wellFormed.hasEdge_iff

private theorem countP_source (wellFormed : graph.WellFormed) (path : String) :
    (graph.edges.countP fun edge => edge.1 = path) = (graph.importsOf path).length := by
  apply countP_edges_eq_length wellFormed.nodup_edges (wellFormed.nodup_importsOf path)
    (Prod.mk_right_injective path)
  rintro ⟨source, target⟩
  rw [wellFormed.mem_edges_iff_importsOf, decide_eq_true_eq, List.mem_map]
  constructor
  · rintro ⟨imported, rfl⟩
    exact ⟨target, imported, rfl⟩
  · rintro ⟨_, imported, ⟨⟩⟩
    exact ⟨imported, rfl⟩

private theorem countP_target (wellFormed : graph.WellFormed) (path : String) :
    (graph.edges.countP fun edge => edge.2 = path) = (graph.importersOf path).length := by
  apply countP_edges_eq_length wellFormed.nodup_edges (wellFormed.nodup_importersOf path)
    (Prod.mk_left_injective path)
  rintro ⟨source, target⟩
  rw [wellFormed.mem_edges_iff_importsOf, wellFormed.mem_importsOf_iff, decide_eq_true_eq,
    List.mem_map]
  constructor
  · rintro ⟨imports, rfl⟩
    exact ⟨source, imports, rfl⟩
  · rintro ⟨_, imports, ⟨⟩⟩
    exact ⟨imports, rfl⟩

private theorem sum_length_importsOf (wellFormed : graph.WellFormed) :
    (graph.paths.map fun path => (graph.importsOf path).length).sum = graph.edges.length := by
  simp only [wellFormed.edges_eq, List.length_flatMap, List.length_map]

private theorem sum_length_importersOf (wellFormed : graph.WellFormed) :
    (graph.paths.map fun path => (graph.importersOf path).length).sum = graph.edges.length := by
  have total : (graph.incoming.flatten.length : Int) = graph.edges.length := by
    rw [wellFormed.length_edges, wellFormed.incoming_total]
  rw [← wellFormed.map_length_incoming, ← List.length_flatten]
  exact_mod_cast total

theorem map_path_toExport (wellFormed : graph.WellFormed) (projectRoot : Option String) :
    (graph.toExport projectRoot).files.map ExportedFile.path = graph.paths := by
  rw [wellFormed.toExport_files, List.map_map]
  exact List.map_id graph.paths

private theorem isSelfConsistent_toExport (wellFormed : graph.WellFormed)
    (projectRoot : Option String) :
    (graph.toExport projectRoot).IsSelfConsistent where
  files_nodup := by
    rw [wellFormed.map_path_toExport]
    exact wellFormed.distinct
  edges_nodup := wellFormed.nodup_edges
  ends_listed := by
    rintro ⟨source, target⟩ listed
    rw [wellFormed.map_path_toExport]
    exact wellFormed.mem_paths_of_mem_neighboursOf wellFormed.outgoing_isDirection
      (wellFormed.mem_edges_iff_importsOf.mp listed)
  importCount_eq := by
    intro file listed
    rw [wellFormed.toExport_files] at listed
    rcases List.mem_map.mp listed with ⟨path, _, rfl⟩
    exact (wellFormed.countP_source path).symm
  importerCount_eq := by
    intro file listed
    rw [wellFormed.toExport_files] at listed
    rcases List.mem_map.mp listed with ⟨path, _, rfl⟩
    exact (wellFormed.countP_target path).symm
  totalFiles_eq := by
    rw [← List.length_map ExportedFile.path, wellFormed.map_path_toExport]
    rfl
  totalEdges_eq := wellFormed.length_edges.symm
  importCounts_sum := by
    rw [wellFormed.toExport_files, List.map_map]
    exact wellFormed.sum_length_importsOf
  importerCounts_sum := by
    rw [wellFormed.toExport_files, List.map_map]
    exact wellFormed.sum_length_importersOf
  mostConnected_counted := by
    intro entry listed
    have ranked : entry ∈ graph.rankedByImporters :=
      mem_rankedByImporters_of_mem (show entry ∈ graph.mostConnected exportLimit from listed)
    have counted := wellFormed.mem_rankedByImporters_iff.mp ranked
    rw [wellFormed.toExport_files]
    refine ⟨_, List.mem_map_of_mem counted.1, rfl, ?_⟩
    rw [counted.2.1]
    exact (wellFormed.importersOf_perm entry.path).length_eq

end WellFormed

/-- Whatever calls made a graph, the parts of its export agree. The exported files are the paths
that the calls mentioned, in the order of their first mention, and the edges those that the calls
asked for. -/
theorem toExport_isSelfConsistent (changes : List Change) (projectRoot : Option String) :
    ((ofChanges changes).toExport projectRoot).IsSelfConsistent ∧
    ((ofChanges changes).toExport projectRoot).files.map ExportedFile.path =
      (changes.flatMap Change.paths).eraseDups ∧
    ∀ source target, (source, target) ∈ ((ofChanges changes).toExport projectRoot).edges ↔
      .edge source target ∈ changes := by
  have wellFormed := wellFormed_ofChanges changes
  refine ⟨wellFormed.isSelfConsistent_toExport projectRoot, ?_, ?_⟩
  · rw [wellFormed.map_path_toExport, paths_ofChanges]
  · intro source target
    exact wellFormed.mem_edges_iff.trans (hasEdge_ofChanges_iff changes)

end DependencyGraph

end ImportAtlas
