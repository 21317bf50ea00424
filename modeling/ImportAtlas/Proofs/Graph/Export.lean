import ImportAtlas.Graph.Export
import ImportAtlas.Proofs.Graph.History
import Mathlib.Data.List.Basic

/-! # Exports

An exported graph tells of every file what the queries tell of it.
-/

namespace ImportAtlas.DependencyGraph

theorem zipIdx_eq_map_range {α : Type} (values : List α) (fallback : α) :
    values.zipIdx = (List.range values.length).map fun id => (values.getD id fallback, id) := by
  apply List.ext_getElem
  · simp
  · intro id left right
    simp only [List.length_zipIdx] at left
    simp [left]

theorem eq_map_range {α : Type} (values : List α) (fallback : α) :
    values = (List.range values.length).map fun id => values.getD id fallback := by
  have positions := congrArg (List.map Prod.fst) (zipIdx_eq_map_range values fallback)
  rw [List.zipIdx_map_fst, List.map_map] at positions
  exact positions

namespace WellFormed

variable {graph : DependencyGraph}

theorem paths_eq_map_range (graph : DependencyGraph) :
    graph.paths = (List.range graph.nodeCount).map graph.pathOf :=
  eq_map_range graph.paths ""

theorem importsOf_pathOf (wellFormed : graph.WellFormed) {id : NodeId}
    (inRange : id < graph.nodeCount) :
    graph.importsOf (graph.pathOf id) = (graph.targetsOf id).map graph.pathOf :=
  wellFormed.neighboursOf_eq (getElem?_pathOf inRange)

theorem importersOf_pathOf (wellFormed : graph.WellFormed) {id : NodeId}
    (inRange : id < graph.nodeCount) :
    graph.importersOf (graph.pathOf id) = (graph.sourcesOf id).map graph.pathOf :=
  wellFormed.neighboursOf_eq (getElem?_pathOf inRange)

theorem map_length_incoming (wellFormed : graph.WellFormed) :
    graph.incoming.map List.length =
      graph.paths.map fun path => (graph.importersOf path).length := by
  conv_lhs => rw [eq_map_range graph.incoming [], wellFormed.incoming_length, List.map_map]
  conv_rhs => rw [paths_eq_map_range graph, List.map_map]
  apply List.map_congr_left
  intro id member
  simp only [Function.comp_apply, wellFormed.importersOf_pathOf (List.mem_range.mp member),
    List.length_map]
  rfl

theorem edges_eq (wellFormed : graph.WellFormed) :
    graph.edges =
      graph.paths.flatMap fun path => (graph.importsOf path).map fun target => (path, target) := by
  rw [paths_eq_map_range graph, List.flatMap_map, edges, zipIdx_eq_map_range graph.outgoing [],
    wellFormed.outgoing_length, List.flatMap_map]
  apply List.flatMap_congr
  intro id member
  rw [wellFormed.importsOf_pathOf (List.mem_range.mp member), List.map_map]
  rfl

/-- The exported files are the paths with the numbers of their imports and importers. -/
theorem toExport_files (wellFormed : graph.WellFormed) (projectRoot : Option String) :
    (graph.toExport projectRoot).files = graph.paths.map fun path =>
      ⟨path, Path.baseName path, (graph.importsOf path).length,
        (graph.importersOf path).length⟩ := by
  rw [toExport, zipIdx_eq_map_range graph.paths "", List.map_map]
  conv_rhs => rw [paths_eq_map_range graph, List.map_map]
  apply List.map_congr_left
  intro id member
  have inRange : id < graph.nodeCount := List.mem_range.mp member
  simp only [Function.comp_apply, wellFormed.importsOf_pathOf inRange,
    wellFormed.importersOf_pathOf inRange, List.length_map]
  rfl

end WellFormed

end ImportAtlas.DependencyGraph
