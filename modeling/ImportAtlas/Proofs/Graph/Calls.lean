import ImportAtlas.Proofs.Graph.Export
import Mathlib.Data.List.Nodup

/-! # Graphs as records of calls

A graph keeps of the calls that made it which paths and which edges they mentioned, and in which
order they first did. Main statement: what every query gives after some calls is read off the row
of these calls, and a call that repeats an earlier one changes nothing.
-/

namespace ImportAtlas.DependencyGraph

/-- The edge that a call asks for. -/
def Change.edge? : Change → Option (String × String)
  | node _ => none
  | edge source target => some (source, target)

private theorem Change.edge?_eq_some_iff {change : Change} {source target : String} :
    change.edge? = some (source, target) ↔ change = .edge source target := by
  cases change <;> simp [edge?]

namespace WellFormed

variable {graph : DependencyGraph}

/-! ## Edges -/

theorem nodup_neighboursOf (wellFormed : graph.WellFormed) {adjacency : List (List NodeId)}
    (direction : graph.IsDirection adjacency) (nodup : ∀ id, (adjacency.getD id []).Nodup)
    (path : String) : (graph.neighboursOf adjacency path).Nodup := by
  by_cases known : path ∈ graph.paths
  · rcases List.mem_iff_getElem?.mp known with ⟨id, found⟩
    rw [wellFormed.neighboursOf_eq found]
    apply List.Nodup.map_on _ (nodup id)
    intro left inLeft right inRight equal
    exact wellFormed.pathOf_injective (direction.neighbour_lt id left inLeft)
      (direction.neighbour_lt id right inRight) equal
  · rw [wellFormed.neighboursOf_of_not_mem known]
    exact List.nodup_nil

theorem nodup_importsOf (wellFormed : graph.WellFormed) (path : String) :
    (graph.importsOf path).Nodup :=
  wellFormed.nodup_neighboursOf wellFormed.outgoing_isDirection wellFormed.targets_nodup path

theorem nodup_importersOf (wellFormed : graph.WellFormed) (path : String) :
    (graph.importersOf path).Nodup :=
  wellFormed.nodup_neighboursOf wellFormed.incoming_isDirection wellFormed.sources_nodup path

theorem mem_edges_iff (wellFormed : graph.WellFormed) {source target : String} :
    (source, target) ∈ graph.edges ↔ graph.hasEdge source target = true := by
  rw [wellFormed.edges_eq, wellFormed.hasEdge_iff, List.mem_flatMap]
  constructor
  · intro listed
    rcases listed with ⟨path, _, member⟩
    rcases List.mem_map.mp member with ⟨imported, inImports, equal⟩
    rw [Prod.mk.injEq] at equal
    exact equal.1 ▸ equal.2 ▸ inImports
  · intro imported
    have known := (wellFormed.mem_paths_of_mem_neighboursOf wellFormed.outgoing_isDirection
      imported).1
    exact ⟨source, known, List.mem_map_of_mem imported⟩

theorem nodup_edges (wellFormed : graph.WellFormed) : graph.edges.Nodup := by
  rw [wellFormed.edges_eq, List.nodup_flatMap]
  constructor
  · intro path _
    apply (wellFormed.nodup_importsOf path).map
    intro left right equal
    exact (Prod.mk.inj equal).2
  · -- The edges of two nodes differ in their first ends.
    apply wellFormed.distinct.imp
    intro left right different pair inLeft inRight
    rcases List.mem_map.mp inLeft with ⟨_, _, fromLeft⟩
    rcases List.mem_map.mp inRight with ⟨_, _, fromRight⟩
    exact different (Prod.mk.inj (fromLeft.trans fromRight.symm)).1

theorem length_edges (wellFormed : graph.WellFormed) :
    (graph.edges.length : Int) = graph.edgeCount := by
  have firsts : graph.outgoing.zipIdx.map (fun entry => entry.1.length) =
      graph.outgoing.map List.length := by
    conv_rhs => rw [← List.zipIdx_map_fst 0 graph.outgoing, List.map_map]
    rfl
  have total : graph.edges.length = graph.outgoing.flatten.length := by
    rw [edges, List.length_flatMap, List.length_flatten, ← firsts]
    simp only [List.length_map]
  rw [total, wellFormed.outgoing_total]

/-! ## Repeated calls -/

theorem addNode_of_getElem? (wellFormed : graph.WellFormed) {path : String} {id : NodeId}
    (found : graph.paths[id]? = some path) : graph.addNode path = (graph, id) := by
  rw [DependencyGraph.addNode, wellFormed.idOf?_eq_some_iff.mpr found]

private theorem addNode_of_mem (wellFormed : graph.WellFormed) {path : String}
    (known : path ∈ graph.paths) : (graph.addNode path).1 = graph := by
  rcases List.mem_iff_getElem?.mp known with ⟨id, found⟩
  rw [wellFormed.addNode_of_getElem? found]

private theorem addEdge_of_hasEdge (wellFormed : graph.WellFormed) {source target : String}
    (present : graph.hasEdge source target = true) : graph.addEdge source target = graph := by
  have imported := wellFormed.hasEdge_iff.mp present
  rcases wellFormed.mem_paths_of_mem_neighboursOf wellFormed.outgoing_isDirection imported with
    ⟨sourceKnown, targetKnown⟩
  rcases List.mem_iff_getElem?.mp sourceKnown with ⟨sourceId, sourceFound⟩
  rcases List.mem_iff_getElem?.mp targetKnown with ⟨targetId, targetFound⟩
  have linked : targetId ∈ graph.targetsOf sourceId :=
    (wellFormed.mem_neighboursOf_iff wellFormed.outgoing_isDirection sourceFound targetFound).mp
      imported
  rw [DependencyGraph.addEdge, wellFormed.addNode_of_getElem? sourceFound]
  simp only [wellFormed.addNode_of_getElem? targetFound, List.contains_iff_mem, linked, if_true]

end WellFormed

/-! ## What calls leave -/

theorem hasEdge_ofChanges_iff (changes : List Change) {source target : String} :
    (ofChanges changes).hasEdge source target = true ↔ .edge source target ∈ changes := by
  rw [(wellFormed_ofChanges changes).hasEdge_iff, importsOf_ofChanges, List.mem_eraseDups,
    List.mem_filterMap]
  constructor
  · intro made
    rcases made with ⟨change, member, gives⟩
    cases change with
    | node path => cases gives
    | edge importer imported =>
        simp only [Change.importFor?, Option.ite_none_right_eq_some, Option.some.injEq] at gives
        exact gives.1 ▸ gives.2 ▸ member
  · intro member
    exact ⟨.edge source target, member, by simp [Change.importFor?]⟩

private theorem edges_ofChanges_perm (changes : List Change) :
    (ofChanges changes).edges.Perm (changes.filterMap Change.edge?).eraseDups := by
  have wellFormed := wellFormed_ofChanges changes
  rw [List.perm_ext_iff_of_nodup wellFormed.nodup_edges (Distinct.nodup_eraseDups _)]
  intro pair
  rw [wellFormed.mem_edges_iff, hasEdge_ofChanges_iff, List.mem_eraseDups, List.mem_filterMap]
  constructor
  · intro member
    exact ⟨_, member, rfl⟩
  · intro made
    rcases made with ⟨change, member, gives⟩
    exact Change.edge?_eq_some_iff.mp gives ▸ member

private theorem edgeCount_ofChanges (changes : List Change) :
    (ofChanges changes).edgeCount = (changes.filterMap Change.edge?).eraseDups.length := by
  rw [← (wellFormed_ofChanges changes).length_edges, (edges_ofChanges_perm changes).length_eq]

private theorem apply_ofChanges_of_mem {changes : List Change} {change : Change}
    (made : change ∈ changes) : (ofChanges changes).apply change = ofChanges changes := by
  have wellFormed := wellFormed_ofChanges changes
  cases change with
  | node path =>
      apply wellFormed.addNode_of_mem
      rw [paths_ofChanges, List.mem_eraseDups, List.mem_flatMap]
      exact ⟨_, made, List.mem_cons_self⟩
  | edge source target =>
      apply wellFormed.addEdge_of_hasEdge
      exact (hasEdge_ofChanges_iff changes).mpr made

/-- A graph is the record of the calls that made it. Its nodes are the paths that were mentioned and
its edges those that were asked for, each neighbour list in the order in which the calls first asked
for its edges; asking again for a node gives its position, and no call that is repeated changes
anything. -/
theorem ofChanges_recordsCalls (changes : List Change) :
    (ofChanges changes).paths = (changes.flatMap Change.paths).eraseDups ∧
    (∀ path id, (ofChanges changes).paths[id]? = some path →
      (ofChanges changes).addNode path = (ofChanges changes, id)) ∧
    (∀ source target, (ofChanges changes).hasEdge source target = true ↔
      .edge source target ∈ changes) ∧
    (∀ source, (ofChanges changes).importsOf source =
      (changes.filterMap (Change.importFor? source)).eraseDups) ∧
    (∀ target, (ofChanges changes).importersOf target =
      (changes.filterMap (Change.importerFor? target)).eraseDups) ∧
    (ofChanges changes).edges = ((ofChanges changes).paths.flatMap fun source =>
      ((ofChanges changes).importsOf source).map fun target => (source, target)) ∧
    (ofChanges changes).edges.Nodup ∧
    (ofChanges changes).edgeCount = (changes.filterMap Change.edge?).eraseDups.length ∧
    ∀ change ∈ changes, (ofChanges changes).apply change = ofChanges changes := by
  have wellFormed := wellFormed_ofChanges changes
  refine ⟨paths_ofChanges changes, ?_, ?_, importsOf_ofChanges changes,
    importersOf_ofChanges changes, wellFormed.edges_eq, wellFormed.nodup_edges,
    edgeCount_ofChanges changes, ?_⟩
  · intro path id found
    exact wellFormed.addNode_of_getElem? found
  · intro source target
    exact hasEdge_ofChanges_iff changes
  · intro change made
    exact apply_ofChanges_of_mem made

end ImportAtlas.DependencyGraph
