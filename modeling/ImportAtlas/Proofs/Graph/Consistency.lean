import ImportAtlas.Proofs.Graph.Reports
import ImportAtlas.Proofs.Graph.WellFormed

/-! # The check of a well-formed graph

A graph whose parts agree has no problem to report, and no position in it is misplaced. Main
statement: whatever calls made a graph, its parts agree and its check finds nothing.
-/

namespace ImportAtlas.DependencyGraph

open StoredGraph

theorem mem_getD_stored {adjacency : List (List NodeId)} {id : Nat} {neighbour : Int} :
    neighbour ∈ (adjacency.map fun neighbours => neighbours.map Int.ofNat).getD id [] ↔
      ∃ other ∈ adjacency.getD id [], neighbour = other := by
  simp only [List.getD_eq_getElem?_getD, List.getElem?_map]
  cases adjacency[id]? <;> simp [eq_comm]

private theorem natCast_mem_getD_stored {adjacency : List (List NodeId)} {id neighbour : Nat} :
    (neighbour : Int) ∈ (adjacency.map fun neighbours => neighbours.map Int.ofNat).getD id [] ↔
      neighbour ∈ adjacency.getD id [] := by
  rw [mem_getD_stored]
  constructor
  · rintro ⟨other, member, same⟩
    rw [Int.ofNat_inj.mp same]
    exact member
  · intro member
    exact ⟨neighbour, member, rfl⟩

private theorem isPlaced_stored {graph : DependencyGraph} {adjacency : List (List NodeId)}
    (length_eq : adjacency.length = graph.nodeCount)
    (neighbour_lt : ∀ id, ∀ neighbour ∈ adjacency.getD id [], neighbour < graph.nodeCount) :
    graph.stored.IsPlaced (adjacency.map fun neighbours => neighbours.map Int.ofNat) where
  length_eq := by
    rw [List.length_map, length_eq]
    rfl
  bounds := by
    intro neighbours listed neighbour member
    rcases List.mem_iff_getElem?.mp listed with ⟨id, found⟩
    have stored := mem_getD_nil_iff.mpr ⟨neighbours, found, member⟩
    rcases mem_getD_stored.mp stored with ⟨other, inNeighbours, rfl⟩
    exact ⟨Int.natCast_nonneg other, Int.ofNat_lt.mpr (neighbour_lt id other inNeighbours)⟩

namespace WellFormed

variable {graph : DependencyGraph}

theorem isAddressed_stored (wellFormed : graph.WellFormed) : graph.stored.IsAddressed where
  keys_nodup := by
    have sameKeys : graph.stored.index.map Prod.fst = graph.paths := by
      rw [← wellFormed.map_fst_index, stored, List.map_map]
      rfl
    rw [sameKeys]
    exact wellFormed.distinct
  index_nonneg := by
    intro entry member
    rcases List.mem_map.mp member with ⟨⟨path, id⟩, _, rfl⟩
    exact Int.natCast_nonneg id
  outgoing := isPlaced_stored wellFormed.outgoing_length wellFormed.target_lt
  incoming := isPlaced_stored wellFormed.incoming_length wellFormed.source_lt

private theorem isConsistent_stored (wellFormed : graph.WellFormed) :
    graph.stored.IsConsistent where
  distinct := wellFormed.distinct
  indexed := by
    intro path id
    rw [StoredGraph.idOf?_eq_some_iff wellFormed.isAddressed_stored]
    simp only [stored, wellFormed.indexed, List.mem_map, Prod.exists, Prod.mk.injEq,
      List.mk_mem_zipIdx_iff_getElem?]
    constructor
    · rintro ⟨key, position, found, rfl, rfl⟩
      exact ⟨position, rfl, found⟩
    · rintro ⟨position, rfl, found⟩
      exact ⟨path, position, found, rfl, rfl⟩
  symmetric := by
    intro source target
    rw [stored, natCast_mem_getD_stored, natCast_mem_getD_stored]
    exact wellFormed.symmetric source target
  counted := by
    have sameLength : graph.stored.outgoing.flatten.length = graph.outgoing.flatten.length := by
      simp [stored, List.length_flatten, Function.comp_def]
    rw [sameLength]
    exact wellFormed.outgoing_total

private theorem problems_stored (wellFormed : graph.WellFormed) :
    graph.stored.problems = .ok [] := by
  rw [problems_eq_reports wellFormed.isAddressed_stored,
    (reports_eq_nil_iff wellFormed.isAddressed_stored).mpr wellFormed.isConsistent_stored]

end WellFormed

/-- Whatever nodes and edges are added to the empty graph, in whatever order, the parts of the
graph agree, and its check finds nothing. -/
theorem ofChanges_consistent (changes : List Change) :
    (ofChanges changes).WellFormed ∧ (ofChanges changes).stored.problems = .ok [] :=
  ⟨wellFormed_ofChanges changes, (wellFormed_ofChanges changes).problems_stored⟩

end ImportAtlas.DependencyGraph
