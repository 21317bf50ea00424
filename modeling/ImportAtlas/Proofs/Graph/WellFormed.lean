import ImportAtlas.Graph.Check
import ImportAtlas.Proofs.Distinct

/-! # Dependency graphs that fit together

A graph keeps its nodes twice, in a list and in an index, its edges twice, once for each
direction, and the number of edges besides. The parts agree in every graph that is made by
adding nodes and edges, so the check of such a graph finds nothing.
-/

namespace ImportAtlas.DependencyGraph

open Distinct

/-! ## Histories -/

/-- A call that changes a graph. -/
inductive Change
  | node (path : String)
  | edge (source target : String)
deriving DecidableEq, Repr

def apply (graph : DependencyGraph) : Change → DependencyGraph
  | .node path => (graph.addNode path).1
  | .edge source target => graph.addEdge source target

/-- The graph that some calls make of the one without nodes. -/
def ofChanges (changes : List Change) : DependencyGraph :=
  changes.foldl apply empty

/-! ## The invariant -/

/-- The parts of a graph agree. The index lists every path with its position and nothing
else; neighbours are positions of nodes, none of them twice; every edge is known to both of
its ends; and the edges are counted right from either side. -/
structure WellFormed (graph : DependencyGraph) : Prop where
  distinct : graph.paths.Nodup
  indexed : graph.index = graph.paths.zipIdx
  outgoing_length : graph.outgoing.length = graph.nodeCount
  incoming_length : graph.incoming.length = graph.nodeCount
  target_lt : ∀ source, ∀ target ∈ graph.targetsOf source, target < graph.nodeCount
  source_lt : ∀ target, ∀ source ∈ graph.sourcesOf target, source < graph.nodeCount
  targets_nodup : ∀ source, (graph.targetsOf source).Nodup
  sources_nodup : ∀ target, (graph.sourcesOf target).Nodup
  symmetric : ∀ source target,
    target ∈ graph.targetsOf source ↔ source ∈ graph.sourcesOf target
  outgoing_total : graph.edgeCount = graph.outgoing.flatten.length
  incoming_total : graph.edgeCount = graph.incoming.flatten.length

private theorem wellFormed_empty : empty.WellFormed := by
  constructor <;> simp [empty, nodeCount, targetsOf, sourcesOf]

namespace WellFormed

variable {graph : DependencyGraph}

theorem map_fst_index (wellFormed : graph.WellFormed) :
    graph.index.map Prod.fst = graph.paths := by
  rw [wellFormed.indexed, List.zipIdx_map_fst]

theorem idOf?_eq_some_iff (wellFormed : graph.WellFormed) {path : String} {id : NodeId} :
    graph.idOf? path = some id ↔ graph.paths[id]? = some path := by
  rw [← List.mk_mem_zipIdx_iff_getElem?, ← wellFormed.indexed]
  constructor
  · exact Keyed.mem_of_get?
  · apply Keyed.get?_of_mem
    rw [wellFormed.map_fst_index]
    exact wellFormed.distinct

theorem idOf?_eq_none_iff (wellFormed : graph.WellFormed) {path : String} :
    graph.idOf? path = none ↔ path ∉ graph.paths := by
  rw [idOf?, Keyed.get?_eq_none_iff, wellFormed.map_fst_index]

end WellFormed

/-! ## Neighbour lists -/

private theorem length_link (adjacency : List (List NodeId)) (id neighbour : NodeId) :
    (link adjacency id neighbour).length = adjacency.length := by
  simp [link]

theorem getD_link {adjacency : List (List NodeId)} {id : NodeId} (neighbour : NodeId)
    (inRange : id < adjacency.length) (other : NodeId) :
    (link adjacency id neighbour).getD other [] =
      if other = id then withLast neighbour (adjacency.getD id [])
      else adjacency.getD other [] := by
  simp only [List.getD_eq_getElem?_getD, link, List.getElem?_modify]
  by_cases equal : other = id
  · subst equal
    simp [inRange, withLast]
  · have different : ¬id = other := fun same => equal same.symm
    simp [equal, different]

private theorem length_flatten_link {adjacency : List (List NodeId)} {id neighbour : NodeId}
    (inRange : id < adjacency.length) (absent : neighbour ∉ adjacency.getD id []) :
    (link adjacency id neighbour).flatten.length = adjacency.flatten.length + 1 := by
  induction adjacency generalizing id with
  | nil => simp at inRange
  | cons head tail induction =>
      cases id with
      | zero =>
          have absentHead : neighbour ∉ head := by simpa using absent
          simp [link, absentHead]
          omega
      | succ id =>
          have inTail : id < tail.length := by simpa using inRange
          have absentTail : neighbour ∉ tail.getD id [] := by simpa using absent
          have counted := induction inTail absentTail
          simp only [link, List.modify_succ_cons, List.flatten_cons, List.length_append]
            at counted ⊢
          omega

/-! ## Adding nodes -/

def extend (graph : DependencyGraph) (path : String) : DependencyGraph :=
  { graph with
    paths := graph.paths ++ [path]
    index := graph.index ++ [(path, graph.nodeCount)]
    outgoing := graph.outgoing ++ [[]]
    incoming := graph.incoming ++ [[]] }

@[simp] theorem paths_extend (graph : DependencyGraph) (path : String) :
    (graph.extend path).paths = graph.paths ++ [path] := rfl

@[simp] theorem nodeCount_extend (graph : DependencyGraph) (path : String) :
    (graph.extend path).nodeCount = graph.nodeCount + 1 := by
  simp [nodeCount]

theorem getD_append_nil (adjacency : List (List NodeId)) (id : NodeId) :
    (adjacency ++ [[]]).getD id [] = adjacency.getD id [] := by
  simp only [List.getD_eq_getElem?_getD]
  rcases Nat.lt_trichotomy id adjacency.length with before | last | behind
  · rw [List.getElem?_append_left before]
  · simp [last]
  · have outside : (adjacency ++ [[]]).length ≤ id := by
      rw [List.length_append, List.length_singleton]
      exact behind
    rw [List.getElem?_eq_none outside, List.getElem?_eq_none (Nat.le_of_lt behind)]

@[simp] theorem targetsOf_extend (graph : DependencyGraph) (path : String) (id : NodeId) :
    (graph.extend path).targetsOf id = graph.targetsOf id :=
  getD_append_nil graph.outgoing id

@[simp] theorem sourcesOf_extend (graph : DependencyGraph) (path : String) (id : NodeId) :
    (graph.extend path).sourcesOf id = graph.sourcesOf id :=
  getD_append_nil graph.incoming id

namespace WellFormed

variable {graph : DependencyGraph}

theorem extend (wellFormed : graph.WellFormed) {path : String} (absent : path ∉ graph.paths) :
    (graph.extend path).WellFormed where
  distinct := by
    rw [paths_extend, List.nodup_append]
    refine ⟨wellFormed.distinct, by simp, ?_⟩
    intro left leftMember right rightMember equal
    rw [List.mem_singleton] at rightMember
    exact absent (rightMember ▸ equal ▸ leftMember)
  indexed := by
    have listed := wellFormed.indexed
    simp [DependencyGraph.extend, nodeCount, listed, List.zipIdx_append]
  outgoing_length := by
    simp [DependencyGraph.extend, wellFormed.outgoing_length, nodeCount]
  incoming_length := by
    simp [DependencyGraph.extend, wellFormed.incoming_length, nodeCount]
  target_lt := by
    intro source target member
    rw [targetsOf_extend] at member
    rw [nodeCount_extend]
    exact Nat.lt_succ_of_lt (wellFormed.target_lt source target member)
  source_lt := by
    intro target source member
    rw [sourcesOf_extend] at member
    rw [nodeCount_extend]
    exact Nat.lt_succ_of_lt (wellFormed.source_lt target source member)
  targets_nodup := by
    intro source
    rw [targetsOf_extend]
    exact wellFormed.targets_nodup source
  sources_nodup := by
    intro target
    rw [sourcesOf_extend]
    exact wellFormed.sources_nodup target
  symmetric := by
    intro source target
    rw [targetsOf_extend, sourcesOf_extend]
    exact wellFormed.symmetric source target
  outgoing_total := by
    simp [DependencyGraph.extend, wellFormed.outgoing_total]
  incoming_total := by
    simp [DependencyGraph.extend, wellFormed.incoming_total]

theorem addNode_cases (wellFormed : graph.WellFormed) (path : String) :
    (∃ id, graph.paths[id]? = some path ∧ graph.addNode path = (graph, id)) ∨
      (path ∉ graph.paths ∧ graph.addNode path = (graph.extend path, graph.nodeCount)) := by
  cases found : graph.idOf? path with
  | some id =>
      left
      refine ⟨id, wellFormed.idOf?_eq_some_iff.mp found, ?_⟩
      simp [addNode, found]
  | none =>
      have absent := wellFormed.idOf?_eq_none_iff.mp found
      have newKey : path ∉ graph.index.map Prod.fst := by
        rw [wellFormed.map_fst_index]
        exact absent
      right
      refine ⟨absent, ?_⟩
      simp [addNode, found, DependencyGraph.extend, Keyed.put_of_not_mem newKey]

theorem addNode (wellFormed : graph.WellFormed) (path : String) :
    (graph.addNode path).1.WellFormed := by
  rcases wellFormed.addNode_cases path with ⟨id, _, added⟩ | ⟨absent, added⟩
  · rw [added]
    exact wellFormed
  · rw [added]
    exact wellFormed.extend absent

private theorem getElem?_addNode (wellFormed : graph.WellFormed) (path : String) :
    (graph.addNode path).1.paths[(graph.addNode path).2]? = some path := by
  rcases wellFormed.addNode_cases path with ⟨id, found, added⟩ | ⟨absent, added⟩
  · rw [added]
    exact found
  · rw [added]
    simp [nodeCount]

private theorem getElem?_addNode_of_some (wellFormed : graph.WellFormed) {path : String}
    {id : NodeId}
    (found : graph.paths[id]? = some path) (added : String) :
    (graph.addNode added).1.paths[id]? = some path := by
  rcases wellFormed.addNode_cases added with ⟨_, _, same⟩ | ⟨_, longer⟩
  · rw [same]
    exact found
  · have inRange : id < graph.paths.length := (List.getElem?_eq_some_iff.mp found).1
    rw [longer, paths_extend, List.getElem?_append_left inRange]
    exact found

end WellFormed

/-! ## Adding edges -/

def connect (graph : DependencyGraph) (source target : NodeId) : DependencyGraph :=
  { graph with
    outgoing := link graph.outgoing source target
    incoming := link graph.incoming target source
    edgeCount := graph.edgeCount + 1 }

@[simp] theorem paths_connect (graph : DependencyGraph) (source target : NodeId) :
    (graph.connect source target).paths = graph.paths := rfl

@[simp] theorem nodeCount_connect (graph : DependencyGraph) (source target : NodeId) :
    (graph.connect source target).nodeCount = graph.nodeCount := rfl

namespace WellFormed

variable {graph : DependencyGraph}

theorem targetsOf_connect (wellFormed : graph.WellFormed) {source : NodeId} (target : NodeId)
    (inRange : source < graph.nodeCount) (id : NodeId) :
    (graph.connect source target).targetsOf id =
      if id = source then withLast target (graph.targetsOf source) else graph.targetsOf id :=
  getD_link target (wellFormed.outgoing_length ▸ inRange) id

theorem sourcesOf_connect (wellFormed : graph.WellFormed) (source : NodeId) {target : NodeId}
    (inRange : target < graph.nodeCount) (id : NodeId) :
    (graph.connect source target).sourcesOf id =
      if id = target then withLast source (graph.sourcesOf target) else graph.sourcesOf id :=
  getD_link source (wellFormed.incoming_length ▸ inRange) id

private theorem mem_targetsOf_connect (wellFormed : graph.WellFormed) {source target : NodeId}
    (inRange : source < graph.nodeCount) {id neighbour : NodeId} :
    neighbour ∈ (graph.connect source target).targetsOf id ↔
      neighbour ∈ graph.targetsOf id ∨ (id = source ∧ neighbour = target) := by
  rw [wellFormed.targetsOf_connect target inRange]
  by_cases equal : id = source
  · simp [equal, mem_withLast]
  · simp [equal]

private theorem mem_sourcesOf_connect (wellFormed : graph.WellFormed) {source target : NodeId}
    (inRange : target < graph.nodeCount) {id neighbour : NodeId} :
    neighbour ∈ (graph.connect source target).sourcesOf id ↔
      neighbour ∈ graph.sourcesOf id ∨ (id = target ∧ neighbour = source) := by
  rw [wellFormed.sourcesOf_connect source inRange]
  by_cases equal : id = target
  · simp [equal, mem_withLast]
  · simp [equal]

theorem connect (wellFormed : graph.WellFormed) {source target : NodeId}
    (sourceInRange : source < graph.nodeCount) (targetInRange : target < graph.nodeCount)
    (absent : target ∉ graph.targetsOf source) : (graph.connect source target).WellFormed where
  distinct := wellFormed.distinct
  indexed := wellFormed.indexed
  outgoing_length := by
    rw [nodeCount_connect, ← wellFormed.outgoing_length]
    exact length_link graph.outgoing source target
  incoming_length := by
    rw [nodeCount_connect, ← wellFormed.incoming_length]
    exact length_link graph.incoming target source
  target_lt := by
    intro id neighbour member
    rcases (wellFormed.mem_targetsOf_connect sourceInRange).mp member with old | ⟨_, equal⟩
    · exact wellFormed.target_lt id neighbour old
    · exact equal ▸ targetInRange
  source_lt := by
    intro id neighbour member
    rcases (wellFormed.mem_sourcesOf_connect targetInRange).mp member with old | ⟨_, equal⟩
    · exact wellFormed.source_lt id neighbour old
    · exact equal ▸ sourceInRange
  targets_nodup := by
    intro id
    rw [wellFormed.targetsOf_connect target sourceInRange]
    split
    · exact nodup_withLast (wellFormed.targets_nodup source)
    · exact wellFormed.targets_nodup id
  sources_nodup := by
    intro id
    rw [wellFormed.sourcesOf_connect source targetInRange]
    split
    · exact nodup_withLast (wellFormed.sources_nodup target)
    · exact wellFormed.sources_nodup id
  symmetric := by
    intro left right
    rw [wellFormed.mem_targetsOf_connect sourceInRange,
      wellFormed.mem_sourcesOf_connect targetInRange, wellFormed.symmetric left right,
      and_comm (a := left = source)]
  outgoing_total := by
    have inRange : source < graph.outgoing.length := wellFormed.outgoing_length ▸ sourceInRange
    simp only [DependencyGraph.connect]
    rw [length_flatten_link inRange absent, wellFormed.outgoing_total]
    rfl
  incoming_total := by
    have inRange : target < graph.incoming.length := wellFormed.incoming_length ▸ targetInRange
    -- The edge is new on the other side too, since the two sides agree.
    have absentSource : source ∉ graph.sourcesOf target := by
      rw [← wellFormed.symmetric source target]
      exact absent
    simp only [DependencyGraph.connect]
    rw [length_flatten_link inRange absentSource, wellFormed.incoming_total]
    rfl

/-- Adding an edge adds its ends as nodes, and connects them if they are not connected. -/
theorem addEdge_cases (wellFormed : graph.WellFormed) (source target : String) :
    ∃ sourceId targetId,
      let extended := ((graph.addNode source).1.addNode target).1
      extended.paths[sourceId]? = some source ∧ extended.paths[targetId]? = some target ∧
        ((targetId ∈ extended.targetsOf sourceId ∧ graph.addEdge source target = extended) ∨
          (targetId ∉ extended.targetsOf sourceId ∧
            graph.addEdge source target = extended.connect sourceId targetId)) := by
  have first := wellFormed.addNode source
  refine ⟨(graph.addNode source).2, ((graph.addNode source).1.addNode target).2, ?_⟩
  refine ⟨first.getElem?_addNode_of_some (wellFormed.getElem?_addNode source) target,
    first.getElem?_addNode target, ?_⟩
  simp only [DependencyGraph.addEdge, List.contains_iff_mem]
  split
  · exact .inl ⟨‹_›, rfl⟩
  · exact .inr ⟨‹_›, rfl⟩

theorem addEdge (wellFormed : graph.WellFormed) (source target : String) :
    (graph.addEdge source target).WellFormed := by
  have extended := (wellFormed.addNode source).addNode target
  rcases wellFormed.addEdge_cases source target with
    ⟨sourceId, targetId, sourceFound, targetFound, same | connected⟩
  · rw [same.2]
    exact extended
  · rw [connected.2]
    exact extended.connect (List.getElem?_eq_some_iff.mp sourceFound).1
      (List.getElem?_eq_some_iff.mp targetFound).1 connected.1

theorem apply (wellFormed : graph.WellFormed) (change : Change) :
    (graph.apply change).WellFormed := by
  cases change with
  | node path => exact wellFormed.addNode path
  | edge source target => exact wellFormed.addEdge source target

private theorem foldl_apply (wellFormed : graph.WellFormed) (changes : List Change) :
    (changes.foldl DependencyGraph.apply graph).WellFormed := by
  induction changes generalizing graph with
  | nil => exact wellFormed
  | cons change changes induction => exact induction (wellFormed.apply change)

end WellFormed

theorem wellFormed_ofChanges (changes : List Change) : (ofChanges changes).WellFormed :=
  wellFormed_empty.foldl_apply changes

end ImportAtlas.DependencyGraph
