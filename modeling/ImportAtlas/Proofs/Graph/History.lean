import ImportAtlas.Proofs.Graph.WellFormed

/-! # What calls leave in a graph

Queries see a graph as the calls that made it: its nodes are the paths that were mentioned,
in the order of their first mention, and the neighbours of a path are those that were
connected to it, in the order in which they first were.
-/

namespace ImportAtlas.DependencyGraph

open Distinct

variable {graph : DependencyGraph}

/-! ## Positions and paths -/

theorem pathOf_eq {id : NodeId} {path : String} (found : graph.paths[id]? = some path) :
    graph.pathOf id = path := by
  simp [pathOf, found]

theorem getElem?_pathOf {id : NodeId} (inRange : id < graph.nodeCount) :
    graph.paths[id]? = some (graph.pathOf id) := by
  have bounded : id < graph.paths.length := inRange
  simp [pathOf, bounded]

private theorem pathOf_mem {id : NodeId} (inRange : id < graph.nodeCount) :
    graph.pathOf id ∈ graph.paths :=
  List.mem_of_getElem? (getElem?_pathOf inRange)

namespace WellFormed

theorem id_unique (wellFormed : graph.WellFormed) {left right : NodeId} {path : String}
    (leftFound : graph.paths[left]? = some path) (rightFound : graph.paths[right]? = some path) :
    left = right := by
  have leftId := wellFormed.idOf?_eq_some_iff.mpr leftFound
  rw [wellFormed.idOf?_eq_some_iff.mpr rightFound, Option.some.injEq] at leftId
  exact leftId.symm

theorem pathOf_injective (wellFormed : graph.WellFormed) {left right : NodeId}
    (leftInRange : left < graph.nodeCount) (rightInRange : right < graph.nodeCount)
    (equal : graph.pathOf left = graph.pathOf right) : left = right :=
  wellFormed.id_unique (equal ▸ getElem?_pathOf leftInRange) (getElem?_pathOf rightInRange)

end WellFormed

/-! ## One direction of a graph

Imports and importers are read from neighbour lists in the same way, so what holds of both is
stated for any neighbour lists between the nodes.
-/

/-- Neighbour lists between the nodes of a graph. -/
structure IsDirection (graph : DependencyGraph) (adjacency : List (List NodeId)) : Prop where
  length_eq : adjacency.length = graph.nodeCount
  neighbour_lt : ∀ id, ∀ neighbour ∈ adjacency.getD id [], neighbour < graph.nodeCount

theorem WellFormed.outgoing_isDirection (wellFormed : graph.WellFormed) :
    graph.IsDirection graph.outgoing :=
  ⟨wellFormed.outgoing_length, wellFormed.target_lt⟩

theorem WellFormed.incoming_isDirection (wellFormed : graph.WellFormed) :
    graph.IsDirection graph.incoming :=
  ⟨wellFormed.incoming_length, wellFormed.source_lt⟩

def neighboursOf (graph : DependencyGraph) (adjacency : List (List NodeId)) (path : String) :
    List String :=
  match graph.idOf? path with
  | none => []
  | some id => (adjacency.getD id []).map graph.pathOf

theorem importsOf_eq_neighboursOf (path : String) :
    graph.importsOf path = graph.neighboursOf graph.outgoing path := rfl

private theorem importersOf_eq_neighboursOf (path : String) :
    graph.importersOf path = graph.neighboursOf graph.incoming path := rfl

namespace WellFormed

variable {adjacency : List (List NodeId)}

theorem neighboursOf_eq (wellFormed : graph.WellFormed) {id : NodeId} {path : String}
    (found : graph.paths[id]? = some path) :
    graph.neighboursOf adjacency path = (adjacency.getD id []).map graph.pathOf := by
  rw [neighboursOf, wellFormed.idOf?_eq_some_iff.mpr found]

theorem neighboursOf_of_not_mem (wellFormed : graph.WellFormed) {path : String}
    (absent : path ∉ graph.paths) : graph.neighboursOf adjacency path = [] := by
  rw [neighboursOf, wellFormed.idOf?_eq_none_iff.mpr absent]

theorem mem_neighboursOf_iff (wellFormed : graph.WellFormed)
    (direction : graph.IsDirection adjacency) {id neighbour : NodeId} {path other : String}
    (found : graph.paths[id]? = some path) (otherFound : graph.paths[neighbour]? = some other) :
    other ∈ graph.neighboursOf adjacency path ↔ neighbour ∈ adjacency.getD id [] := by
  rw [wellFormed.neighboursOf_eq found, List.mem_map]
  constructor
  · rintro ⟨candidate, member, equal⟩
    have candidateFound := getElem?_pathOf (direction.neighbour_lt id candidate member)
    rw [equal] at candidateFound
    exact wellFormed.id_unique candidateFound otherFound ▸ member
  · intro member
    exact ⟨neighbour, member, pathOf_eq otherFound⟩

theorem mem_paths_of_mem_neighboursOf (wellFormed : graph.WellFormed)
    (direction : graph.IsDirection adjacency) {path other : String}
    (member : other ∈ graph.neighboursOf adjacency path) :
    path ∈ graph.paths ∧ other ∈ graph.paths := by
  by_cases known : path ∈ graph.paths
  · rcases List.mem_iff_getElem?.mp known with ⟨id, found⟩
    rw [wellFormed.neighboursOf_eq found] at member
    rcases List.mem_map.mp member with ⟨neighbour, inList, rfl⟩
    exact ⟨known, pathOf_mem (direction.neighbour_lt id neighbour inList)⟩
  · rw [wellFormed.neighboursOf_of_not_mem known] at member
    cases member

private theorem getD_nodeCount (direction : graph.IsDirection adjacency) :
    adjacency.getD graph.nodeCount [] = [] := by
  rw [List.getD_eq_getElem?_getD, ← direction.length_eq]
  simp

theorem neighboursOf_extend (wellFormed : graph.WellFormed)
    (direction : graph.IsDirection adjacency) {added : String} (absent : added ∉ graph.paths)
    (path : String) :
    (graph.extend added).neighboursOf (adjacency ++ [[]]) path =
      graph.neighboursOf adjacency path := by
  have extended := wellFormed.extend absent
  by_cases isNew : path = added
  · subst isNew
    have found : (graph.extend path).paths[graph.nodeCount]? = some path := by simp [nodeCount]
    rw [extended.neighboursOf_eq found, wellFormed.neighboursOf_of_not_mem absent,
      getD_append_nil, getD_nodeCount direction, List.map_nil]
  · by_cases known : path ∈ graph.paths
    · rcases List.mem_iff_getElem?.mp known with ⟨id, found⟩
      have stays : ∀ {id : NodeId} {path : String}, graph.paths[id]? = some path →
          (graph.extend added).paths[id]? = some path := by
        intro id path found
        rw [paths_extend, List.getElem?_append_left (List.getElem?_eq_some_iff.mp found).1]
        exact found
      rw [extended.neighboursOf_eq (stays found), wellFormed.neighboursOf_eq found,
        getD_append_nil]
      apply List.map_congr_left
      intro neighbour member
      exact pathOf_eq (stays (getElem?_pathOf (direction.neighbour_lt id neighbour member)))
    · have stillAbsent : path ∉ (graph.extend added).paths := by
        simp [known, isNew]
      rw [extended.neighboursOf_of_not_mem stillAbsent, wellFormed.neighboursOf_of_not_mem known]

theorem neighboursOf_link (wellFormed : graph.WellFormed)
    (direction : graph.IsDirection adjacency) {id neighbour : NodeId} {path other : String}
    (found : graph.paths[id]? = some path) (otherFound : graph.paths[neighbour]? = some other)
    (asked : String) :
    graph.neighboursOf (link adjacency id neighbour) asked =
      if asked = path then withLast other (graph.neighboursOf adjacency path)
      else graph.neighboursOf adjacency asked := by
  have inRange : id < adjacency.length := by
    rw [direction.length_eq]
    exact (List.getElem?_eq_some_iff.mp found).1
  have otherInRange : neighbour < graph.nodeCount := (List.getElem?_eq_some_iff.mp otherFound).1
  by_cases same : asked = path
  · subst same
    rw [if_pos rfl, wellFormed.neighboursOf_eq found, wellFormed.neighboursOf_eq found,
      getD_link neighbour inRange, if_pos rfl, ← pathOf_eq otherFound]
    apply map_withLast
    intro candidate member equal
    exact wellFormed.pathOf_injective (direction.neighbour_lt id candidate member) otherInRange
      equal
  · rw [if_neg same]
    by_cases known : asked ∈ graph.paths
    · rcases List.mem_iff_getElem?.mp known with ⟨askedId, askedFound⟩
      have different : askedId ≠ id := by
        intro equal
        rw [equal, found, Option.some.injEq] at askedFound
        exact same askedFound.symm
      rw [wellFormed.neighboursOf_eq askedFound, wellFormed.neighboursOf_eq askedFound,
        getD_link neighbour inRange, if_neg different]
    · rw [wellFormed.neighboursOf_of_not_mem known, wellFormed.neighboursOf_of_not_mem known]

theorem neighboursOf_of_linked (wellFormed : graph.WellFormed)
    (direction : graph.IsDirection adjacency) {id neighbour : NodeId} {path other : String}
    (found : graph.paths[id]? = some path) (otherFound : graph.paths[neighbour]? = some other)
    (linked : neighbour ∈ adjacency.getD id []) (asked : String) :
    graph.neighboursOf adjacency asked =
      if asked = path then withLast other (graph.neighboursOf adjacency path)
      else graph.neighboursOf adjacency asked := by
  have member := (wellFormed.mem_neighboursOf_iff direction found otherFound).mpr linked
  have listed : (graph.neighboursOf adjacency path).contains other = true := by simpa using member
  rw [withLast, if_pos listed]
  by_cases same : asked = path
  · rw [if_pos same, same]
  · rw [if_neg same]

end WellFormed

/-! ## Queries after one call -/

namespace WellFormed

theorem paths_addNode (wellFormed : graph.WellFormed) (path : String) :
    (graph.addNode path).1.paths = withLast path graph.paths := by
  rcases wellFormed.addNode_cases path with ⟨id, found, added⟩ | ⟨absent, added⟩
  · have listed : graph.paths.contains path = true := by
      simpa using List.mem_of_getElem? found
    rw [added, withLast, if_pos listed]
  · have unlisted : ¬graph.paths.contains path = true := by simpa using absent
    rw [added, withLast, if_neg unlisted, paths_extend]

theorem importsOf_addNode (wellFormed : graph.WellFormed) (added path : String) :
    (graph.addNode added).1.importsOf path = graph.importsOf path := by
  rcases wellFormed.addNode_cases added with ⟨_, _, same⟩ | ⟨absent, longer⟩
  · rw [same]
  · rw [longer]
    exact wellFormed.neighboursOf_extend wellFormed.outgoing_isDirection absent path

theorem importersOf_addNode (wellFormed : graph.WellFormed) (added path : String) :
    (graph.addNode added).1.importersOf path = graph.importersOf path := by
  rcases wellFormed.addNode_cases added with ⟨_, _, same⟩ | ⟨absent, longer⟩
  · rw [same]
  · rw [longer]
    exact wellFormed.neighboursOf_extend wellFormed.incoming_isDirection absent path

private theorem paths_addEdge (wellFormed : graph.WellFormed) (source target : String) :
    (graph.addEdge source target).paths = withLast target (withLast source graph.paths) := by
  have extendedPaths : ((graph.addNode source).1.addNode target).1.paths =
      withLast target (withLast source graph.paths) := by
    rw [(wellFormed.addNode source).paths_addNode, wellFormed.paths_addNode]
  rcases wellFormed.addEdge_cases source target with ⟨_, _, _, _, same | connected⟩
  · rw [same.2, extendedPaths]
  · rw [connected.2, paths_connect, extendedPaths]

/-- Adding an edge makes its target the last import of its source, unless it is one already. -/
private theorem importsOf_addEdge (wellFormed : graph.WellFormed) (source target path : String) :
    (graph.addEdge source target).importsOf path =
      if path = source then withLast target (graph.importsOf source)
      else graph.importsOf path := by
  have extended := (wellFormed.addNode source).addNode target
  have unchanged : ∀ path, ((graph.addNode source).1.addNode target).1.importsOf path =
      graph.importsOf path := by
    intro path
    rw [(wellFormed.addNode source).importsOf_addNode, wellFormed.importsOf_addNode]
  rcases wellFormed.addEdge_cases source target with
    ⟨sourceId, targetId, sourceFound, targetFound, same | connected⟩
  · rw [same.2, ← unchanged source, ← unchanged path]
    exact extended.neighboursOf_of_linked extended.outgoing_isDirection sourceFound targetFound
      same.1 path
  · rw [connected.2, ← unchanged source, ← unchanged path]
    exact extended.neighboursOf_link extended.outgoing_isDirection sourceFound targetFound path

/-- Adding an edge makes its source the last importer of its target, unless it is one
already. -/
private theorem importersOf_addEdge (wellFormed : graph.WellFormed) (source target path : String) :
    (graph.addEdge source target).importersOf path =
      if path = target then withLast source (graph.importersOf target)
      else graph.importersOf path := by
  have extended := (wellFormed.addNode source).addNode target
  have unchanged : ∀ path, ((graph.addNode source).1.addNode target).1.importersOf path =
      graph.importersOf path := by
    intro path
    rw [(wellFormed.addNode source).importersOf_addNode, wellFormed.importersOf_addNode]
  rcases wellFormed.addEdge_cases source target with
    ⟨sourceId, targetId, sourceFound, targetFound, same | connected⟩
  · rw [same.2, ← unchanged target, ← unchanged path]
    exact extended.neighboursOf_of_linked extended.incoming_isDirection targetFound sourceFound
      ((extended.symmetric sourceId targetId).mp same.1) path
  · rw [connected.2, ← unchanged target, ← unchanged path]
    exact extended.neighboursOf_link extended.incoming_isDirection targetFound sourceFound path

/-! ## Queries that agree -/

theorem mem_importsOf_iff (wellFormed : graph.WellFormed) {source target : String} :
    target ∈ graph.importsOf source ↔ source ∈ graph.importersOf target := by
  by_cases known : source ∈ graph.paths ∧ target ∈ graph.paths
  · rcases List.mem_iff_getElem?.mp known.1 with ⟨sourceId, sourceFound⟩
    rcases List.mem_iff_getElem?.mp known.2 with ⟨targetId, targetFound⟩
    rw [importsOf_eq_neighboursOf, importersOf_eq_neighboursOf,
      wellFormed.mem_neighboursOf_iff wellFormed.outgoing_isDirection sourceFound targetFound,
      wellFormed.mem_neighboursOf_iff wellFormed.incoming_isDirection targetFound sourceFound]
    exact wellFormed.symmetric sourceId targetId
  · constructor
    · intro member
      exact absurd (wellFormed.mem_paths_of_mem_neighboursOf wellFormed.outgoing_isDirection member)
        known
    · intro member
      exact absurd
        (wellFormed.mem_paths_of_mem_neighboursOf wellFormed.incoming_isDirection member).symm known

theorem hasEdge_iff (wellFormed : graph.WellFormed) {source target : String} :
    graph.hasEdge source target = true ↔ target ∈ graph.importsOf source := by
  by_cases known : source ∈ graph.paths ∧ target ∈ graph.paths
  · rcases List.mem_iff_getElem?.mp known.1 with ⟨sourceId, sourceFound⟩
    rcases List.mem_iff_getElem?.mp known.2 with ⟨targetId, targetFound⟩
    rw [importsOf_eq_neighboursOf,
      wellFormed.mem_neighboursOf_iff wellFormed.outgoing_isDirection sourceFound targetFound,
      hasEdge, wellFormed.idOf?_eq_some_iff.mpr sourceFound,
      wellFormed.idOf?_eq_some_iff.mpr targetFound]
    exact List.contains_iff_mem
  · have noImport : target ∉ graph.importsOf source := fun member => known
      (wellFormed.mem_paths_of_mem_neighboursOf wellFormed.outgoing_isDirection member)
    have noEdge : graph.hasEdge source target = false := by
      unfold hasEdge
      cases sourceId : graph.idOf? source with
      | none => rfl
      | some _ =>
          cases targetId : graph.idOf? target with
          | none => rfl
          | some _ =>
              exact absurd ⟨List.mem_of_getElem? (wellFormed.idOf?_eq_some_iff.mp sourceId),
                List.mem_of_getElem? (wellFormed.idOf?_eq_some_iff.mp targetId)⟩ known
    simp [noEdge, noImport]

theorem contains_iff (wellFormed : graph.WellFormed) {path : String} :
    graph.contains path = true ↔ path ∈ graph.paths := by
  rw [contains, Option.isSome_iff_ne_none, ne_eq, wellFormed.idOf?_eq_none_iff, not_not]

end WellFormed

/-! ## Queries after any calls -/

namespace Change

def paths : Change → List String
  | node path => [path]
  | edge source target => [source, target]

/-- The path that a call makes an import of another. -/
def importFor? (path : String) : Change → Option String
  | node _ => none
  | edge source target => if source = path then some target else none

def importerFor? (path : String) : Change → Option String
  | node _ => none
  | edge source target => if target = path then some source else none

end Change

theorem ofChanges_concat (changes : List Change) (change : Change) :
    ofChanges (changes ++ [change]) = (ofChanges changes).apply change := by
  simp [ofChanges]

theorem paths_ofChanges (changes : List Change) :
    (ofChanges changes).paths = (changes.flatMap Change.paths).eraseDups := by
  induction changes using List.reverseRecOn with
  | nil => rfl
  | append_singleton changes change induction =>
      have wellFormed := wellFormed_ofChanges changes
      rw [ofChanges_concat, List.flatMap_append]
      cases change with
      | node path =>
          rw [apply, wellFormed.paths_addNode, induction, ← eraseDups_concat]
          rfl
      | edge source target =>
          rw [apply, wellFormed.paths_addEdge, induction, ← eraseDups_concat, ← eraseDups_concat,
            List.append_assoc]
          rfl

private theorem WellFormed.importsOf_apply (wellFormed : graph.WellFormed) (change : Change)
    (path : String) :
    (graph.apply change).importsOf path =
      (change.importFor? path).elim (graph.importsOf path)
        fun target => withLast target (graph.importsOf path) := by
  cases change with
  | node added =>
      rw [DependencyGraph.apply, wellFormed.importsOf_addNode]
      rfl
  | edge source target =>
      rw [DependencyGraph.apply, wellFormed.importsOf_addEdge, Change.importFor?]
      by_cases asked : path = source
      · rw [if_pos asked, if_pos asked.symm, asked, Option.elim_some]
      · have other : ¬source = path := fun equal => asked equal.symm
        rw [if_neg asked, if_neg other, Option.elim_none]

private theorem WellFormed.importersOf_apply (wellFormed : graph.WellFormed) (change : Change)
    (path : String) :
    (graph.apply change).importersOf path =
      (change.importerFor? path).elim (graph.importersOf path)
        fun source => withLast source (graph.importersOf path) := by
  cases change with
  | node added =>
      rw [DependencyGraph.apply, wellFormed.importersOf_addNode]
      rfl
  | edge source target =>
      rw [DependencyGraph.apply, wellFormed.importersOf_addEdge, Change.importerFor?]
      by_cases asked : path = target
      · rw [if_pos asked, if_pos asked.symm, asked, Option.elim_some]
      · have other : ¬target = path := fun equal => asked equal.symm
        rw [if_neg asked, if_neg other, Option.elim_none]

theorem query_ofChanges (query : DependencyGraph → List String) (given : Change → Option String)
    (unanswered : query empty = [])
    (step : ∀ graph : DependencyGraph, graph.WellFormed → ∀ change, query (graph.apply change) =
      (given change).elim (query graph) fun value => withLast value (query graph))
    (changes : List Change) : query (ofChanges changes) = (changes.filterMap given).eraseDups := by
  induction changes using List.reverseRecOn with
  | nil => exact unanswered
  | append_singleton changes change induction =>
      have single : [change].filterMap given = (given change).toList := by
        cases found : given change <;> simp [found]
      rw [ofChanges_concat, step _ (wellFormed_ofChanges changes), induction, List.filterMap_append,
        single]
      cases given change with
      | none => rw [Option.elim_none, Option.toList_none, List.append_nil]
      | some value => rw [Option.elim_some, Option.toList_some, eraseDups_concat]

theorem importsOf_ofChanges (changes : List Change) (path : String) :
    (ofChanges changes).importsOf path = (changes.filterMap (Change.importFor? path)).eraseDups :=
  query_ofChanges (fun graph => graph.importsOf path) (Change.importFor? path) rfl
    (fun _ wellFormed change => wellFormed.importsOf_apply change path) changes

theorem importersOf_ofChanges (changes : List Change) (path : String) :
    (ofChanges changes).importersOf path =
      (changes.filterMap (Change.importerFor? path)).eraseDups :=
  query_ofChanges (fun graph => graph.importersOf path) (Change.importerFor? path) rfl
    (fun _ wellFormed change => wellFormed.importersOf_apply change path) changes

end ImportAtlas.DependencyGraph
