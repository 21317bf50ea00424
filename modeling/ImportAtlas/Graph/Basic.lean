import ImportAtlas.Keyed
import ImportAtlas.Path.Lexical

/-! # Dependency graphs

A directed graph of files, an edge leading from the importing file to the imported
one. Nodes are kept in the order in which they were added and addressed by their
position; an index leads from a path to its position. Neighbours are kept for both
directions, in the order in which the edges were added.
-/

namespace ImportAtlas

abbrev NodeId := Nat

structure DependencyGraph where
  paths : List String
  index : List (String × NodeId)
  outgoing : List (List NodeId)
  incoming : List (List NodeId)
  edgeCount : Int
deriving DecidableEq, Repr, Inhabited

namespace DependencyGraph

def empty : DependencyGraph := ⟨[], [], [], [], 0⟩

def nodeCount (graph : DependencyGraph) : Nat := graph.paths.length

def idOf? (graph : DependencyGraph) (path : String) : Option NodeId :=
  Keyed.get? path graph.index

def pathOf (graph : DependencyGraph) (id : NodeId) : String :=
  graph.paths.getD id ""

def targetsOf (graph : DependencyGraph) (id : NodeId) : List NodeId :=
  graph.outgoing.getD id []

def sourcesOf (graph : DependencyGraph) (id : NodeId) : List NodeId :=
  graph.incoming.getD id []

/-- The graph with a node for a path, and the position of that node. A path that has a
node keeps it. -/
def addNode (graph : DependencyGraph) (path : String) : DependencyGraph × NodeId :=
  match graph.idOf? path with
  | some id => (graph, id)
  | none =>
      let id := graph.nodeCount
      ({ graph with
          paths := graph.paths ++ [path]
          index := Keyed.put path id graph.index
          outgoing := graph.outgoing ++ [[]]
          incoming := graph.incoming ++ [[]] }, id)

def link (adjacency : List (List NodeId)) (id neighbour : NodeId) : List (List NodeId) :=
  adjacency.modify id fun neighbours =>
    if neighbours.contains neighbour then neighbours else neighbours ++ [neighbour]

/-- The graph with an edge, and with nodes for its ends. An edge is there at most once. -/
def addEdge (graph : DependencyGraph) (source target : String) : DependencyGraph :=
  let (graph, sourceId) := graph.addNode source
  let (graph, targetId) := graph.addNode target
  if (graph.targetsOf sourceId).contains targetId then graph
  else
    { graph with
      outgoing := link graph.outgoing sourceId targetId
      incoming := link graph.incoming targetId sourceId
      edgeCount := graph.edgeCount + 1 }

/-! ## Queries -/

def contains (graph : DependencyGraph) (path : String) : Bool :=
  (graph.idOf? path).isSome

def importsOf (graph : DependencyGraph) (path : String) : List String :=
  match graph.idOf? path with
  | none => []
  | some id => (graph.targetsOf id).map graph.pathOf

def importersOf (graph : DependencyGraph) (path : String) : List String :=
  match graph.idOf? path with
  | none => []
  | some id => (graph.sourcesOf id).map graph.pathOf

def hasEdge (graph : DependencyGraph) (source target : String) : Bool :=
  match graph.idOf? source, graph.idOf? target with
  | some sourceId, some targetId => (graph.targetsOf sourceId).contains targetId
  | _, _ => false

def nodeFor? (graph : DependencyGraph) (path : String) : Option String :=
  (graph.idOf? path).bind fun id => graph.paths[id]?

def edges (graph : DependencyGraph) : List (String × String) :=
  graph.outgoing.zipIdx.flatMap fun (targets, source) =>
    targets.map fun target => (graph.pathOf source, graph.pathOf target)

structure ImporterCount where
  path : String
  count : Nat
deriving DecidableEq, Repr

/-- The nodes that have importers, those with the most first, and of nodes with equally
many the one that comes earlier first. -/
def rank (paths : List String) (counts : List Nat) : List ImporterCount :=
  (((paths.zip counts).map fun (path, count) => ImporterCount.mk path count).filter fun entry =>
    entry.count ≠ 0).mergeSort fun left right => right.count ≤ left.count

def rankedByImporters (graph : DependencyGraph) : List ImporterCount :=
  rank graph.paths (graph.incoming.map List.length)

def takeSigned {α : Type} (limit : Int) (values : List α) : List α :=
  match limit with
  | .ofNat limit => values.take limit
  | .negSucc short => values.take (values.length - (short + 1))

def mostConnected (graph : DependencyGraph) (limit : Int) : List ImporterCount :=
  takeSigned limit graph.rankedByImporters

end DependencyGraph

end ImportAtlas
