import ImportAtlas.Graph.Export

/-! # Stored graphs

A dependency graph whose parts need not fit together. Positions are integers: one that is
not negative counts from the front, a negative one from the end, and a position with nothing
in it makes an operation fail. A graph that was built by adding nodes and edges fails in
nothing.
-/

namespace ImportAtlas

/-- A graph as it is stored. Every node has a list of neighbours for both directions. -/
structure StoredGraph where
  paths : List String
  index : List (String × Int)
  outgoing : List (List Int)
  incoming : List (List Int)
  edgeCount : Int
deriving DecidableEq, Repr, Inhabited

def DependencyGraph.stored (graph : DependencyGraph) : StoredGraph where
  paths := graph.paths
  index := graph.index.map fun (path, id) => (path, (id : Int))
  outgoing := graph.outgoing.map fun neighbours => neighbours.map Int.ofNat
  incoming := graph.incoming.map fun neighbours => neighbours.map Int.ofNat
  edgeCount := graph.edgeCount

namespace StoredGraph

structure Misplaced where
  position : Int
deriving DecidableEq, Repr

def Misplaced.message (_ : Misplaced) : String := "list index out of range"

/-! ## Positions -/

def slot? (length : Nat) (position : Int) : Option Nat :=
  let fromFront := if position < 0 then position + length else position
  if 0 ≤ fromFront ∧ fromFront < length then some fromFront.toNat else none

def itemAt {α : Type} (items : List α) (position : Int) : Except Misplaced α :=
  match (slot? items.length position).bind fun slot => items[slot]? with
  | some item => .ok item
  | none => .error ⟨position⟩

def changeAt {α : Type} (items : List α) (position : Int) (change : α → α) :
    Except Misplaced (List α) :=
  match slot? items.length position with
  | some slot => .ok (items.modify slot change)
  | none => .error ⟨position⟩

def nodeCount (graph : StoredGraph) : Nat := graph.paths.length

def idOf? (graph : StoredGraph) (path : String) : Option Int :=
  Keyed.get? path graph.index

def pathAt (graph : StoredGraph) (position : Int) : Except Misplaced String :=
  itemAt graph.paths position

/-! ## Changes -/

def withNeighbour (neighbour : Int) (neighbours : List Int) : List Int :=
  if neighbours.contains neighbour then neighbours else neighbours ++ [neighbour]

def addNode (graph : StoredGraph) (path : String) : StoredGraph × Int :=
  match graph.idOf? path with
  | some id => (graph, id)
  | none =>
      ({ graph with
          paths := graph.paths ++ [path]
          index := Keyed.put path (graph.nodeCount : Int) graph.index
          outgoing := graph.outgoing ++ [[]]
          incoming := graph.incoming ++ [[]] }, graph.nodeCount)

/-- The graph with an edge, and with nodes for its ends. What was changed before a position
turned out to be misplaced stays. -/
def addEdge (graph : StoredGraph) (source target : String) :
    StoredGraph × Except Misplaced Unit :=
  let (graph, sourceId) := graph.addNode source
  let (graph, targetId) := graph.addNode target
  match itemAt graph.outgoing sourceId with
  | .error misplaced => (graph, .error misplaced)
  | .ok targets =>
      if targets.contains targetId then (graph, .ok ())
      else
        match changeAt graph.outgoing sourceId (withNeighbour targetId) with
        | .error misplaced => (graph, .error misplaced)
        | .ok outgoing =>
            match changeAt graph.incoming targetId (withNeighbour sourceId) with
            | .error misplaced => ({ graph with outgoing }, .error misplaced)
            | .ok incoming =>
                ({ graph with outgoing, incoming, edgeCount := graph.edgeCount + 1 }, .ok ())

/-! ## Queries -/

def contains (graph : StoredGraph) (path : String) : Bool :=
  (graph.idOf? path).isSome

def neighboursOf (graph : StoredGraph) (adjacency : List (List Int)) (path : String) :
    Except Misplaced (List String) :=
  match graph.idOf? path with
  | none => .ok []
  | some id => do (← itemAt adjacency id).mapM graph.pathAt

def importsOf (graph : StoredGraph) (path : String) : Except Misplaced (List String) :=
  graph.neighboursOf graph.outgoing path

def importersOf (graph : StoredGraph) (path : String) : Except Misplaced (List String) :=
  graph.neighboursOf graph.incoming path

def hasEdge (graph : StoredGraph) (source target : String) : Except Misplaced Bool :=
  match graph.idOf? source, graph.idOf? target with
  | some sourceId, some targetId =>
      (itemAt graph.outgoing sourceId).map fun targets => targets.contains targetId
  | _, _ => .ok false

def nodeFor? (graph : StoredGraph) (path : String) : Except Misplaced (Option String) :=
  match graph.idOf? path with
  | none => .ok none
  | some id => (graph.pathAt id).map some

def adjacentPairs (adjacency : List (List Int)) : List (Int × Int) :=
  adjacency.zipIdx.flatMap fun (neighbours, id) =>
    neighbours.map fun neighbour => ((id : Int), neighbour)

def edges (graph : StoredGraph) : Except Misplaced (List (String × String)) :=
  (adjacentPairs graph.outgoing).mapM fun (source, target) =>
    return (← graph.pathAt source, ← graph.pathAt target)

def explore (adjacency : List (List Int)) (steps : Nat) (met queue : List Int) :
    Except Misplaced (List Int) :=
  match steps, queue with
  | 0, _ | _, [] => .ok met
  | steps + 1, head :: tail => do
      let neighbours ← itemAt adjacency head
      let new := neighbours.filter fun neighbour => !met.contains neighbour
      explore adjacency steps (met ++ new) (tail ++ new)

/-- The paths reached from a path over at least one edge, the position itself apart, in
code-point order. Every position is followed once, so as many steps as there are
neighbours, and one for the start, are enough. -/
def reachable (graph : StoredGraph) (adjacency : List (List Int)) (path : String) :
    Except Misplaced (List String) :=
  match graph.idOf? path with
  | none => .ok []
  | some start => do
      let met ← explore adjacency (adjacency.flatten.length + 1) [start] [start]
      let paths ← (met.filter (· ≠ start)).mapM graph.pathAt
      return (paths.mergeSort fun left right => left ≤ right).eraseDups

def transitiveImports (graph : StoredGraph) (path : String) : Except Misplaced (List String) :=
  graph.reachable graph.outgoing path

def transitiveImporters (graph : StoredGraph) (path : String) : Except Misplaced (List String) :=
  graph.reachable graph.incoming path

def mostConnected (graph : StoredGraph) (limit : Int) : List DependencyGraph.ImporterCount :=
  DependencyGraph.takeSigned limit
    (DependencyGraph.rank graph.paths (graph.incoming.map List.length))

def toExport (graph : StoredGraph) (projectRoot : Option String) : Except Misplaced GraphExport :=
  graph.edges.map fun edges =>
    { totalFiles := graph.nodeCount
      totalEdges := graph.edgeCount
      projectRoot := projectRoot.filter (· ≠ "")
      files := (graph.paths.zip (graph.outgoing.zip graph.incoming)).map
        fun (path, targets, sources) =>
          ⟨path, Path.baseName path, targets.length, sources.length⟩
      edges
      mostConnected := graph.mostConnected DependencyGraph.exportLimit }

end StoredGraph

end ImportAtlas
