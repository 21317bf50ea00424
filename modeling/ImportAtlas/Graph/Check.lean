import ImportAtlas.Graph.Stored
import ImportAtlas.Log.Event
import ImportAtlas.Text.Quoted

/-! # Consistency of dependency graphs

The parts of a stored graph that repeat each other are compared: the index with the nodes,
the two directions of the edges, and the count of edges with the edges.
-/

namespace ImportAtlas.StoredGraph

inductive Problem
  | indexSize (entries nodes : Nat)
  | indexEntry (path : String)
  | missingSource (source target : String)
  | missingTarget (target source : String)
  | edgeCount (counted : Int) (stored : Nat)
deriving DecidableEq, Repr

def Problem.message : Problem → String
  | indexSize entries nodes =>
      "Index size " ++ toString entries ++ " does not match node count " ++ toString nodes
  | indexEntry path => "Index entry for " ++ path ++ " points at the wrong node"
  | missingSource source target =>
      "Index inconsistency: " ++ source ++ " -> " ++ target ++ " missing from incoming index"
  | missingTarget target source =>
      "Index inconsistency: " ++ target ++ " <- " ++ source ++ " missing from outgoing index"
  | edgeCount counted stored =>
      "Edge count " ++ toString counted ++ " does not match " ++ toString stored ++ " stored edges"

def sizeProblems (graph : StoredGraph) : List Problem :=
  if graph.index.length = graph.nodeCount then []
  else [.indexSize graph.index.length graph.nodeCount]

/-- What is wrong with one index entry: it leads to no node behind the others, or to the node of
another path. -/
def entryProblems (graph : StoredGraph) (entry : String × Int) : Except Misplaced (List Problem) :=
  if graph.nodeCount ≤ entry.2 then .ok [.indexEntry entry.1]
  else
    (graph.pathAt entry.2).map fun path =>
      if path = entry.1 then [] else [.indexEntry entry.1]

def indexProblems (graph : StoredGraph) : Except Misplaced (List Problem) :=
  (graph.index.mapM graph.entryProblems).map List.flatten

def outgoingProblem (graph : StoredGraph) (pair : Int × Int) : Except Misplaced (List Problem) := do
  if (← itemAt graph.incoming pair.2).contains pair.1 then return []
  return [.missingSource (← graph.pathAt pair.1) (← graph.pathAt pair.2)]

def incomingProblem (graph : StoredGraph) (pair : Int × Int) : Except Misplaced (List Problem) := do
  if (← itemAt graph.outgoing pair.2).contains pair.1 then return []
  return [.missingTarget (← graph.pathAt pair.1) (← graph.pathAt pair.2)]

def outgoingProblems (graph : StoredGraph) : Except Misplaced (List Problem) :=
  ((adjacentPairs graph.outgoing).mapM graph.outgoingProblem).map List.flatten

def incomingProblems (graph : StoredGraph) : Except Misplaced (List Problem) :=
  ((adjacentPairs graph.incoming).mapM graph.incomingProblem).map List.flatten

def countProblems (graph : StoredGraph) : List Problem :=
  let stored := graph.outgoing.flatten.length
  if (stored : Int) = graph.edgeCount then [] else [.edgeCount graph.edgeCount stored]

def problems (graph : StoredGraph) : Except Misplaced (List Problem) :=
  return graph.sizeProblems ++ (← graph.indexProblems) ++ (← graph.outgoingProblems)
    ++ (← graph.incomingProblems) ++ graph.countProblems

def Problem.event? (problems : List Problem) : Option Log.Event :=
  let messages := problems.map Problem.message
  if messages.isEmpty then none
  else
    some <| .plain Log.Level.error Log.Logger.graph
      ("Graph consistency check found " ++ toString messages.length ++ " errors: ["
        ++ ", ".intercalate (messages.map fun message : String => Text.quoted message) ++ "]")

end ImportAtlas.StoredGraph
