import ImportAtlas.Yaml.NodeGraph

/-! # Merge keys

An entry whose key asks for a merge is replaced by the entries of the mappings it
names. They come before the entries of the mapping itself, which therefore win.
-/

namespace ImportAtlas.Yaml.NodeGraph

def takeMerge (graph : NodeGraph) :
    List (NodeId × NodeId) → Option (NodeId × List (NodeId × NodeId))
  | [] => none
  | (key, value) :: tail =>
      if graph.tag key = .merge then some (value, tail)
      else (graph.takeMerge tail).map fun (found, tail) => (found, (key, value) :: tail)

def settleKeys (graph : NodeGraph) (entries : List (NodeId × NodeId)) : NodeGraph :=
  entries.foldl
    (fun graph (key, _) => if graph.tag key = .value then graph.setTag key .text else graph)
    graph

/-- Carry out the merge keys of a mapping, `merged` being the entries already taken from
others. The mappings that are merged have their own merge keys carried out first; there is
`room` for so many of them in a chain. A step removes a merge key, so one step more than there
are entries is enough. -/
def mergeFrom (steps room : Nat) (graph : NodeGraph) (id : NodeId)
    (merged : List (NodeId × NodeId)) : Except Fault NodeGraph :=
  match steps, room, graph.entries? id with
  | 0, _, _ | _, _, none => .error .malformed
  | _, 0, _ => .error (.scalar .nested)
  | steps + 1, room + 1, some entries =>
      match graph.takeMerge entries with
      | none =>
          let entries := merged ++ entries
          .ok ((graph.setContent id (.mapping entries)).settleKeys entries)
      | some (value, others) => do
          let graph := graph.setContent id (.mapping others)
          match graph.items? value with
          | none =>
              let graph ← mergeFrom steps room graph value []
              mergeFrom steps (room + 1) graph id (merged ++ (graph.entries? value).getD [])
          | some items =>
              let (graph, added) ← items.foldlM
                (fun (graph, added) item => do
                  let graph ← mergeFrom steps room graph item []
                  return (graph, (graph.entries? item).getD [] ++ added))
                (graph, [])
              mergeFrom steps (room + 1) graph id (merged ++ added)

def entryCount (graph : NodeGraph) : Nat :=
  graph.foldl
    (fun count vertex =>
      match vertex.content with
      | .mapping entries => count + entries.length
      | _ => count)
    0

def merge (limit : Nat) (graph : NodeGraph) (id : NodeId) : Except Fault NodeGraph :=
  mergeFrom (graph.entryCount + 1) limit graph id []

end ImportAtlas.Yaml.NodeGraph
