import ImportAtlas.Yaml.Node

/-! # Graphs of nodes

The nodes of a document with every alias replaced by the node it names. Such a node has
several places, and may lie inside itself, so nodes are known by their numbers.
-/

namespace ImportAtlas.Yaml

abbrev NodeId := Nat

inductive Content
  | scalar (text : Text.Coded)
  | sequence (items : List NodeId)
  | mapping (entries : List (NodeId × NodeId))
deriving DecidableEq, Repr, Inhabited

structure Vertex where
  tag : Tag
  content : Content
deriving DecidableEq, Repr, Inhabited

abbrev NodeGraph := Array Vertex

namespace NodeGraph

def tag (graph : NodeGraph) (id : NodeId) : Tag :=
  (graph[id]?.map Vertex.tag).getD .unknown

def items? (graph : NodeGraph) (id : NodeId) : Option (List NodeId) :=
  match graph[id]? with
  | some ⟨_, .sequence items⟩ => some items
  | _ => none

def entries? (graph : NodeGraph) (id : NodeId) : Option (List (NodeId × NodeId)) :=
  match graph[id]? with
  | some ⟨_, .mapping entries⟩ => some entries
  | _ => none

def setContent (graph : NodeGraph) (id : NodeId) (content : Content) : NodeGraph :=
  graph.modify id fun vertex => { vertex with content }

def setTag (graph : NodeGraph) (id : NodeId) (tag : Tag) : NodeGraph :=
  graph.modify id fun vertex => { vertex with tag }

end NodeGraph

/-! ## Aliases -/

/-- The nodes found so far, and the names of those that have one. -/
structure Composition where
  graph : NodeGraph
  anchors : List (String × NodeId)
deriving Repr, Inhabited

def Composition.empty : Composition := ⟨#[], []⟩

def Composition.add (composition : Composition) (anchor : Option String) (vertex : Vertex) :
    Except Fault (NodeId × Composition) :=
  let id := composition.graph.size
  let graph := composition.graph.push vertex
  match anchor with
  | none => .ok (id, { composition with graph })
  | some name =>
      if (composition.anchors.lookup name).isSome then .error .malformed
      else .ok (id, ⟨graph, (name, id) :: composition.anchors⟩)

def Composition.fill (composition : Composition) (id : NodeId) (content : Content) : Composition :=
  { composition with graph := composition.graph.setContent id content }

def Properties.tagOr (properties : Properties) (default : Tag) : Tag :=
  (properties.tag.map Tag.ofName).getD default

def textTag (text : Text.Coded) : Tag :=
  text.whole?.elim .text plainTag

mutual

/-- Add a node and what it holds. An alias adds nothing and stands for the node it names,
which may still be unfinished. -/
def Composition.compose (composition : Composition) :
    Node → Except Fault (NodeId × Composition)
  | .alias name =>
      match composition.anchors.lookup name with
      | none => .error .malformed
      | some id => .ok (id, composition)
  | .scalar properties text isPlain =>
      let tag := properties.tagOr (if isPlain then textTag text else .text)
      composition.add properties.anchor ⟨tag, .scalar text⟩
  | .sequence properties items => do
      let (id, composition) ←
        composition.add properties.anchor ⟨properties.tagOr .list, .sequence []⟩
      let (items, composition) ← composition.composeItems items
      return (id, composition.fill id (.sequence items))
  | .mapping properties entries => do
      let (id, composition) ←
        composition.add properties.anchor ⟨properties.tagOr .mapping, .mapping []⟩
      let (entries, composition) ← composition.composeEntries entries
      return (id, composition.fill id (.mapping entries))

def Composition.composeItems (composition : Composition) :
    List Node → Except Fault (List NodeId × Composition)
  | [] => .ok ([], composition)
  | head :: tail => do
      let (head, composition) ← composition.compose head
      let (tail, composition) ← composition.composeItems tail
      return (head :: tail, composition)

def Composition.composeEntries (composition : Composition) :
    List (Node × Node) → Except Fault (List (NodeId × NodeId) × Composition)
  | [] => .ok ([], composition)
  | (key, value) :: tail => do
      let (key, composition) ← composition.compose key
      let (value, composition) ← composition.compose value
      let (tail, composition) ← composition.composeEntries tail
      return ((key, value) :: tail, composition)

end

def NodeGraph.ofNode (node : Node) : Except Fault NodeGraph :=
  (Composition.empty.compose node).map fun (_, composition) => composition.graph

end ImportAtlas.Yaml
